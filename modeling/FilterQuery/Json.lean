import FilterQuery.Decimal.Layout

/-!
# Compact JSON

Parsed queries, rules and generated conditions can be written as JSON, in the
compact form: no blanks between tokens and members in the order in which they
are given.

* `Json` is a document; a number carries its text, since the layout of numbers
  belongs to whoever writes them;
* `Json.quote` writes a text, with the short escapes where JSON has them, the
  numeric escape for other control characters, and everything else as it is;
* `Json.ofFloat` writes a number in the layout of this format, and `null` for
  what JSON has no number for;
* `Json.compact` writes a document.
-/

namespace FilterQuery

/-- A JSON document. -/
inductive Json where
  | null
  | boolean (value : Bool)
  | number (digits : String)
  | text (value : String)
  | array (items : List Json)
  | object (members : List (String × Json))
  deriving Repr

namespace Json

/-- The hexadecimal digit of a number below sixteen, in lower case. -/
def hexDigit (value : Nat) : Char :=
  if value < 10 then Char.ofNat ('0'.toNat + value)
  else Char.ofNat ('a'.toNat + value - 10)

/-- One character inside a quoted text. -/
def escapeCharacter (character : Char) : List Char :=
  if character = '"' then ['\\', '"']
  else if character = '\\' then ['\\', '\\']
  else if character = '\n' then ['\\', 'n']
  else if character = '\r' then ['\\', 'r']
  else if character = '\t' then ['\\', 't']
  else if character = '\x08' then ['\\', 'b']
  else if character = '\x0c' then ['\\', 'f']
  else if character.toNat < 0x20 then
    ['\\', 'u', '0', '0', hexDigit (character.toNat / 16),
      hexDigit (character.toNat % 16)]
  else [character]

/-- A quoted text. -/
def quote (value : String) : String :=
  "\"" ++ String.ofList (value.toList.flatMap escapeCharacter) ++ "\""

def ofNat (value : Nat) : Json := .number (toString value)

/-- A text, or `null` in its absence. -/
def ofText? (value : Option String) : Json :=
  match value with
  | none => .null
  | some found => .text found

/-- Numbers are written without an exponent from a hundred-thousandth up to
ten to the sixteenth, a positive exponent has a sign, and of two equally close
decimals the even one is taken. -/
def numberLayout : Decimal.Layout where
  tie := .even
  positional := some (-5, 15)
  wholeEnding := ".0"
  exponentSign := "+"
  undefined := "null"
  infinity := "null"
  negativeInfinity := "null"

def ofFloat (value : Float) : Json := .number (numberLayout.text value)

mutual

/-- The compact text of a document. -/
def compact : Json → String
  | .null => "null"
  | .boolean true => "true"
  | .boolean false => "false"
  | .number digits => digits
  | .text value => quote value
  | .array items => "[" ++ compactItems items ++ "]"
  | .object members => "\x7b" ++ compactMembers members ++ "\x7d"

/-- Items, separated by commas. -/
def compactItems : List Json → String
  | [] => ""
  | [item] => compact item
  | item :: rest => compact item ++ "," ++ compactItems rest

/-- Members, separated by commas. -/
def compactMembers : List (String × Json) → String
  | [] => ""
  | [(name, value)] => quote name ++ ":" ++ compact value
  | (name, value) :: rest =>
      quote name ++ ":" ++ compact value ++ "," ++ compactMembers rest

end

end Json

end FilterQuery
