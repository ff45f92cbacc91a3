import FilterQuery.Text.Digits
import FilterQuery.Toml.Characters

/-!
# Quoted texts

* Between double quotes a backslash starts an escape sequence, between single quotes
  every character stands for itself;
* three quotes enclose a text of several lines, in which a carriage return before a
  line feed is dropped, and so is a line end right after the opening quotes; there a
  backslash at the end of a line joins it with the next character that is no blank;
* up to two quotes may stand before the three closing ones.

Each function takes the characters after the opening quotes, and gives the text with
the characters after the closing quotes.
-/

namespace FilterQuery.Toml

/-- Put a character before the text that was read. -/
def prepend (character : Char) (found : Option (List Char × List Char)) :
    Option (List Char × List Char) :=
  found.map fun (text, rest) => (character :: text, rest)

/-! ## Escape sequences -/

/-- The character that a letter after a backslash stands for. -/
def escaped? : Char → Option Char
  | 'b' => some '\x08'
  | 't' => some '\t'
  | 'n' => some '\n'
  | 'f' => some '\x0c'
  | 'r' => some '\r'
  | '"' => some '"'
  | '\\' => some '\\'
  | _ => none

/-- The number denoted by a digit of a base up to sixteen. -/
def digitOf? (base : Nat) (character : Char) : Option Nat :=
  let value :=
    if character.isDigit then character.toNat - '0'.toNat
    else if character.isAlpha then character.toLower.toNat - 'a'.toNat + 10
    else base
  if value < base then some value else none

def numberOf? (base : Nat) (digits : List Char) : Option Nat :=
  digits.foldlM (fun total digit =>
    (digitOf? base digit).map (base * total + ·)) 0

/-- The character whose number is given by hexadecimal digits. -/
def scalarOf? (digits : List Char) : Option Char :=
  (numberOf? 16 digits).bind fun code =>
    if code.isValidChar then some (Char.ofNat code) else none

/-! ## Double quotes -/

/-- A text between double quotes. -/
def readBasic : List Char → Option (List Char × List Char)
  | [] => none
  | '"' :: rest => some ([], rest)
  | '\\' :: 'u' :: a :: b :: c :: d :: rest => do
      prepend (← scalarOf? [a, b, c, d]) (readBasic rest)
  | '\\' :: 'U' :: a :: b :: c :: d :: e :: f :: g :: h :: rest => do
      prepend (← scalarOf? [a, b, c, d, e, f, g, h]) (readBasic rest)
  | '\\' :: letter :: rest => do prepend (← escaped? letter) (readBasic rest)
  | character :: rest =>
      if isPlain character && character != '\\' then
        prepend character (readBasic rest)
      else none

/-- A text of several lines between double quotes; `joining` says whether blanks and
line ends are dropped because of a backslash at the end of a line. -/
def readBasicLines (joining : Bool) :
    List Char → Option (List Char × List Char)
  | [] => none
  | '"' :: '"' :: '"' :: '"' :: '"' :: rest => some (['"', '"'], rest)
  | '"' :: '"' :: '"' :: '"' :: rest => some (['"'], rest)
  | '"' :: '"' :: '"' :: rest => some ([], rest)
  | '\r' :: '\n' :: rest =>
      if joining then readBasicLines true rest
      else prepend '\n' (readBasicLines false rest)
  | '\\' :: 'u' :: a :: b :: c :: d :: rest => do
      prepend (← scalarOf? [a, b, c, d]) (readBasicLines false rest)
  | '\\' :: 'U' :: a :: b :: c :: d :: e :: f :: g :: h :: rest => do
      prepend (← scalarOf? [a, b, c, d, e, f, g, h]) (readBasicLines false rest)
  | '\\' :: letter :: rest =>
      if (lineEnd? (skipSpaces (letter :: rest))).isSome then
        readBasicLines true (letter :: rest)
      else do prepend (← escaped? letter) (readBasicLines false rest)
  | character :: rest =>
      if joining && (isSpace character || character = '\n') then
        readBasicLines true rest
      else if character = '\n' || isPlain character && character != '\\' then
        prepend character (readBasicLines false rest)
      else none

/-! ## Single quotes -/

/-- A text between single quotes. -/
def readLiteral : List Char → Option (List Char × List Char)
  | [] => none
  | '\'' :: rest => some ([], rest)
  | character :: rest =>
      if isPlain character then prepend character (readLiteral rest) else none

/-- A text of several lines between single quotes. -/
def readLiteralLines : List Char → Option (List Char × List Char)
  | [] => none
  | '\'' :: '\'' :: '\'' :: '\'' :: '\'' :: rest => some (['\'', '\''], rest)
  | '\'' :: '\'' :: '\'' :: '\'' :: rest => some (['\''], rest)
  | '\'' :: '\'' :: '\'' :: rest => some ([], rest)
  | '\r' :: '\n' :: rest => prepend '\n' (readLiteralLines rest)
  | character :: rest =>
      if character = '\n' || isPlain character then
        prepend character (readLiteralLines rest)
      else none

/-! ## Both -/

/-- Drop a line end right after opening quotes. -/
def skipLineEnd (characters : List Char) : List Char :=
  (lineEnd? characters).getD characters

/-- A quoted text of one line, from its opening quote on. -/
def readQuoted : List Char → Option (List Char × List Char)
  | '"' :: rest => readBasic rest
  | '\'' :: rest => readLiteral rest
  | _ => none

/-- A quoted text of any kind, from its opening quotes on. -/
def readText : List Char → Option (List Char × List Char)
  | '"' :: '"' :: '"' :: rest => readBasicLines false (skipLineEnd rest)
  | '\'' :: '\'' :: '\'' :: rest => readLiteralLines (skipLineEnd rest)
  | characters => readQuoted characters

end FilterQuery.Toml
