/-!
# Addresses and identifiers

* An email address has one at sign, no ASCII blank, something before the at sign
  and a point inside what follows it;
* an IP address has four octets with points between them, or eight groups of
  hexadecimal digits with colons between them; two colons stand for at least
  one group, and four octets can stand for the last two groups;
* a UUID has hexadecimal digits in five groups with dashes between them.
-/

namespace FilterQuery.Format

/-! ## Email addresses -/

/-- Whether a character is a blank of ASCII. -/
def isAsciiBlank (character : Char) : Bool :=
  character == ' ' || (0x09 ≤ character.toNat && character.toNat ≤ 0x0D)

def isEmail (text : String) : Bool :=
  let characters := text.toList
  let account := characters.takeWhile (· != '@')
  let domain := (characters.dropWhile (· != '@')).drop 1
  characters.all (!isAsciiBlank ·) && !account.isEmpty &&
    domain.all (· != '@') && (domain.drop 1).dropLast.contains '.'

/-! ## IP addresses -/

def isHexDigit (character : Char) : Bool :=
  character.isDigit || ('a' ≤ character && character ≤ 'f') ||
    ('A' ≤ character && character ≤ 'F')

/-- An octet in at most three digits, without leading zeros. -/
def octet? (characters : List Char) : Option (List Char) :=
  let digits := characters.takeWhile Char.isDigit
  let value := digits.foldl (fun total digit => 10 * total + (digit.toNat - 48)) 0
  if digits.isEmpty || 3 < digits.length || 255 < value then none
  else if digits.head? == some '0' && 1 < digits.length then none
  else some (characters.dropWhile Char.isDigit)

/-- So many octets, each after a point. -/
def pointedOctets? : Nat → List Char → Option (List Char)
  | 0, rest => some rest
  | count + 1, '.' :: rest => (octet? rest).bind (pointedOctets? count)
  | _ + 1, _ => none

/-- Four octets with points between them, and the text after them. -/
def octets? (characters : List Char) : Option (List Char) :=
  (octet? characters).bind (pointedOctets? 3)

/-- A group of at most four hexadecimal digits. -/
def group? (characters : List Char) : Option (List Char) :=
  let digits := characters.takeWhile isHexDigit
  if digits.isEmpty || 4 < digits.length then none
  else some (characters.dropWhile isHexDigit)

/-- What is read of groups with colons between them: how many there are, whether
the last two are octets, and the text after them. -/
structure Groups where
  count : Nat
  octets : Bool
  rest : List Char
  deriving DecidableEq, Repr

/-- At most so many further groups; all but the first of an address stand after
a colon. -/
def groups (afterColon : Bool) (found : Nat) : Nat → List Char → Groups
  | 0, rest => ⟨found, false, rest⟩
  | limit + 1, characters =>
      let start :=
        if afterColon then
          match characters with
          | ':' :: rest => some rest
          | _ => none
        else some characters
      match (if 0 < limit then start.bind octets? else none) with
      | some rest => ⟨found + 2, true, rest⟩
      | none =>
          match start.bind group? with
          | some rest => groups true (found + 1) limit rest
          | none => ⟨found, false, characters⟩

/-- Whether a text is an IP address of version 6. -/
def isIpVersion6 (characters : List Char) : Bool :=
  let head := groups false 0 8 characters
  if head.count = 8 then head.rest.isEmpty
  else if head.octets then false
  else
    match head.rest with
    | ':' :: ':' :: rest => (groups false 0 (7 - head.count) rest).rest.isEmpty
    | _ => false

def isIp (text : String) : Bool :=
  match octets? text.toList with
  | some rest => rest.isEmpty
  | none => isIpVersion6 text.toList

/-! ## UUIDs -/

/-- The numbers of digits in the groups of a UUID. -/
def uuidGroups : List Nat := [8, 4, 4, 4, 12]

/-- Whether a text consists of groups of so many hexadecimal digits with dashes
between them. -/
def isGrouped : List Nat → List Char → Bool
  | [], characters => characters.isEmpty
  | [size], characters =>
      characters.length == size && characters.all isHexDigit
  | size :: sizes, characters =>
      (characters.take size).length == size &&
        (characters.take size).all isHexDigit &&
        match characters.drop size with
        | '-' :: rest => isGrouped sizes rest
        | _ => false

def isUuid (text : String) : Bool :=
  isGrouped uuidGroups text.toList

end FilterQuery.Format
