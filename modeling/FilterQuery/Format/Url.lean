import FilterQuery.Format.Domain
import FilterQuery.Format.Identifier
import FilterQuery.Text.Percent
import FilterQuery.Text.Utf8

/-!
# Web addresses

A web address starts with `http:` or `https:`, in any letter case.

* Blanks and control characters around it are dropped, and tabs and line ends
  inside it;
* any number of slashes and backslashes may follow the scheme;
* then comes the authority, up to a slash, a backslash, a question mark or a
  number sign: what precedes its last at sign is dropped, then there is a host
  and perhaps a colon with a port below `2 ^ 16`;
* the host is an address of version 6 in brackets or a domain name, whose bytes
  may be percent-encoded; a name whose last label is a number must be an address
  of version 4.

What follows the authority is never refused.
-/

namespace FilterQuery.Format.Url

open FilterQuery.Text

/-! ## Hosts -/

def isOctalDigit (character : Char) : Bool :=
  '0' ≤ character && character ≤ '7'

/-- The number denoted by digits to a base. -/
def valueIn (base : Nat) (digits : List Char) : Nat :=
  digits.foldl (fun total digit => base * total + digitValue digit) 0
where
  /-- The number denoted by a digit. -/
  digitValue (digit : Char) : Nat :=
    if digit.isDigit then digit.toNat - '0'.toNat
    else digit.toLower.toNat - 'a'.toNat + 10

/-- The number that a part of an address denotes: hexadecimal after `0x`, octal
after `0`, and otherwise decimal. -/
def number? (part : List Char) : Option Nat :=
  let read (base : Nat) (isDigit : Char → Bool) (digits : List Char) :=
    if digits.all isDigit then some (valueIn base digits) else none
  match part with
  | [] => none
  | '0' :: 'x' :: digits => read 16 isHexDigit digits
  | '0' :: 'X' :: digits => read 16 isHexDigit digits
  | ['0'] => some 0
  | '0' :: digits => read 8 isOctalDigit digits
  | digits => read 10 Char.isDigit digits

/-- The labels without an empty one at the end. -/
def dropRoot (labels : List (List Char)) : List (List Char) :=
  match labels.getLast? with
  | some [] => labels.dropLast
  | _ => labels

/-- Whether the last label is a number, so that the name must be an address. -/
def endsInNumber (labels : List (List Char)) : Bool :=
  match (dropRoot labels).getLast? with
  | none => false
  | some last =>
      (!last.isEmpty && last.all Char.isDigit) || (number? last).isSome

/-- Whether parts are an address of version 4: at most four numbers, of which
the last one fills the octets that are left. -/
def isIpVersion4 (labels : List (List Char)) : Bool :=
  match (dropRoot labels).mapM number? with
  | none => false
  | some numbers =>
      match numbers.reverse with
      | [] => false
      | last :: others =>
          others.length < 4 && others.all (· < 256) &&
            last < Nat.pow 256 (4 - others.length)

def isHost (host : List Char) : Bool :=
  match host with
  | [] => false
  | '[' :: rest =>
      match rest.reverse with
      | ']' :: inner => isIpVersion6 inner.reverse
      | _ => false
  | _ =>
      let bytes := Percent.decode (Utf8.encode host)
      let name := Utf8.decode bytes
      if Utf8.encode name = bytes then
        match Domain.labels? name with
        | none => false
        | some labels => !endsInNumber labels || isIpVersion4 labels
      else false

/-! ## Addresses -/

def isControlOrBlank (character : Char) : Bool := character.toNat ≤ 0x20

/-- Drop controls and blanks on both sides, and tabs and line ends inside. -/
def clean (characters : List Char) : List Char :=
  let started := characters.dropWhile isControlOrBlank
  let trimmed := (started.reverse.dropWhile isControlOrBlank).reverse
  trimmed.filter fun character =>
    character ≠ '\t' && character ≠ '\n' && character ≠ '\r'

/-- The text after a web scheme and its colon. -/
def afterScheme? (characters : List Char) : Option (List Char) :=
  let scheme := characters.takeWhile (· != ':')
  let name := String.ofList (scheme.map Char.toLower)
  if scheme.length < characters.length && (name == "http" || name == "https")
  then some (characters.drop (scheme.length + 1))
  else none

/-- Whether a character separates parts of a path. -/
def isSlash (character : Char) : Bool :=
  character == '/' || character == '\\'

def endsAuthority (character : Char) : Bool :=
  isSlash character || character == '?' || character == '#'

/-- The authority without what precedes its last at sign. -/
def dropUser (authority : List Char) : List Char :=
  (authority.reverse.takeWhile (· != '@')).reverse

/-- Cut an authority at the first colon that does not stand in brackets. -/
def splitPort (inBrackets : Bool) : List Char → List Char × List Char
  | [] => ([], [])
  | character :: rest =>
      if character = ':' ∧ !inBrackets then ([], rest)
      else
        let inside :=
          if character = '[' then true
          else if character = ']' then false
          else inBrackets
        let (host, port) := splitPort inside rest
        (character :: host, port)

/-- Whether a text is a port; it may be empty. -/
def isPort (digits : List Char) : Bool :=
  digits.all Char.isDigit && valueIn 10 digits < 65536

/-- Whether a text is a web address. -/
def isUrl (text : String) : Bool :=
  match afterScheme? (clean text.toList) with
  | none => false
  | some rest =>
      let authority :=
        (rest.dropWhile isSlash).takeWhile (!endsAuthority ·)
      let (host, port) := splitPort false (dropUser authority)
      isHost host && isPort port

end FilterQuery.Format.Url
