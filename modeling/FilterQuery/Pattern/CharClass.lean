/-!
# Classes of characters

A class is built from ranges by union and complement, and by disregarding the
case of ASCII letters.  `CharClass.contains` says which characters belong to
it.
-/

namespace FilterQuery.Pattern

/-- The other case of an ASCII letter; any other character is unchanged. -/
def swapCase (character : Char) : Char :=
  if character.isLower then character.toUpper
  else if character.isUpper then character.toLower
  else character

/-- A class of characters. -/
inductive CharClass where
  | nothing
  | range (first last : Char)
  | union (left right : CharClass)
  | complement (excluded : CharClass)
  | anyCase (folded : CharClass)
  deriving DecidableEq, Repr

namespace CharClass

/-- Whether a character belongs to a class. -/
def contains : CharClass → Char → Bool
  | .nothing, _ => false
  | .range first last, tested => first ≤ tested && tested ≤ last
  | .union left right, tested => left.contains tested || right.contains tested
  | .complement excluded, tested => !excluded.contains tested
  | .anyCase folded, tested =>
      folded.contains tested || folded.contains (swapCase tested)

def single (character : Char) : CharClass := .range character character

/-- The class of the characters of several classes. -/
def unionAll (classes : List CharClass) : CharClass :=
  classes.foldr .union .nothing

def ofRanges (ranges : List (Char × Char)) : CharClass :=
  unionAll (ranges.map fun range => .range range.1 range.2)

/-- How many ranges the class is made of. -/
def rangeCount : CharClass → Nat
  | .nothing => 0
  | .range .. => 1
  | .union left right => left.rangeCount + right.rangeCount
  | .complement excluded => excluded.rangeCount + 1
  | .anyCase folded => 2 * folded.rangeCount

/-! ## Named classes -/

def digit : CharClass := .range '0' '9'

/-- The blanks of patterns, which are ASCII. -/
def space : CharClass :=
  ofRanges [('\t', '\t'), ('\n', '\n'), ('\x0b', '\x0b'), ('\x0c', '\x0c'),
    ('\r', '\r'), (' ', ' ')]

/-- Word characters: ASCII letters and digits and the low line. -/
def word : CharClass :=
  ofRanges [('0', '9'), ('A', 'Z'), ('_', '_'), ('a', 'z')]

def isWord (character : Char) : Bool := word.contains character

/-- The classes that can be named between colons inside brackets. -/
def named? (name : String) : Option CharClass :=
  let ranges : List (Char × Char) :=
    match name with
    | "alnum" => [('0', '9'), ('A', 'Z'), ('a', 'z')]
    | "alpha" => [('A', 'Z'), ('a', 'z')]
    | "ascii" => [('\x00', '\x7f')]
    | "blank" => [('\t', '\t'), (' ', ' ')]
    | "cntrl" => [('\x00', '\x1f'), ('\x7f', '\x7f')]
    | "digit" => [('0', '9')]
    | "graph" => [('!', '~')]
    | "lower" => [('a', 'z')]
    | "print" => [(' ', '~')]
    | "punct" => [('!', '/'), (':', '@'), ('[', '\x60'), ('\x7b', '~')]
    | "space" =>
        [('\t', '\t'), ('\n', '\n'), ('\x0b', '\x0b'), ('\x0c', '\x0c'),
          ('\r', '\r'), (' ', ' ')]
    | "upper" => [('A', 'Z')]
    | "word" => [('0', '9'), ('A', 'Z'), ('_', '_'), ('a', 'z')]
    | "xdigit" => [('0', '9'), ('A', 'F'), ('a', 'f')]
    | _ => []
  if ranges.isEmpty then none else some (ofRanges ranges)

end CharClass

end FilterQuery.Pattern
