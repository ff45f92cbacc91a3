import FilterQuery.Format.DomainCharacters
import FilterQuery.Format.Punycode
import FilterQuery.Text.Alphabetic
import FilterQuery.Text.Split

/-!
# Domain names

`Domain.labels?` maps the characters of a domain name and cuts it into its
labels, or refuses it.

* No character may be one that addresses reserve;
* a label that starts with `xn--` must decode to a label that is mapped to
  itself and is not written in ASCII;
* no label starts with a combining mark;
* a joiner stands after a mark that joins consonants, and one that prevents
  joining can stand between letters that join;
* if some label is written from right to left, every label must keep to the
  rules for mixing directions.
-/

namespace FilterQuery.Format.Domain

open FilterQuery.Text

/-! ## Mapping -/

/-- Whether an ASCII character is refused in a domain name. -/
def isReserved (character : Char) : Bool :=
  character.toNat ≤ 0x20 || character.toNat == 0x7F ||
    "%#/:<>?@[\\]^|".toList.contains character

/-- What a character is mapped to; nothing if it is refused. -/
def mapCharacter? (character : Char) : Option (List Char) :=
  let code := character.toNat
  if code < 0x80 then some [character.toLower]
  else if inRanges disallowedRanges code then none
  else if inRanges ignoredRanges code then some []
  else
    let range := asciiRanges.find? fun range =>
      range.1 ≤ code && code ≤ range.2.1
    match range with
    | some (first, _, target) => some [Char.ofNat (target + (code - first))]
    | none =>
        match asciiTexts.lookup code with
        | some text => some text.toList
        | none => some [character]

/-- A whole name, mapped. -/
def mapName? (name : List Char) : Option (List Char) :=
  match name with
  | [] => some []
  | character :: rest => do
      let mapped ← mapCharacter? character
      if mapped.any isReserved then none
      else
        let others ← mapName? rest
        some (mapped ++ others)

/-! ## Labels -/

def isAscii (label : List Char) : Bool :=
  label.all fun character => character.toNat < 0x80

/-- Whether a character is mapped to itself. -/
def isUnmapped (character : Char) : Bool :=
  !inRanges disallowedRanges character.toNat &&
    !inRanges mappedRanges character.toNat

/-- The label that is meant: one that starts with `xn--` is decoded. -/
def decodeLabel? (label : List Char) : Option (List Char) :=
  match label with
  | 'x' :: 'n' :: '-' :: '-' :: encoded =>
      (Punycode.decode? encoded).filter fun decoded =>
        isAscii label && !isAscii decoded && decoded.all isUnmapped
  | _ => some label

/-- Whether a character is a combining mark. -/
def isMark (character : Char) : Bool :=
  inRanges markRanges character.toNat

/-- Whether letters join across what stands before a joiner, last character
first, and what stands after it. -/
def joinsAcross (before after : List Char) : Bool :=
  let joinsForward (character : Char) : Bool :=
    inRanges joiningLeftRanges character.toNat ||
      inRanges joiningDualRanges character.toNat
  let joinsBackward (character : Char) : Bool :=
    inRanges joiningRightRanges character.toNat ||
      inRanges joiningDualRanges character.toNat
  (before.dropWhile isMark).head?.any joinsForward &&
    (after.dropWhile isMark).head?.any joinsBackward

/-- Whether every joiner has its place, given the characters before the rest of
a label, last one first. -/
def joinersInPlace (before : List Char) : List Char → Bool
  | [] => true
  | character :: rest =>
      let afterVirama := before.head?.any fun previous =>
        inRanges viramaRanges previous.toNat
      let inPlace :=
        if character.toNat = 0x200C then
          afterVirama || joinsAcross before rest
        else if character.toNat = 0x200D then afterVirama
        else true
      inPlace && joinersInPlace (character :: before) rest

/-- Whether a label that is not written in ASCII is valid. -/
def isValidLabel (label : List Char) : Bool :=
  isAscii label ||
    (!label.head?.any isMark && joinersInPlace [] label)

/-! ## Directions of writing -/

/-- The direction class of a character. -/
inductive Direction where
  | leftToRight
  | rightToLeft
  | arabicNumber
  | europeanNumber
  | nonspacing
  | neutral
  deriving DecidableEq, Repr

def direction (character : Char) : Direction :=
  let code := character.toNat
  if inRanges rightToLeftRanges code || inRanges arabicLetterRanges code then
    .rightToLeft
  else if inRanges arabicNumberRanges code then .arabicNumber
  else if inRanges europeanNumberRanges code then .europeanNumber
  else if inRanges nonspacingRanges code then .nonspacing
  else if inRanges neutralRanges code then .neutral
  else .leftToRight

/-- Whether a label has a character that is written from right to left. -/
def hasRightToLeft (label : List Char) : Bool :=
  label.any fun character =>
    direction character == .rightToLeft || direction character == .arabicNumber

/-- Whether a label of a name with both directions keeps to the rules: it starts
with a letter, and its direction decides what else it may hold and what it may
end with. -/
def keepsDirection (label : List Char) : Bool :=
  let directions := label.map direction
  let ending := (directions.reverse.dropWhile (· == .nonspacing)).head?
  match directions with
  | [] => true
  | .rightToLeft :: _ =>
      !directions.contains .leftToRight &&
        (ending == some .rightToLeft || ending == some .europeanNumber ||
          ending == some .arabicNumber) &&
        !(directions.contains .europeanNumber &&
          directions.contains .arabicNumber)
  | .leftToRight :: _ =>
      !directions.contains .rightToLeft &&
        !directions.contains .arabicNumber &&
        (ending == some .leftToRight || ending == some .europeanNumber)
  | _ => false

/-! ## Names -/

/-- The mapped labels of a domain name that is valid and not empty. -/
def labels? (name : List Char) : Option (List (List Char)) := do
  let mapped ← mapName? name
  if mapped.isEmpty then none
  else
    let labels := Split.splitAt '.' mapped
    let meant ← labels.mapM decodeLabel?
    let mixed := meant.any hasRightToLeft
    if meant.all isValidLabel && (!mixed || meant.all keepsDirection) then
      some labels
    else none

end FilterQuery.Format.Domain
