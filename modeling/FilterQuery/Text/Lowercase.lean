import FilterQuery.Text.Alphabetic
import FilterQuery.Text.LetterCase

/-!
# Lower case

Text is put into lower case by the full mapping of Unicode.

* `İ` becomes two characters, every other letter one;
* a capital sigma becomes a final one if a letter with case stands before it and
  none after it, characters that case ignores being passed over.
-/

namespace FilterQuery.Text

def isCased (character : Char) : Bool :=
  inRanges LetterCase.casedRanges character.toNat

/-- Whether a character is passed over when the case of a neighbour is looked
for. -/
def isCaseIgnorable (character : Char) : Bool :=
  inRanges LetterCase.caseIgnorableRanges character.toNat

/-- Whether the first character that is not passed over has case. -/
def startsCased (characters : List Char) : Bool :=
  (characters.dropWhile isCaseIgnorable).head?.any isCased

/-- What a character is mapped to, apart from its neighbours. -/
def lowerCharacter (character : Char) : List Char :=
  let code := character.toNat
  if code < 0x80 then [character.toLower]
  else if code = 0x130 then ['i', Char.ofNat 0x307]
  else
    let run := LetterCase.lowerRuns.find? fun (first, last, distance, _) =>
      first ≤ code && code ≤ last && (code - first) % distance == 0
    match run with
    | some (first, _, _, target) => [Char.ofNat (target + (code - first))]
    | none => [character]

/-- Put characters into lower case, given those before them, last one first. -/
def lowerFrom (before : List Char) : List Char → List Char
  | [] => []
  | character :: rest =>
      let mapped :=
        if character = 'Σ' then
          if startsCased before && !startsCased rest then ['ς'] else ['σ']
        else lowerCharacter character
      mapped ++ lowerFrom (character :: before) rest

/-- A text in lower case. -/
def lowercase (text : String) : String :=
  String.ofList (lowerFrom [] text.toList)

end FilterQuery.Text
