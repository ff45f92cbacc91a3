import FilterQuery.Proofs.Text.Ascii
import FilterQuery.Text.Lowercase

/-!
# Laws of lower case

* A text of ASCII is put into lower case letter by letter (`toList_lowercase_of_isAscii`), so two
  such texts come to the same exactly if they differ in letter case only
  (`lowercase_eq_lowercase_iff`);
* in any text the characters other than a capital sigma do not depend on their neighbours
  (`lowerFrom_append`), and a capital sigma depends on whether it ends a word
  (`toList_lowercase_sigma`).
-/

namespace FilterQuery.Text

variable {before characters first rest : List Char} {text other : String}

/-! ## Characters beside a capital sigma -/

theorem lowerFrom_cons_of_ne {character : Char} (different : character ≠ 'Σ') :
    lowerFrom before (character :: rest) =
      lowerCharacter character ++ lowerFrom (character :: before) rest := by
  rw [lowerFrom, if_neg different]

/-- What has no capital sigma in it is mapped character by character, whatever surrounds it. -/
theorem lowerFrom_append (absent : 'Σ' ∉ first) :
    lowerFrom before (first ++ rest) =
      first.flatMap lowerCharacter ++ lowerFrom (first.reverse ++ before) rest := by
  induction first generalizing before with
  | nil => rfl
  | cons character others inductionHypothesis =>
      rw [List.mem_cons, not_or] at absent
      rw [List.cons_append, lowerFrom_cons_of_ne (Ne.symm absent.1), inductionHypothesis absent.2,
        List.flatMap_cons, List.reverse_cons, List.append_assoc, List.append_assoc,
        List.singleton_append]

theorem lowerFrom_of_not_mem (absent : 'Σ' ∉ characters) :
    lowerFrom before characters = characters.flatMap lowerCharacter := by
  have whole :
      lowerFrom before (characters ++ []) =
        characters.flatMap lowerCharacter ++ lowerFrom (characters.reverse ++ before) [] :=
    lowerFrom_append absent
  rw [List.append_nil, lowerFrom, List.append_nil] at whole
  exact whole

/-- A capital sigma is a final one if a letter precedes it and none follows it. -/
theorem toList_lowercase_sigma
    (whole : text.toList = first ++ 'Σ' :: rest) (absentBefore : 'Σ' ∉ first)
    (absentAfter : 'Σ' ∉ rest) :
    (lowercase text).toList =
      first.flatMap lowerCharacter ++
        (if startsCased first.reverse && !startsCased rest then 'ς' else 'σ') ::
          rest.flatMap lowerCharacter := by
  rw [lowercase, String.toList_ofList, whole, lowerFrom_append absentBefore, List.append_nil,
    lowerFrom, if_pos rfl, lowerFrom_of_not_mem absentAfter]
  split
  · rfl
  · rfl

example : lowercase "ΛΌΓΟΣ." = "λόγος." := by decide +kernel

/-! ## ASCII -/

theorem lowerCharacter_of_lt {character : Char} (isAscii : character.toNat < 128) :
    lowerCharacter character = [character.toLower] := by
  rw [lowerCharacter, if_pos isAscii]

theorem flatMap_lowerCharacter_of_isAscii (isAscii : IsAscii characters) :
    characters.flatMap lowerCharacter = characters.map Char.toLower := by
  induction characters with
  | nil => rfl
  | cons character others inductionHypothesis =>
      obtain ⟨firstIsAscii, othersAreAscii⟩ := List.forall_mem_cons.mp isAscii
      rw [List.flatMap_cons, lowerCharacter_of_lt firstIsAscii, inductionHypothesis othersAreAscii,
        List.singleton_append, List.map_cons]

theorem toList_lowercase_of_isAscii (isAscii : IsAscii text.toList) :
    (lowercase text).toList = text.toList.map Char.toLower := by
  have absent : 'Σ' ∉ text.toList := by
    intro member
    exact absurd (isAscii 'Σ' member) (by decide)
  rw [lowercase, String.toList_ofList, lowerFrom_of_not_mem absent,
    flatMap_lowerCharacter_of_isAscii isAscii]

/-- Texts of ASCII that differ in letter case only are the same in lower case. -/
theorem lowercase_eq_lowercase_iff
    (isAscii : IsAscii text.toList) (otherIsAscii : IsAscii other.toList) :
    lowercase text = lowercase other ↔
      text.toList.map Char.toLower = other.toList.map Char.toLower := by
  rw [← String.toList_inj, toList_lowercase_of_isAscii isAscii,
    toList_lowercase_of_isAscii otherIsAscii]

end FilterQuery.Text
