import FilterQuery.Text.Utf8

/-!
# ASCII texts

A character of ASCII takes one byte, so in a text of such characters the offsets of bytes and of
characters are the same.  Letters and digits are characters of ASCII.
-/

namespace FilterQuery

/-! ## Letters and digits -/

section LettersAndDigits

variable {character : Char}

theorem isAlphanum_iff :
    character.isAlphanum = true ↔
      character.isUpper = true ∨ character.isLower = true ∨
        character.isDigit = true := by
  have parts :
      character.isAlphanum =
        (character.isUpper || character.isLower || character.isDigit) := rfl
  rw [parts, Bool.or_eq_true, Bool.or_eq_true, or_assoc]

theorem isUpper_iff :
    character.isUpper = true ↔ 'A' ≤ character ∧ character ≤ 'Z' := by
  have bounds :
      character.isUpper = decide ('A' ≤ character ∧ character ≤ 'Z') := rfl
  rw [bounds, decide_eq_true_eq]

theorem isLower_iff :
    character.isLower = true ↔ 'a' ≤ character ∧ character ≤ 'z' := by
  have bounds :
      character.isLower =
        (decide ('a' ≤ character) && decide (character ≤ 'z')) := rfl
  rw [bounds, Bool.and_eq_true, decide_eq_true_eq, decide_eq_true_eq]

theorem isDigit_iff :
    character.isDigit = true ↔ '0' ≤ character ∧ character ≤ '9' := by
  have bounds :
      character.isDigit =
        (decide ('0' ≤ character) && decide (character ≤ '9')) := rfl
  rw [bounds, Bool.and_eq_true, decide_eq_true_eq, decide_eq_true_eq]

theorem toNat_bounds_of_isAlphanum (isAlphanum : character.isAlphanum = true) :
    48 ≤ character.toNat ∧ character.toNat ≤ 122 ∧ character.toNat ≠ 58 := by
  have asNumbers :
      ∀ first second : Char, first ≤ second ↔ first.toNat ≤ second.toNat :=
    fun _ _ => Iff.rfl
  rw [isAlphanum_iff, isUpper_iff, isLower_iff, isDigit_iff] at isAlphanum
  simp only [asNumbers, Char.reduceToNat] at isAlphanum
  omega

end LettersAndDigits

/-! ## Bytes -/

namespace Text

/-- Every character is one of ASCII. -/
def IsAscii (characters : List Char) : Prop :=
  ∀ character ∈ characters, character.toNat < 128

theorem utf8Size_of_lt {character : Char} (isAscii : character.toNat < 128) :
    character.utf8Size = 1 := by
  rw [Char.utf8Size_eq_one_iff, UInt32.le_iff_toNat_le]
  exact Nat.le_of_lt_succ isAscii

theorem utf8ByteSize_ofList {characters : List Char} (isAscii : IsAscii characters) :
    (String.ofList characters).utf8ByteSize = characters.length := by
  rw [Utf8.utf8ByteSize_eq, String.toList_ofList]
  induction characters with
  | nil => rfl
  | cons first rest inductionHypothesis =>
      obtain ⟨firstIsAscii, restIsAscii⟩ := List.forall_mem_cons.mp isAscii
      rw [Utf8.length_encode_cons, utf8Size_of_lt firstIsAscii, inductionHypothesis restIsAscii,
        List.length_cons, Nat.add_comm]

theorem lt_of_isDigit {digit : Char} (isDigit : digit.isDigit = true) : digit.toNat < 128 := by
  have bounds : 48 ≤ digit.toNat ∧ digit.toNat ≤ 57 := Char.isDigit_iff_toNat.mp isDigit
  omega

end Text

end FilterQuery
