import FilterQuery.Proofs.Text.Digits
import FilterQuery.Sql.Condition
import Mathlib.Data.List.TakeWhile

/-!
# Placeholders in a text

A placeholder is a colon with the name of a parameter after it, and the name is
the longest run of letters, digits and low lines there.

* `placeholders` are the names in a text, from left to right.  They are those
  of its parts, as long as no name runs on into the next part;
* the names of a filter's parameters tell its index.
-/

namespace FilterQuery.Sql

open FilterQuery.Text

/-- Whether a character may occur in the name of a parameter. -/
def isNameCharacter (character : Char) : Bool :=
  character.isAlphanum || character == '_'

/-- The names after the colons of a text. -/
def placeholders : List Char → List String
  | [] => []
  | character :: rest =>
      if character = ':' then
        String.ofList (rest.takeWhile isNameCharacter) :: placeholders rest
      else placeholders rest

/-- No name runs on into the text. -/
def EndsNames (characters : List Char) : Prop :=
  ∀ next ∈ characters.head?, isNameCharacter next = false

theorem endsNames_cons
    {next : Char} (endsName : isNameCharacter next = false) (rest : List Char) :
    EndsNames (next :: rest) := by
  rintro found ⟨⟩
  exact endsName

theorem endsNames_closing (rest : List Char) : EndsNames (')' :: rest) :=
  endsNames_cons (by decide) rest

section Parts

variable {first second : List Char}

theorem takeWhile_append_of_endsNames (ends : EndsNames second) :
    (first ++ second).takeWhile isNameCharacter =
      first.takeWhile isNameCharacter := by
  induction first with
  | nil =>
      cases second with
      | nil => rfl
      | cons next rest =>
          have isNoName : isNameCharacter next = false := ends next rfl
          simp [isNoName]
  | cons character rest inductionHypothesis =>
      simp only [List.cons_append, List.takeWhile_cons, inductionHypothesis]

theorem placeholders_append (ends : EndsNames second) :
    placeholders (first ++ second) =
      placeholders first ++ placeholders second := by
  induction first with
  | nil => rfl
  | cons character rest inductionHypothesis =>
      simp only [List.cons_append, placeholders]
      split
      · rw [takeWhile_append_of_endsNames ends, inductionHypothesis]
        rfl
      · exact inductionHypothesis

/-- A part without colons has no names. -/
theorem placeholders_append_of_not_mem (noColon : ':' ∉ first) :
    placeholders (first ++ second) = placeholders second := by
  induction first with
  | nil => rfl
  | cons character rest inductionHypothesis =>
      rw [List.mem_cons, not_or] at noColon
      obtain ⟨isNoColon, others⟩ := noColon
      rw [List.cons_append, placeholders, if_neg (Ne.symm isNoColon)]
      exact inductionHypothesis others

theorem placeholders_of_not_mem (noColon : ':' ∉ first) :
    placeholders first = [] := by
  have whole : placeholders (first ++ []) = [] :=
    placeholders_append_of_not_mem noColon
  rwa [List.append_nil] at whole

/-- Parentheses around a text add no names. -/
theorem placeholders_enclosed :
    placeholders ('(' :: (first ++ [')'])) = placeholders first := by
  rw [placeholders, if_neg (by decide),
    placeholders_append (endsNames_closing [])]
  simp [placeholders]

/-- A colon with a name after it is one placeholder. -/
theorem placeholders_placeholder
    {name : String}
    (isName :
      ∀ character ∈ name.toList, isNameCharacter character = true) :
    placeholders (placeholder name).toList = [name] := by
  have noColon : ':' ∉ name.toList := by
    intro member
    exact absurd (isName ':' member) (by decide)
  have asList : (placeholder name).toList = ':' :: name.toList :=
    String.toList_append
  rw [asList, placeholders, if_pos rfl, placeholders_of_not_mem noColon,
    List.takeWhile_eq_self_iff.mpr isName, String.ofList_toList]

end Parts

/-! ## The names of a filter's parameters -/

/-- A name is that of the parameter of a filter or of one of its elements. -/
inductive IsNameOf (index : Nat) : String → Prop where
  | parameter : IsNameOf index (parameterName index)
  | element (position : Nat) : IsNameOf index (elementName index position)

theorem isNameCharacter_of_isDigit
    {character : Char} (isDigit : character.isDigit = true) :
    isNameCharacter character = true := by
  simp [isNameCharacter, Char.isAlphanum, isDigit]

theorem toList_parameterName (index : Nat) :
    (parameterName index).toList =
      ['f', 'i', 'l', 't', 'e', 'r', '_'] ++ (toString index).toList :=
  String.toList_append

theorem isNameCharacter_of_mem_parameterName
    {index : Nat} {character : Char}
    (member : character ∈ (parameterName index).toList) :
    isNameCharacter character = true := by
  rw [toList_parameterName] at member
  rcases List.mem_append.mp member with isLetter | isDigit
  · have letters :
        ['f', 'i', 'l', 't', 'e', 'r', '_'].all isNameCharacter = true := by
      decide
    exact List.all_eq_true.mp letters character isLetter
  · exact isNameCharacter_of_isDigit (Digits.isDigit_of_mem_toString isDigit)

namespace IsNameOf

variable {index : Nat} {name : String}

theorem isNameCharacter
    (isName : IsNameOf index name)
    {character : Char} (member : character ∈ name.toList) :
    isNameCharacter character = true := by
  cases isName with
  | parameter => exact isNameCharacter_of_mem_parameterName member
  | element position =>
      simp only [elementName, String.toList_append, List.mem_append] at member
      rcases member with (isParameter | isLowLine) | isDigit
      · exact isNameCharacter_of_mem_parameterName isParameter
      · have same : character = '_' := List.mem_singleton.mp isLowLine
        rw [same]
        decide
      · exact isNameCharacter_of_isDigit (Digits.isDigit_of_mem_toString isDigit)

/-- The digits after the first low line are those of the index. -/
theorem takeWhile_isDigit (isName : IsNameOf index name) :
    (name.toList.drop 7).takeWhile Char.isDigit = (toString index).toList := by
  have run : ∀ digit ∈ (toString index).toList, digit.isDigit = true :=
    fun _ => Digits.isDigit_of_mem_toString
  cases isName with
  | parameter =>
      rw [toList_parameterName]
      exact List.takeWhile_eq_self_iff.mpr run
  | element position =>
      have ends :
          ∀ next ∈ ("_".toList ++ (toString position).toList).head?,
            next.isDigit = false := by
        intro next isNext
        cases isNext
        decide
      rw [elementName, String.toList_append, String.toList_append,
        toList_parameterName, List.append_assoc, List.append_assoc]
      exact (Digits.takeWhile_isDigit_append run ends).1

/-- A name tells the index of its filter. -/
theorem index_eq
    {other : Nat} (isName : IsNameOf index name)
    (isOther : IsNameOf other name) : index = other := by
  have sameDigits : (toString index).toList = (toString other).toList :=
    isName.takeWhile_isDigit.symm.trans isOther.takeWhile_isDigit
  exact Digits.toString_injective (String.toList_inj.mp sameDigits)

end IsNameOf

end FilterQuery.Sql
