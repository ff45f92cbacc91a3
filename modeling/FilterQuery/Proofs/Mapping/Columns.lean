import FilterQuery.Proofs.Mapping.Construction
import FilterQuery.Proofs.Pattern.Reaching
import FilterQuery.Proofs.Text.Ascii

/-!
# Columns that match the default pattern

Unless another pattern is declared, a column is made of letters and digits,
points and low lines.  So nothing in it is mistaken for another part of a
condition.
-/

namespace FilterQuery

open FilterQuery.Pattern

/-- What columns are made of by the default pattern. -/
def IsColumnCharacter (character : Char) : Prop :=
  character.isAlphanum = true ∨ character = '_' ∨ character = '.'

/-- A text is made of one or more such characters. -/
structure IsColumn (text : String) : Prop where
  nonempty : text.toList ≠ []
  characters : ∀ character ∈ text.toList, IsColumnCharacter character

/-! ## Classes -/

theorem swapCase_eq_or_isAlphanum (character : Char) :
    swapCase character = character ∨ character.isAlphanum = true := by
  unfold swapCase
  split
  · rename_i isLower
    exact .inr (isAlphanum_iff.mpr (.inr (.inl isLower)))
  · split
    · rename_i isUpper
      exact .inr (isAlphanum_iff.mpr (.inl isUpper))
    · exact .inl rfl

/-- Disregarding letter case adds letters only. -/
theorem isColumnCharacter_of_anyCase
    {folded : CharClass}
    (within :
      ∀ character, folded.contains character = true →
        IsColumnCharacter character)
    {character : Char}
    (contained : (CharClass.anyCase folded).contains character = true) :
    IsColumnCharacter character := by
  rcases swapCase_eq_or_isAlphanum character with same | isAlphanum
  · simp only [CharClass.contains, same, Bool.or_self] at contained
    exact within character contained
  · exact .inl isAlphanum

/-- The class of ASCII letters and digits, as it is read. -/
def letterOrDigit : CharClass :=
  .anyCase (.union (.union .nothing (.range '0' '9')) (.range 'a' 'z'))

/-- The class of ASCII letters, as it is read. -/
def letter : CharClass := .anyCase (.union .nothing (.range 'a' 'z'))

/-- The class of what stands between words, as it is read. -/
def separator : CharClass :=
  .anyCase (.union (.union .nothing (.range '_' '_')) (.range '.' '.'))

theorem isColumnCharacter_of_lower
    {character : Char} (above : 'a' ≤ character) (below : character ≤ 'z') :
    IsColumnCharacter character :=
  .inl (isAlphanum_iff.mpr (.inr (.inl (isLower_iff.mpr ⟨above, below⟩))))

theorem isColumnCharacter_of_digit
    {character : Char} (above : '0' ≤ character) (below : character ≤ '9') :
    IsColumnCharacter character :=
  .inl (isAlphanum_iff.mpr (.inr (.inr (isDigit_iff.mpr ⟨above, below⟩))))

theorem isColumnCharacter_of_letter
    {character : Char} (contained : letter.contains character = true) :
    IsColumnCharacter character := by
  refine isColumnCharacter_of_anyCase ?_ contained
  intro tested member
  simp only [CharClass.contains, Bool.false_or, Bool.and_eq_true,
    decide_eq_true_eq] at member
  exact isColumnCharacter_of_lower member.1 member.2

theorem isColumnCharacter_of_letterOrDigit
    {character : Char} (contained : letterOrDigit.contains character = true) :
    IsColumnCharacter character := by
  refine isColumnCharacter_of_anyCase ?_ contained
  intro tested member
  simp only [CharClass.contains, Bool.false_or, Bool.or_eq_true,
    Bool.and_eq_true, decide_eq_true_eq] at member
  rcases member with isDigit | isLower
  · exact isColumnCharacter_of_digit isDigit.1 isDigit.2
  · exact isColumnCharacter_of_lower isLower.1 isLower.2

theorem isColumnCharacter_of_separator
    {character : Char} (contained : separator.contains character = true) :
    IsColumnCharacter character := by
  refine isColumnCharacter_of_anyCase ?_ contained
  intro tested member
  simp only [CharClass.contains, Bool.false_or, Bool.or_eq_true,
    Bool.and_eq_true, decide_eq_true_eq] at member
  rcases member with ⟨above, below⟩ | ⟨above, below⟩
  · exact .inr (.inl (Char.le_antisymm below above))
  · exact .inr (.inr (Char.le_antisymm below above))

/-! ## The whole pattern -/

/-- What stands between the anchors of the default pattern, after its first
letter. -/
def columnTail : List Node :=
  [.repetition 0 none (.oneOf letterOrDigit),
    .repetition 0 none
      (.capture
        (.sequence
          [.repetition 1 none (.oneOf separator),
            .repetition 1 none (.oneOf letterOrDigit)]))]

/-- The default pattern, as it is read. -/
def defaultColumnNode : Node :=
  .sequence
    (.assertion .textStart :: .oneOf letter ::
      (columnTail ++ [.assertion .textEnd]))

theorem ofText?_defaultColumnPattern :
    Node.ofText? { caseInsensitive := true }
      Declaration.defaultColumnPattern = .ok defaultColumnNode := rfl

theorem within_columnTail : Node.WithinAll IsColumnCharacter columnTail :=
  ⟨fun _ => isColumnCharacter_of_letterOrDigit,
    ⟨fun _ => isColumnCharacter_of_separator,
      fun _ => isColumnCharacter_of_letterOrDigit, trivial⟩,
    trivial⟩

theorem endsInSequence_append
    {text : List Char} {first second : List Node} {starts : Marks} :
    Node.endsInSequence text (first ++ second) starts =
      Node.endsInSequence text second
        (Node.endsInSequence text first starts) := by
  induction first generalizing starts with
  | nil => rfl
  | cons item rest inductionHypothesis =>
      simp only [List.cons_append, Node.endsInSequence, inductionHypothesis]

/-- The end of a text is the only position without a character after it. -/
theorem marked_textEnd
    {text : List Char} {previous : Option Char} {position : Nat}
    (marked :
      Marks.Marked (Assertion.positions .textEnd previous text) position) :
    position = text.length := by
  induction text generalizing previous position with
  | nil =>
      cases position with
      | zero => rfl
      | succ before => cases marked
  | cons character rest inductionHypothesis =>
      cases position with
      | zero => cases marked
      | succ before => exact congrArg (· + 1) (inductionHypothesis marked)

/-- The start of a text is the only position without a character before it. -/
theorem marked_textStart
    {text : List Char} {position : Nat}
    (marked : Marks.Marked (Assertion.positions .textStart none text) position) :
    position = 0 := by
  have onlyFirst :
      ∀ {rest : List Char} {before : Char} {later : Nat},
        ¬Marks.Marked (Assertion.positions .textStart (some before) rest)
          later := by
    intro rest
    induction rest with
    | nil =>
        intro before later isMarked
        cases later with
        | zero => cases isMarked
        | succ _ => cases isMarked
    | cons character rest inductionHypothesis =>
        intro before later isMarked
        cases later with
        | zero => cases isMarked
        | succ _ => exact inductionHypothesis isMarked
  cases text with
  | nil =>
      cases position with
      | zero => rfl
      | succ before => cases marked
  | cons character rest =>
      cases position with
      | zero => rfl
      | succ before => exact absurd marked onlyFirst

theorem isColumn_of_matchesIn
    {text : String}
    (isMatch : defaultColumnNode.matchesIn text.toList = true) :
    IsColumn text := by
  generalize startsAre : List.replicate (text.toList.length + 1) true = starts
  unfold Node.matchesIn at isMatch
  rw [startsAre] at isMatch
  -- Some position is left once all parts have been followed.
  obtain ⟨finish, marked⟩ :
      ∃ finish,
        Marks.Marked (defaultColumnNode.ends text.toList starts) finish := by
    simp only [Marks.isEmpty, Bool.not_eq_true', List.all_eq_false] at isMatch
    obtain ⟨mark, member, isMarked⟩ := isMatch
    obtain ⟨finish, found⟩ := List.getElem?_of_mem member
    refine ⟨finish, ?_⟩
    unfold Marks.Marked
    rw [found]
    simpa using isMarked
  simp only [defaultColumnNode, Node.ends, Node.endsInSequence,
    endsInSequence_append] at marked
  obtain ⟨tailMarked, atEnd⟩ := Marks.marked_both marked
  obtain ⟨second, secondMarked, secondLe, tailWithin⟩ :=
    Node.reaches_endsInSequence columnTail within_columnTail _ finish tailMarked
  obtain ⟨first, character, isNext, firstMarked, isFirst, isLetter⟩ :=
    Marks.exists_of_marked_advance secondMarked
  have firstIsStart : first = 0 :=
    marked_textStart (Marks.marked_both firstMarked).2
  have finishIsEnd : finish = text.toList.length := marked_textEnd atEnd
  subst isNext firstIsStart finishIsEnd
  refine ⟨?_, ?_⟩
  · intro isEmpty
    rw [isEmpty] at isFirst
    cases isFirst
  · intro tested member
    obtain ⟨position, found⟩ := List.getElem?_of_mem member
    cases position with
    | zero =>
        cases isFirst.symm.trans found
        exact isColumnCharacter_of_letter isLetter
    | succ before =>
        have below : before + 1 < text.toList.length :=
          (List.getElem?_eq_some_iff.mp found).1
        exact tailWithin (before + 1) tested (by omega) below found

namespace Declaration

/-- The columns of a mapping that keeps to the default pattern. -/
theorem Passed.isColumn
    {declaration : Declaration} {mapping : Mapping}
    (passed : Passed declaration mapping)
    (isDefault :
      declaration.columnPattern.getD defaultColumnPattern =
        defaultColumnPattern)
    {key column : String} (related : mapping.column? key = some column) :
    IsColumn column := by
  obtain ⟨pattern, compiled, allMatch⟩ := passed.columnsMatch
  rw [isDefault, compilePattern] at compiled
  obtain ⟨node, read, same⟩ :=
    Outcome.map_eq_ok_iff.mp (Outcome.mapError_eq_ok_iff.mp compiled)
  rw [ofText?_defaultColumnPattern] at read
  cases read
  have isMatch := allMatch (key, column) (OrderedMap.mem_of_lookup related)
  rw [← same] at isMatch
  exact isColumn_of_matchesIn isMatch

end Declaration

end FilterQuery
