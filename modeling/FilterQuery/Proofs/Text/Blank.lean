import FilterQuery.Proofs.Text.Digits
import FilterQuery.Text.Blank

/-!
# Texts without blanks at their ends

Trimming leaves a text as it is when a character that is no blank stands at each end.
-/

namespace FilterQuery.Text

theorem isBlank_of_isDigit {digit : Char} (isDigit : digit.isDigit = true) :
    isBlank digit = false := by
  have bounds : 48 ≤ digit.toNat ∧ digit.toNat ≤ 57 :=
    Char.isDigit_iff_toNat.mp isDigit
  simp only [isBlank, Bool.or_eq_false_iff, Bool.and_eq_false_iff,
    decide_eq_false_iff_not, beq_eq_false_iff_ne]
  omega

/-- Blanks in front of a text are dropped. -/
theorem trimStart_append
    {before : List Char} (blanks : before.all isBlank = true) (rest : List Char) :
    trimStart (before ++ rest) = trimStart rest :=
  List.dropWhile_append_of_pos (List.all_eq_true.mp blanks)

/-- Nothing but blanks is trimmed. -/
theorem exists_blanks_trim (characters : List Char) :
    ∃ before after,
      before.all isBlank = true ∧ after.all isBlank = true ∧
        characters = before ++ (trim characters ++ after) := by
  refine
    ⟨characters.takeWhile isBlank,
      ((trimStart characters).reverse.takeWhile isBlank).reverse, List.all_takeWhile, ?_, ?_⟩
  · rw [List.all_reverse]
    exact List.all_takeWhile
  · rw [trim, trimEnd, ← List.reverse_append, List.takeWhile_append_dropWhile,
      List.reverse_reverse, trimStart, List.takeWhile_append_dropWhile]

/-- A text that neither starts nor ends with a blank, and is not empty. -/
structure IsSolid (characters : List Char) : Prop where
  first :
    ∃ character rest,
      characters = character :: rest ∧ isBlank character = false
  last :
    ∃ before character,
      characters = before ++ [character] ∧ isBlank character = false

namespace IsSolid

variable {first middle second : List Char}

theorem ne_nil (solid : IsSolid first) : first ≠ [] := by
  obtain ⟨character, rest, rfl, _⟩ := solid.first
  exact List.cons_ne_nil character rest

/-- Only the ends matter. -/
theorem append (firstSolid : IsSolid first) (secondSolid : IsSolid second) :
    IsSolid (first ++ (middle ++ second)) := by
  obtain ⟨start, rest, rfl, startNotBlank⟩ := firstSolid.first
  obtain ⟨before, finish, rfl, finishNotBlank⟩ := secondSolid.last
  refine ⟨⟨start, rest ++ (middle ++ (before ++ [finish])), rfl, startNotBlank⟩,
    ⟨start :: rest ++ (middle ++ before), finish, ?_, finishNotBlank⟩⟩
  simp only [List.append_assoc, List.cons_append]

theorem of_forall
    (nonempty : first ≠ [])
    (noBlank : ∀ character ∈ first, isBlank character = false) :
    IsSolid first := by
  obtain ⟨start, rest, rfl⟩ := List.exists_cons_of_ne_nil nonempty
  refine ⟨⟨start, rest, rfl, noBlank start List.mem_cons_self⟩,
    ⟨(start :: rest).dropLast, (start :: rest).getLast nonempty, ?_, ?_⟩⟩
  · exact (List.dropLast_concat_getLast nonempty).symm
  · exact noBlank _ (List.getLast_mem nonempty)

theorem of_isRun (isRun : Digits.isRun first = true) : IsSolid first := by
  obtain ⟨digit, others, rfl, areDigits⟩ := Digits.exists_digit_of_isRun isRun
  exact
    of_forall (List.cons_ne_nil _ _) fun digit member => isBlank_of_isDigit (areDigits digit member)

theorem trimStart_append (solid : IsSolid first) (rest : List Char) :
    trimStart (first ++ rest) = first ++ rest := by
  obtain ⟨start, others, rfl, startNotBlank⟩ := solid.first
  exact List.dropWhile_cons_of_neg (by simp [startNotBlank])

/-- Blanks around a text are trimmed, and nothing else. -/
theorem trim_append
    {before after : List Char} (solid : IsSolid middle)
    (blanksBefore : before.all isBlank = true) (blanksAfter : after.all isBlank = true) :
    trim (before ++ (middle ++ after)) = middle := by
  obtain ⟨front, finish, isFinish, finishNotBlank⟩ := solid.last
  have atStart : trimStart (before ++ (middle ++ after)) = middle ++ after := by
    rw [Text.trimStart_append blanksBefore, solid.trimStart_append]
  have atEnd : trimEnd (middle ++ after) = middle := by
    rw [trimEnd, List.reverse_append, List.dropWhile_append_of_pos (by simpa using blanksAfter),
      isFinish, List.reverse_append, List.reverse_singleton, List.singleton_append,
      List.dropWhile_cons_of_neg (by simp [finishNotBlank])]
    simp
  rw [trim, atStart, atEnd]

theorem trim_eq (solid : IsSolid first) : trim first = first := by
  simpa using solid.trim_append (List.all_nil) (List.all_nil)

end IsSolid

/-- What is left after trimming starts and ends without a blank. -/
theorem isSolid_trim
    {characters : List Char} (nonempty : trim characters ≠ []) : IsSolid (trim characters) := by
  have startNotBlank :
      ∀ {others : List Char} {first : Char} {rest : List Char},
        others.dropWhile isBlank = first :: rest → isBlank first = false := by
    intro others first rest dropped
    have notBlank := List.head_dropWhile_not isBlank (dropped ▸ List.cons_ne_nil first rest)
    simpa only [dropped, List.head_cons, Bool.not_eq_true] using notBlank
  -- The characters that are left, from the last one to the first one.
  obtain ⟨last, backwards, isLast⟩ :
      ∃ last backwards, (trimStart characters).reverse.dropWhile isBlank = last :: backwards :=
    List.exists_cons_of_ne_nil fun isEmpty => nonempty (by rw [trim, trimEnd, isEmpty]; rfl)
  have isTrimmed : trim characters = backwards.reverse ++ [last] := by
    rw [trim, trimEnd, isLast, List.reverse_cons]
  obtain ⟨first, rest, isFirst⟩ := List.exists_cons_of_ne_nil nonempty
  have isStart : ∃ more, trimStart characters = first :: more := by
    have split :=
      List.takeWhile_append_dropWhile (p := isBlank) (l := (trimStart characters).reverse)
    have whole := congrArg List.reverse split
    rw [List.reverse_append, List.reverse_reverse] at whole
    exact ⟨_, by rw [← whole, ← trimEnd, ← trim, isFirst]; rfl⟩
  obtain ⟨more, isStart⟩ := isStart
  exact
    ⟨⟨first, rest, isFirst, startNotBlank isStart⟩,
      ⟨backwards.reverse, last, isTrimmed, startNotBlank isLast⟩⟩

end FilterQuery.Text
