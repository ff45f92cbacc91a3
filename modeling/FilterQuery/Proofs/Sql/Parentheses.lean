import FilterQuery.Proofs.Text.Blank
import FilterQuery.Sql.Clause

/-!
# Parentheses in a text

`openAfter` counts the parentheses that are open.  A text is balanced when each
of its parentheses is closed and none is closed before it was opened.

* The parenthesis that closes a balanced text is determined, so `enclosed?`
  finds exactly the parentheses that stand around a balanced text;
* `strip` and `enclose` come down to taking such parentheses off, since the
  texts in question neither start nor end with a blank.  Of any text they only
  take off blanks and parentheses (`wrapsTo_strip`).
-/

namespace FilterQuery.Sql

open FilterQuery.Text (IsSolid)

/-! ## Balance -/

/-- How many parentheses are open at the end, unless one is closed that was not
opened. -/
def openAfter (depth : Nat) : List Char → Option Nat
  | [] => some depth
  | character :: rest =>
      if character = '(' then openAfter (depth + 1) rest
      else if character = ')' then
        match depth with
        | 0 => none
        | outer + 1 => openAfter outer rest
      else openAfter depth rest

/-- All parentheses are closed, and none is closed that was not opened. -/
def IsBalanced (characters : List Char) : Prop :=
  openAfter 0 characters = some 0

instance (characters : List Char) : Decidable (IsBalanced characters) :=
  inferInstanceAs (Decidable (_ = _))

section Counting

variable {depth after more : Nat} {first second : List Char}

theorem openAfter_append :
    openAfter depth (first ++ second) =
      (openAfter depth first).bind fun middle => openAfter middle second := by
  induction first generalizing depth with
  | nil => rfl
  | cons character rest inductionHypothesis =>
      simp only [List.cons_append, openAfter]
      split
      · exact inductionHypothesis
      · split
        · cases depth with
          | zero => rfl
          | succ outer => exact inductionHypothesis
        · exact inductionHypothesis

/-- Parentheses that are open before stay open. -/
theorem openAfter_add
    (counted : openAfter depth first = some after) :
    openAfter (depth + more) first = some (after + more) := by
  induction first generalizing depth with
  | nil =>
      cases counted
      rfl
  | cons character rest inductionHypothesis =>
      simp only [openAfter] at counted ⊢
      split at counted
      · rename_i isOpening
        rw [if_pos isOpening, Nat.add_right_comm]
        exact inductionHypothesis counted
      · rename_i notOpening
        rw [if_neg notOpening]
        split at counted
        · rename_i isClosing
          rw [if_pos isClosing]
          cases depth with
          | zero => cases counted
          | succ outer =>
              rw [Nat.add_right_comm]
              exact inductionHypothesis counted
        · rename_i notClosing
          rw [if_neg notClosing]
          exact inductionHypothesis counted

theorem openAfter_of_isBalanced (balanced : IsBalanced first) :
    openAfter depth first = some depth := by
  have added : openAfter (0 + depth) first = some (0 + depth) :=
    openAfter_add balanced
  rwa [Nat.zero_add] at added

end Counting

namespace IsBalanced

variable {first second : List Char}

theorem append (firstBalanced : IsBalanced first)
    (secondBalanced : IsBalanced second) : IsBalanced (first ++ second) := by
  unfold IsBalanced at *
  rw [openAfter_append, firstBalanced, Option.bind_some, secondBalanced]

theorem of_forall
    (none :
      ∀ character ∈ first, character ≠ '(' ∧ character ≠ ')') :
    IsBalanced first := by
  unfold IsBalanced
  induction first with
  | nil => rfl
  | cons character rest inductionHypothesis =>
      obtain ⟨⟨notOpening, notClosing⟩, others⟩ := List.forall_mem_cons.mp none
      simp only [openAfter, notOpening, notClosing, if_false]
      exact inductionHypothesis others

theorem enclosed (balanced : IsBalanced first) :
    IsBalanced ('(' :: (first ++ [')'])) := by
  have inside : openAfter 1 (first ++ [')']) = some 0 := by
    rw [openAfter_append, openAfter_of_isBalanced balanced]
    rfl
  exact inside

/-- Before its closing parenthesis a balanced text is determined. -/
theorem eq_of_append_closing
    {firstRest secondRest : List Char}
    (firstBalanced : IsBalanced first) (secondBalanced : IsBalanced second)
    (same : first ++ ')' :: firstRest = second ++ ')' :: secondRest) :
    first = second := by
  -- If one text went on after the other, it would close what it did not open.
  have noLonger :
      ∀ {shorter longer tail : List Char},
        IsBalanced shorter → IsBalanced longer →
          longer ≠ shorter ++ ')' :: tail := by
    intro shorter longer tail shorterBalanced longerBalanced whole
    unfold IsBalanced at shorterBalanced longerBalanced
    rw [whole, openAfter_append, shorterBalanced] at longerBalanced
    cases longerBalanced
  rcases List.append_eq_append_iff.mp same with
    ⟨between, whole, rest⟩ | ⟨between, whole, rest⟩
  · cases between with
    | nil => simpa using whole.symm
    | cons next others =>
        cases rest
        exact absurd whole (noLonger firstBalanced secondBalanced)
  · cases between with
    | nil => simpa using whole
    | cons next others =>
        cases rest
        exact absurd whole (noLonger secondBalanced firstBalanced)

end IsBalanced

/-! ## Enclosing parentheses -/

/-- A part that closes no more than it opens is passed over. -/
theorem upToClosing?_append
    {depth after : Nat} {first second : List Char}
    (counted : openAfter depth first = some after) :
    upToClosing? depth (first ++ second) =
      (upToClosing? after second).map (first ++ ·) := by
  induction first generalizing depth with
  | nil =>
      cases counted
      simp
  | cons character rest inductionHypothesis =>
      simp only [openAfter] at counted
      simp only [List.cons_append, upToClosing?]
      split at counted
      · rename_i isOpening
        rw [if_pos isOpening, inductionHypothesis counted]
        simp [Function.comp_def]
      · rename_i notOpening
        rw [if_neg notOpening]
        split at counted
        · rename_i isClosing
          rw [if_pos isClosing]
          cases depth with
          | zero => cases counted
          | succ outer =>
              simp only [inductionHypothesis counted]
              simp [Function.comp_def]
        · rename_i notClosing
          rw [if_neg notClosing, inductionHypothesis counted]
          simp [Function.comp_def]

theorem enclosed?_enclosed
    {inner : List Char} (balanced : IsBalanced inner) :
    enclosed? ('(' :: (inner ++ [')'])) = some inner := by
  have closing : upToClosing? 0 [')'] = some [] := rfl
  rw [enclosed?, upToClosing?_append balanced, closing]
  simp

/-- A parenthesis that is closed before the end encloses only a part. -/
theorem upToClosing?_eq_none
    {depth : Nat} {first second : List Char}
    (counted : openAfter (depth + 1) first = some 0) (goesOn : second ≠ []) :
    upToClosing? depth (first ++ second) = none := by
  induction first generalizing depth with
  | nil => cases counted
  | cons character rest inductionHypothesis =>
      simp only [openAfter] at counted
      simp only [List.cons_append, upToClosing?]
      split at counted
      · rename_i isOpening
        rw [if_pos isOpening, inductionHypothesis counted]
        rfl
      · rename_i notOpening
        rw [if_neg notOpening]
        split at counted
        · rename_i isClosing
          rw [if_pos isClosing]
          cases depth with
          | zero => simp [goesOn]
          | succ outer =>
              simp only [inductionHypothesis counted, Option.map_none]
        · rename_i notClosing
          rw [if_neg notClosing, inductionHypothesis counted]
          rfl

/-- A text that starts in another way is not enclosed. -/
theorem enclosed?_of_ne_opening
    {characters : List Char} (notOpening : ∀ rest, characters ≠ '(' :: rest) :
    enclosed? characters = none := by
  unfold enclosed?
  split
  · exact absurd rfl (notOpening _)
  · rfl

theorem enclosed?_eq_none_of_first
    {character : Char} {rest : List Char} (notOpening : character ≠ '(') :
    enclosed? (character :: rest) = none := by
  apply enclosed?_of_ne_opening
  rintro others ⟨⟩
  exact notOpening rfl

/-- A text is not enclosed when a balanced part of it stands before more. -/
theorem enclosed?_eq_none
    {first second : List Char} (nonempty : first ≠ [])
    (balanced : IsBalanced first) (goesOn : second ≠ []) :
    enclosed? (first ++ second) = none := by
  obtain ⟨character, rest, rfl⟩ := List.exists_cons_of_ne_nil nonempty
  by_cases isOpening : character = '('
  · subst isOpening
    have counted : openAfter 1 rest = some 0 := balanced
    rw [List.cons_append, enclosed?, upToClosing?_eq_none counted goesOn]
  · exact enclosed?_eq_none_of_first isOpening

/-! ## Stripping -/

theorem strip_of_bare
    {characters : List Char} (bare : enclosed? (Text.trim characters) = none) :
    strip characters = Text.trim characters := by
  rw [strip]
  split
  · rfl
  · rename_i inner found
    rw [bare] at found
    cases found

theorem strip_of_found
    {characters inner : List Char}
    (found : enclosed? (Text.trim characters) = some inner) :
    strip characters = strip inner := by
  rw [strip]
  split
  · rename_i bare
    rw [found] at bare
    cases bare
  · rename_i other isOther
    rw [found] at isOther
    cases isOther
    rfl

theorem strip_of_enclosed?_eq_none
    {characters : List Char} (solid : IsSolid characters)
    (bare : enclosed? characters = none) : strip characters = characters := by
  have trimmed : Text.trim characters = characters := solid.trim_eq
  rw [← trimmed] at bare
  rw [strip_of_bare bare, trimmed]

theorem strip_enclosed
    {inner : List Char} (balanced : IsBalanced inner) :
    strip ('(' :: (inner ++ [')'])) = strip inner := by
  have solid : IsSolid ('(' :: (inner ++ [')'])) :=
    ⟨⟨'(', inner ++ [')'], rfl, by decide⟩, ⟨'(' :: inner, ')', rfl, by decide⟩⟩
  apply strip_of_found
  rw [solid.trim_eq]
  exact enclosed?_enclosed balanced

/-- What `strip` takes off: blanks and parentheses. -/
def isWrapping (character : Char) : Bool :=
  Text.isBlank character || character == '(' || character == ')'

/-- What stands around a text was taken off by `strip`. -/
def WrapsTo (characters inner : List Char) : Prop :=
  ∃ before after,
    characters = before ++ (inner ++ after) ∧
      before.all isWrapping = true ∧ after.all isWrapping = true

theorem WrapsTo.refl (characters : List Char) : WrapsTo characters characters :=
  ⟨[], [], by simp, rfl, rfl⟩

theorem WrapsTo.trans
    {characters middle inner : List Char} (first : WrapsTo characters middle)
    (second : WrapsTo middle inner) : WrapsTo characters inner := by
  obtain ⟨before, after, rfl, isBefore, isAfter⟩ := first
  obtain ⟨innerBefore, innerAfter, rfl, isInnerBefore, isInnerAfter⟩ := second
  refine ⟨before ++ innerBefore, innerAfter ++ after, by simp, ?_, ?_⟩
  · rw [List.all_append, isBefore, isInnerBefore]
    rfl
  · rw [List.all_append, isInnerAfter, isAfter]
    rfl

theorem all_isWrapping_takeWhile (characters : List Char) :
    (characters.takeWhile Text.isBlank).all isWrapping = true := by
  rw [List.all_eq_true]
  intro character member
  have isBlank : Text.isBlank character = true :=
    List.all_eq_true.mp List.all_takeWhile character member
  rw [isWrapping, isBlank]
  rfl

theorem wrapsTo_trim (characters : List Char) :
    WrapsTo characters (Text.trim characters) := by
  have atStart : WrapsTo characters (Text.trimStart characters) := by
    refine
      ⟨characters.takeWhile Text.isBlank, [], ?_, all_isWrapping_takeWhile _, rfl⟩
    rw [List.append_nil]
    exact List.takeWhile_append_dropWhile.symm
  have atEnd :
      ∀ others : List Char, WrapsTo others (Text.trimEnd others) := by
    intro others
    refine ⟨[], (others.reverse.takeWhile Text.isBlank).reverse, ?_, rfl, ?_⟩
    · rw [List.nil_append, Text.trimEnd, ← List.reverse_append,
        List.takeWhile_append_dropWhile, List.reverse_reverse]
    · rw [List.all_reverse]
      exact all_isWrapping_takeWhile _
  exact atStart.trans (atEnd _)

theorem upToClosing?_eq_some
    {depth : Nat} {characters inner : List Char}
    (closed : upToClosing? depth characters = some inner) :
    characters = inner ++ [')'] := by
  induction characters generalizing depth inner with
  | nil => cases closed
  | cons character rest inductionHypothesis =>
      simp only [upToClosing?] at closed
      split at closed
      · obtain ⟨shorter, found, rfl⟩ := Option.map_eq_some_iff.mp closed
        rw [inductionHypothesis found]
        rfl
      · split at closed
        · rename_i isClosing
          split at closed
          · split at closed
            · rename_i isLast
              cases closed
              rw [isClosing, List.isEmpty_iff.mp isLast]
              rfl
            · cases closed
          · obtain ⟨shorter, found, rfl⟩ := Option.map_eq_some_iff.mp closed
            rw [inductionHypothesis found]
            rfl
        · obtain ⟨shorter, found, rfl⟩ := Option.map_eq_some_iff.mp closed
          rw [inductionHypothesis found]
          rfl

theorem wrapsTo_of_enclosed?
    {characters inner : List Char} (enclosed : enclosed? characters = some inner) :
    WrapsTo characters inner := by
  unfold enclosed? at enclosed
  split at enclosed
  · rw [upToClosing?_eq_some enclosed]
    exact ⟨['('], [')'], rfl, by decide, by decide⟩
  · cases enclosed

/-- Only blanks and parentheses are taken off. -/
theorem wrapsTo_strip (characters : List Char) :
    WrapsTo characters (strip characters) := by
  induction characters using strip.induct with
  | case1 characters trimmed bare =>
      rw [strip_of_bare bare]
      exact wrapsTo_trim characters
  | case2 characters trimmed inner found inductionHypothesis =>
      rw [strip_of_found found]
      exact
        ((wrapsTo_trim characters).trans (wrapsTo_of_enclosed? found)).trans
          inductionHypothesis

theorem toList_enclosed (text : String) :
    ("(" ++ text ++ ")").toList = '(' :: (text.toList ++ [')']) := by
  simp

/-- A text that is not enclosed is put into parentheses. -/
theorem enclose_of_bare
    {text : String} (solid : IsSolid text.toList)
    (bare : enclosed? text.toList = none) :
    enclose text = some ("(" ++ text ++ ")") := by
  unfold enclose
  rw [strip_of_enclosed?_eq_none solid bare]
  split
  · rename_i isEmpty
    exact absurd isEmpty solid.ne_nil
  · rw [String.ofList_toList]

/-- A text in one pair of parentheses is left as it is. -/
theorem enclose_of_enclosed
    {text : String} {inner : List Char}
    (whole : text.toList = '(' :: (inner ++ [')'])) (solid : IsSolid inner)
    (balanced : IsBalanced inner) (bare : enclosed? inner = none) :
    enclose text = some text := by
  have sameText : text = "(" ++ String.ofList inner ++ ")" := by
    apply String.toList_inj.mp
    rw [toList_enclosed, String.toList_ofList, whole]
  have stripped : strip text.toList = inner := by
    rw [whole, strip_enclosed balanced, strip_of_enclosed?_eq_none solid bare]
  unfold enclose
  split
  · rename_i isEmpty
    exact absurd (stripped.symm.trans isEmpty) solid.ne_nil
  · rw [stripped, ← sameText]

end FilterQuery.Sql
