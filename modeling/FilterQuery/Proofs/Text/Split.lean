import FilterQuery.Text.Split

/-!
# Where a separator is

The first occurrence of a separator cuts a list into what precedes it, which has no separator, and
what follows it.
-/

namespace FilterQuery.Text.Split

variable {α : Type} [BEq α] [LawfulBEq α] {separator : α} {items : List α}

theorem differs_of_not_mem (absent : separator ∉ items) :
    ∀ item ∈ items, (item != separator) = true := by
  intro item member
  rw [bne_iff_ne]
  rintro rfl
  exact absent member

theorem takeWhile_append_separator (absent : separator ∉ items) (after : List α) :
    (items ++ separator :: after).takeWhile (· != separator) = items := by
  rw [List.takeWhile_append_of_pos (differs_of_not_mem absent),
    List.takeWhile_cons_of_neg (by simp), List.append_nil]

theorem dropWhile_append_separator (absent : separator ∉ items) (after : List α) :
    (items ++ separator :: after).dropWhile (· != separator) = separator :: after := by
  rw [List.dropWhile_append_of_pos (differs_of_not_mem absent),
    List.dropWhile_cons_of_neg (by simp)]

theorem splitOnce_append (absent : separator ∉ items) (after : List α) :
    splitOnce separator (items ++ separator :: after) = (items, after) := by
  rw [splitOnce, takeWhile_append_separator absent, dropWhile_append_separator absent]
  rfl

theorem splitAt_of_not_mem (absent : separator ∉ items) : splitAt separator items = [items] := by
  induction items with
  | nil => rfl
  | cons item rest inductionHypothesis =>
      rw [List.mem_cons, not_or] at absent
      obtain ⟨different, absentLater⟩ := absent
      have isOther : ¬(item == separator) = true := by
        rw [beq_iff_eq]
        exact Ne.symm different
      rw [splitAt, if_neg isOther, inductionHypothesis absentLater]

end FilterQuery.Text.Split
