import FilterQuery.Filter.Literal
import FilterQuery.Proofs.Outcome

/-!
# Lists in filters

A list that was read has at least one element, and no lists among its elements.
-/

namespace FilterQuery

namespace Literal

theorem elementsFrom_ne_nil
    {index : Nat} {characters : List Char} {items : List Value}
    (read : elementsFrom index characters = .ok items) : items ≠ [] := by
  rw [elementsFrom] at read
  split at read
  · cases read
  · split at read
    · cases read
      exact List.cons_ne_nil _ _
    · split at read
      · cases read
        exact List.cons_ne_nil _ _
      · obtain ⟨rest, _, same⟩ := Outcome.map_eq_ok_iff.mp read
        rw [← same]
        exact List.cons_ne_nil _ _
    · cases read

/-- An element is a single value. -/
theorem elementType?_of_element
    {index : Nat} {characters after : List Char} {item : Value}
    (read : element index characters = .ok (item, after)) : item.elementType?.isSome = true := by
  unfold element at read
  split at read
  · split at read
    · cases read
    split at read
    · cases read
    · cases read
      rfl
  · simp only at read
    split at read
    · cases read
    · rename_i isScalar
      cases read
      unfold scalar? at isScalar
      split at isScalar
      · cases isScalar
        rfl
      split at isScalar
      · cases isScalar
        rfl
      split at isScalar
      · cases isScalar
        rfl
      split at isScalar
      all_goals
        obtain ⟨_, _, rfl⟩ := Option.map_eq_some_iff.mp isScalar
        rfl

theorem elementType?_of_mem_elementsFrom
    {index : Nat} {characters : List Char} {items : List Value}
    (read : elementsFrom index characters = .ok items) :
    ∀ item ∈ items, item.elementType?.isSome = true := by
  fun_induction elementsFrom index characters generalizing items with
  | case1 index characters fault failed => cases read
  | case2 index characters item after isFirst ends =>
      cases read
      exact List.forall_mem_singleton.mpr (elementType?_of_element isFirst)
  | case3 index characters item after isFirst following isComma blanks =>
      cases read
      exact List.forall_mem_singleton.mpr (elementType?_of_element isFirst)
  | case4 index characters item after isFirst following isComma notBlank inductionHypothesis =>
      obtain ⟨rest, isRest, rfl⟩ := Outcome.map_eq_ok_iff.mp read
      exact List.forall_mem_cons.mpr
        ⟨elementType?_of_element isFirst, inductionHypothesis isRest⟩
  | case5 index characters item after isFirst notEnd notComma => cases read

theorem elements_ne_nil
    {inner : List Char} {items : List Value}
    (read : elements inner = .ok items) : items ≠ [] := by
  unfold elements at read
  split at read
  · cases read
  · exact elementsFrom_ne_nil read

end Literal

end FilterQuery
