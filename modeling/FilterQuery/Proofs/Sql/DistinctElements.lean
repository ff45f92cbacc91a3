import FilterQuery.Sql.Condition

/-!
# Elements that are left after deduplication

Of equal elements of a list only the first one is kept, and nothing is not bound.  No element
gets lost in this way.

* An element that is kept stands at its position of the list (`getElem?_of_mem_boundElements`);
* for every element that is not nothing, it or one that equals it is bound
  (`exists_mem_boundElements`);
* so a property that equal elements share holds of the same values before and after
  (`mem_map_iff_null_or_bound`).
-/

namespace FilterQuery.Sql

/-! ## What is kept -/

/-- What is kept was submitted, at the position that it is kept with. -/
theorem getElem?_of_mem_distinctFrom
    {position : Nat} {seen items : List Value} {element : Nat × Value}
    (member : element ∈ distinctFrom position seen items) :
    ∃ offset, element.1 = position + offset ∧ items[offset]? = some element.2 := by
  induction items generalizing position seen with
  | nil => cases member
  | cons item rest inductionHypothesis =>
      have later :
          ∀ {seen : List Value}, element ∈ distinctFrom (position + 1) seen rest →
            ∃ offset,
              element.1 = position + offset ∧ (item :: rest)[offset]? = some element.2 := by
        intro seen isLater
        obtain ⟨offset, isPosition, found⟩ := inductionHypothesis isLater
        exact ⟨offset + 1, by omega, found⟩
      simp only [distinctFrom] at member
      split at member
      · exact later member
      · rcases List.mem_cons.mp member with rfl | isLater
        · exact ⟨0, rfl, rfl⟩
        · exact later isLater

/-- What is bound was submitted, and is not nothing. -/
theorem getElem?_of_mem_boundElements
    {items : List Value} {element : Nat × Value} (member : element ∈ boundElements items) :
    items[element.1]? = some element.2 ∧ element.2.isNull = false := by
  simp only [boundElements, List.mem_filter, Bool.not_eq_true'] at member
  obtain ⟨offset, isPosition, found⟩ := getElem?_of_mem_distinctFrom member.1
  rw [Nat.zero_add] at isPosition
  rw [isPosition]
  exact ⟨found, member.2⟩

/-! ## What is left out -/

/-- The values are the same, or equal as elements of a list. -/
def IsLike (first second : Value) : Prop :=
  first = second ∨ (first == second) = true

theorem IsLike.isNull_eq {first second : Value} (alike : IsLike first second) :
    first.isNull = second.isNull := by
  rcases alike with rfl | equal
  · rfl
  · change Value.same first second = true at equal
    cases first <;> cases second <;> first | rfl | cases equal

/-- An element is left out only for one like it that was seen before. -/
theorem exists_mem_distinctFrom
    {position : Nat} {seen items : List Value} {item : Value} (member : item ∈ items) :
    (∃ element ∈ distinctFrom position seen items, IsLike element.2 item) ∨
      seen.any (· == item) = true := by
  -- What is kept counts as seen for the rest, so the claim is about both.
  induction items generalizing position seen with
  | nil => cases member
  | cons first rest inductionHypothesis =>
      simp only [distinctFrom]
      split
      · rename_i wasSeen
        rcases List.mem_cons.mp member with rfl | isLater
        · exact .inr wasSeen
        · exact inductionHypothesis isLater
      · have isKept :
            ∀ {other : Value}, IsLike first other →
              ∃ element ∈ (position, first) :: distinctFrom (position + 1) (first :: seen) rest,
                IsLike element.2 other :=
          fun alike => ⟨_, List.mem_cons_self, alike⟩
        rcases List.mem_cons.mp member with rfl | isLater
        · exact .inl (isKept (.inl rfl))
        · rcases inductionHypothesis isLater with ⟨element, isElement, alike⟩ | wasSeen
          · exact .inl ⟨element, List.mem_cons_of_mem _ isElement, alike⟩
          · rw [List.any_cons, Bool.or_eq_true] at wasSeen
            rcases wasSeen with equal | wasSeen
            · exact .inl (isKept (.inr equal))
            · exact .inr wasSeen

/-- Every element that is not nothing is bound, or one like it is. -/
theorem exists_mem_boundElements
    {items : List Value} {item : Value} (member : item ∈ items) (isBound : item.isNull = false) :
    ∃ element ∈ boundElements items, IsLike element.2 item := by
  have isKept :
      (∃ element ∈ distinctElements items, IsLike element.2 item) ∨
        [].any (· == item) = true :=
    exists_mem_distinctFrom member
  rcases isKept with ⟨element, isElement, alike⟩ | wasSeen
  · refine ⟨element, List.mem_filter.mpr ⟨isElement, ?_⟩, alike⟩
    rw [alike.isNull_eq, isBound]
    rfl
  · cases wasSeen

/-! ## What stays the same -/

theorem eq_null_of_isNull {item : Value} (isNull : item.isNull = true) : item = .null := by
  cases item with
  | null => rfl
  | boolean _ | integer _ | float _ | string _ | list _ => cases isNull

/-- A property of elements that equal ones share has the same values on nothing, if it is in the
list, and on what is bound. -/
theorem mem_map_iff_null_or_bound
    {α : Type} {property : Value → α} {items : List Value}
    (shared :
      ∀ first ∈ items, ∀ second ∈ items, (first == second) = true →
        property first = property second)
    (value : α) :
    value ∈ items.map property ↔
      (items.any Value.isNull = true ∧ value = property .null) ∨
        ∃ element ∈ boundElements items, value = property element.2 := by
  constructor
  · intro member
    obtain ⟨item, isItem, rfl⟩ := List.mem_map.mp member
    cases isBound : item.isNull with
    | true =>
        refine .inl ⟨List.any_eq_true.mpr ⟨item, isItem, isBound⟩, ?_⟩
        rw [eq_null_of_isNull isBound]
    | false =>
        obtain ⟨element, isElement, alike⟩ := exists_mem_boundElements isItem isBound
        refine .inr ⟨element, isElement, ?_⟩
        rcases alike with same | equal
        · rw [same]
        · have submitted := List.mem_of_getElem? (getElem?_of_mem_boundElements isElement).1
          exact (shared _ submitted _ isItem equal).symm
  · rintro (⟨hasNothing, rfl⟩ | ⟨element, isElement, rfl⟩)
    · obtain ⟨item, isItem, isNull⟩ := List.any_eq_true.mp hasNothing
      rw [eq_null_of_isNull isNull] at isItem
      exact List.mem_map_of_mem isItem
    · exact
        List.mem_map_of_mem
          (List.mem_of_getElem? (getElem?_of_mem_boundElements isElement).1)

end FilterQuery.Sql
