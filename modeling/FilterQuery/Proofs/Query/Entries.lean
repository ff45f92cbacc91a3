import FilterQuery.Entries
import FilterQuery.Proofs.Outcome

/-!
# Where collected entries come from

Every value that was collected under an index was read from the text of an
entry whose bracketed text denotes this index.
-/

namespace FilterQuery

variable {ε α : Type}

theorem Slots.mem_of_mem_insertEntries
    {index : Nat} {value : α} {entries : List (Nat × α)} {entry : Nat × α}
    (member : entry ∈ insertEntries index value entries) :
    entry = (index, value) ∨ entry ∈ entries := by
  induction entries with
  | nil => exact .inl (List.mem_singleton.mp member)
  | cons first rest inductionHypothesis =>
      obtain ⟨present, old⟩ := first
      simp only [insertEntries] at member
      split at member
      · exact List.mem_cons.mp member
      · split at member
        · rcases List.mem_cons.mp member with same | later
          · exact .inl same
          · exact .inr (List.mem_cons_of_mem _ later)
        · rcases List.mem_cons.mp member with same | later
          · exact .inr (List.mem_cons.mpr (.inl same))
          · rcases inductionHypothesis later with isNew | isOld
            · exact .inl isNew
            · exact .inr (List.mem_cons_of_mem _ isOld)

namespace Entries

variable {parse : String → Except ε α}

theorem mem_of_mem_distinct
    {seen : List String} {entries : List (String × String)}
    {entry : String × String} (member : entry ∈ distinct seen entries) :
    entry ∈ entries := by
  induction entries generalizing seen with
  | nil => cases member
  | cons first rest inductionHypothesis =>
      obtain ⟨raw, expression⟩ := first
      simp only [distinct] at member
      split at member
      · exact List.mem_cons_of_mem _ (inductionHypothesis member)
      · rcases List.mem_cons.mp member with same | later
        · exact List.mem_cons.mpr (.inl same)
        · exact List.mem_cons_of_mem _ (inductionHypothesis later)

/-- What is known of a value under an index. -/
def IsReadFrom
    (parse : String → Except ε α) (entries : List (String × String))
    (slot : Nat × α) : Prop :=
  ∃ raw expression,
    (raw, expression) ∈ entries ∧
      readIndex raw = .ok slot.1 ∧ parse expression = .ok slot.2

/-- The first entry has to have a vacant index and a value, which is there for the others. -/
theorem collectInto_cons_eq_ok_iff
    {slots collected : Slots α} {entry : String × String}
    {rest : List (String × String)} :
    collectInto parse slots (entry :: rest) = .ok collected ↔
      ∃ index value,
        readIndex entry.1 = .ok index ∧
          slots.contains index = false ∧
          parse entry.2 = .ok value ∧
          collectInto parse (slots.insert index value) rest = .ok collected := by
  obtain ⟨raw, expression⟩ := entry
  constructor
  · intro done
    simp only [collectInto] at done
    split at done
    · cases done
    rename_i index isIndex
    split at done
    · cases done
    rename_i vacant
    rw [Bool.not_eq_true] at vacant
    split at done
    · cases done
    rename_i value isValue
    exact ⟨index, value, isIndex, vacant, isValue, done⟩
  · rintro ⟨index, value, isIndex, vacant, isValue, done⟩
    simp only at isIndex isValue
    simp only [collectInto, isIndex, vacant, Bool.false_eq_true, if_false, isValue, done]

theorem isReadFrom_of_collectInto
    {slots collected : Slots α} {entries : List (String × String)}
    (done : collectInto parse slots entries = .ok collected)
    {slot : Nat × α} (member : slot ∈ collected.entries) :
    slot ∈ slots.entries ∨ IsReadFrom parse entries slot := by
  induction entries generalizing slots with
  | nil =>
      cases done
      exact .inl member
  | cons first rest inductionHypothesis =>
      obtain ⟨index, value, isIndex, _, isValue, done⟩ :=
        collectInto_cons_eq_ok_iff.mp done
      rcases inductionHypothesis done with present | isRead
      · rcases Slots.mem_of_mem_insertEntries present with isNew | isOld
        · refine .inr ⟨first.1, first.2, List.mem_cons_self, ?_, ?_⟩
          · rw [isNew]
            exact isIndex
          · rw [isNew]
            exact isValue
        · exact .inl isOld
      · obtain ⟨raw, expression, isEntry, reads⟩ := isRead
        exact .inr ⟨raw, expression, List.mem_cons_of_mem _ isEntry, reads⟩

/-- Every value was read from one of the entries. -/
theorem isReadFrom_of_collect
    {entries : OrderedMap String String} {collected : Slots α}
    (done : collect parse entries = .ok collected)
    {slot : Nat × α} (member : slot ∈ collected.entries) :
    IsReadFrom parse entries.entries slot := by
  rcases isReadFrom_of_collectInto done member with isEmpty | isRead
  · cases isEmpty
  · obtain ⟨raw, expression, isEntry, reads⟩ := isRead
    exact ⟨raw, expression, mem_of_mem_distinct isEntry, reads⟩

end Entries

end FilterQuery
