/-!
# Numbered slots

Filters and sorts are submitted under indexes and processed in ascending order
of index.  `Slots` holds at most one value per index, ascending.
-/

namespace FilterQuery

/-- Values under distinct indexes, in ascending order of index. -/
structure Slots (α : Type) where
  entries : List (Nat × α)
  ascending : (entries.map Prod.fst).Pairwise (· < ·)

namespace Slots

variable {α : Type}

instance : Inhabited (Slots α) := ⟨⟨[], List.Pairwise.nil⟩⟩

def empty : Slots α := ⟨[], List.Pairwise.nil⟩

/-- Put a value under an index, in its place in the order. -/
def insertEntries (index : Nat) (value : α) :
    List (Nat × α) → List (Nat × α)
  | [] => [(index, value)]
  | (present, old) :: rest =>
      if index < present then (index, value) :: (present, old) :: rest
      else if index = present then (index, value) :: rest
      else (present, old) :: insertEntries index value rest

theorem mem_keys_insertEntries
    {index tested : Nat} {value : α} {entries : List (Nat × α)} :
    tested ∈ (insertEntries index value entries).map Prod.fst ↔
      tested = index ∨ tested ∈ entries.map Prod.fst := by
  induction entries with
  | nil => simp [insertEntries]
  | cons entry rest inductionHypothesis =>
      obtain ⟨present, old⟩ := entry
      by_cases below : index < present
      · simp [insertEntries, below]
      · by_cases same : index = present
        · subst same
          simp [insertEntries]
        · simp only [insertEntries, below, same, if_false, List.map_cons,
            List.mem_cons, inductionHypothesis]
          grind

theorem ascending_insertEntries
    {index : Nat} {value : α} {entries : List (Nat × α)}
    (ascending : (entries.map Prod.fst).Pairwise (· < ·)) :
    ((insertEntries index value entries).map Prod.fst).Pairwise (· < ·) := by
  induction entries with
  | nil => simp [insertEntries]
  | cons entry rest inductionHypothesis =>
      obtain ⟨present, old⟩ := entry
      rw [List.map_cons, List.pairwise_cons] at ascending
      by_cases below : index < present
      · simp only [insertEntries, below, if_true, List.map_cons,
          List.pairwise_cons]
        refine ⟨?_, ascending⟩
        intro other member
        rcases List.mem_cons.mp member with equal | later
        · exact equal ▸ below
        · exact Nat.lt_trans below (ascending.1 other later)
      · by_cases same : index = present
        · subst same
          simpa [insertEntries] using ascending
        · simp only [insertEntries, below, same, if_false, List.map_cons,
            List.pairwise_cons]
          refine ⟨?_, inductionHypothesis ascending.2⟩
          intro other member
          rcases mem_keys_insertEntries.mp member with equal | later
          · omega
          · exact ascending.1 other later

/-- Put a value under an index, replacing what was there. -/
def insert (slots : Slots α) (index : Nat) (value : α) : Slots α :=
  ⟨insertEntries index value slots.entries,
    ascending_insertEntries slots.ascending⟩

/-- The value beside the first occurrence of an index. -/
def lookup (index : Nat) : List (Nat × α) → Option α
  | [] => none
  | (present, value) :: rest =>
      if present = index then some value else lookup index rest

/-- The value under an index. -/
def get? (slots : Slots α) (index : Nat) : Option α :=
  lookup index slots.entries

/-- Whether a value is under the index. -/
def contains (slots : Slots α) (index : Nat) : Bool :=
  (slots.get? index).isSome

/-- The taken indexes, ascending. -/
def indexes (slots : Slots α) : List Nat :=
  slots.entries.map Prod.fst

/-- The values, in ascending order of index. -/
def values (slots : Slots α) : List α :=
  slots.entries.map Prod.snd

def isEmpty (slots : Slots α) : Bool :=
  slots.entries.isEmpty

theorem lookup_insertEntries
    (index tested : Nat) (value : α) (entries : List (Nat × α)) :
    lookup tested (insertEntries index value entries) =
      if index = tested then some value else lookup tested entries := by
  induction entries with
  | nil => simp [insertEntries, lookup]
  | cons entry rest inductionHypothesis =>
      obtain ⟨present, old⟩ := entry
      simp only [insertEntries]
      split
      · rfl
      · split <;> simp only [lookup, inductionHypothesis] <;> grind

/-- Reading after writing. -/
theorem get?_insert (slots : Slots α) (index tested : Nat) (value : α) :
    (slots.insert index value).get? tested =
      if index = tested then some value else slots.get? tested :=
  lookup_insertEntries index tested value slots.entries

end Slots

end FilterQuery
