/-!
# Maps in insertion order

Parameters, list entries, relations and bound values keep the order in which
their keys first appeared.

* a key occurs once;
* writing to a key that is present replaces its value and keeps its place;
* writing to a new key puts it last.
-/

namespace FilterQuery

/-- Distinct keys with their values, in the order of their first insertion. -/
structure OrderedMap (κ α : Type) where
  entries : List (κ × α)
  distinct : (entries.map Prod.fst).Nodup

namespace OrderedMap

variable {κ α : Type} [DecidableEq κ]

instance : Inhabited (OrderedMap κ α) := ⟨⟨[], List.nodup_nil⟩⟩

/-- The map without entries. -/
def empty : OrderedMap κ α := ⟨[], List.nodup_nil⟩

/-- Replace the value of a present key, or put a new key last. -/
def insertEntries (key : κ) (value : α) : List (κ × α) → List (κ × α)
  | [] => [(key, value)]
  | (present, old) :: rest =>
      if present = key then (key, value) :: rest
      else (present, old) :: insertEntries key value rest

theorem mem_keys_insertEntries
    {key tested : κ} {value : α} {entries : List (κ × α)} :
    tested ∈ (insertEntries key value entries).map Prod.fst ↔
      tested = key ∨ tested ∈ entries.map Prod.fst := by
  induction entries with
  | nil => simp [insertEntries]
  | cons entry rest inductionHypothesis =>
      obtain ⟨present, old⟩ := entry
      by_cases same : present = key
      · subst same
        simp [insertEntries]
      · simp only [insertEntries, same, if_false, List.map_cons,
          List.mem_cons, inductionHypothesis]
        grind

theorem nodup_insertEntries
    {key : κ} {value : α} {entries : List (κ × α)}
    (distinct : (entries.map Prod.fst).Nodup) :
    ((insertEntries key value entries).map Prod.fst).Nodup := by
  induction entries with
  | nil => simp [insertEntries]
  | cons entry rest inductionHypothesis =>
      obtain ⟨present, old⟩ := entry
      simp only [List.map_cons, List.nodup_cons] at distinct
      by_cases same : present = key
      · subst same
        simpa [insertEntries] using distinct
      · simp only [insertEntries, same, if_false, List.map_cons,
          List.nodup_cons, mem_keys_insertEntries, not_or]
        exact ⟨⟨by simp, distinct.1⟩,
          inductionHypothesis distinct.2⟩

def insert (map : OrderedMap κ α) (key : κ) (value : α) : OrderedMap κ α :=
  ⟨insertEntries key value map.entries, nodup_insertEntries map.distinct⟩

/-- The value beside the first occurrence of `key`. -/
def lookup (key : κ) : List (κ × α) → Option α
  | [] => none
  | (present, value) :: rest =>
      if present = key then some value else lookup key rest

def get? (map : OrderedMap κ α) (key : κ) : Option α :=
  lookup key map.entries

def contains (map : OrderedMap κ α) (key : κ) : Bool :=
  (map.get? key).isSome

def keys (map : OrderedMap κ α) : List κ :=
  map.entries.map Prod.fst

/-- The values, in the order of their keys. -/
def values (map : OrderedMap κ α) : List α :=
  map.entries.map Prod.snd

/-- The number of keys. -/
def size (map : OrderedMap κ α) : Nat :=
  map.entries.length

def isEmpty (map : OrderedMap κ α) : Bool :=
  map.entries.isEmpty

/-- Write pairs one after the other into the empty map. -/
def ofList (pairs : List (κ × α)) : OrderedMap κ α :=
  pairs.foldl (fun map pair => map.insert pair.1 pair.2) empty

theorem lookup_insertEntries
    (key tested : κ) (value : α) (entries : List (κ × α)) :
    lookup tested (insertEntries key value entries) =
      if key = tested then some value else lookup tested entries := by
  induction entries with
  | nil => simp [insertEntries, lookup]
  | cons entry rest inductionHypothesis =>
      obtain ⟨present, old⟩ := entry
      simp only [insertEntries]
      split <;> simp only [lookup, inductionHypothesis] <;> grind

theorem insertEntries_of_not_mem
    {key : κ} {value : α} {entries : List (κ × α)}
    (isNew : key ∉ entries.map Prod.fst) :
    insertEntries key value entries = entries ++ [(key, value)] := by
  induction entries with
  | nil => rfl
  | cons entry rest inductionHypothesis =>
      obtain ⟨present, old⟩ := entry
      rw [List.map_cons, List.mem_cons, not_or] at isNew
      obtain ⟨different, isNewToo⟩ := isNew
      rw [insertEntries, if_neg (Ne.symm different), inductionHypothesis isNewToo]
      rfl

/-- New keys that are distinct are put last one after the other. -/
theorem entries_foldl_insert
    {map : OrderedMap κ α} {pairs : List (κ × α)}
    (distinct : ((map.entries ++ pairs).map Prod.fst).Nodup) :
    (pairs.foldl (fun map pair => map.insert pair.1 pair.2) map).entries =
      map.entries ++ pairs := by
  induction pairs generalizing map with
  | nil => exact (List.append_nil _).symm
  | cons pair rest inductionHypothesis =>
      have isNew : pair.1 ∉ map.entries.map Prod.fst := by
        rw [List.map_append, List.nodup_append] at distinct
        intro member
        exact distinct.2.2 pair.1 member pair.1 List.mem_cons_self rfl
      have inserted :
          (map.insert pair.1 pair.2).entries = map.entries ++ [pair] :=
        insertEntries_of_not_mem isNew
      have shifted :
          map.entries ++ pair :: rest =
            (map.insert pair.1 pair.2).entries ++ rest := by
        rw [inserted, List.append_assoc]
        rfl
      rw [shifted] at distinct ⊢
      exact inductionHypothesis distinct

/-- Pairs with distinct keys are all kept, in their order. -/
theorem entries_ofList
    {pairs : List (κ × α)} (distinct : (pairs.map Prod.fst).Nodup) :
    (ofList pairs).entries = pairs :=
  entries_foldl_insert distinct

/-- Reading after writing. -/
theorem get?_insert (map : OrderedMap κ α) (key tested : κ) (value : α) :
    (map.insert key value).get? tested =
      if key = tested then some value else map.get? tested :=
  lookup_insertEntries key tested value map.entries

end OrderedMap

end FilterQuery
