import FilterQuery.Collection.OrderedMap

/-!
# Looking up keys

Keys are distinct, so looking up a key finds exactly the value that is beside it, and the
order of the entries does not matter for that.
-/

namespace FilterQuery.OrderedMap

variable {κ α : Type} [DecidableEq κ]

theorem mem_of_lookup
    {key : κ} {value : α} {entries : List (κ × α)}
    (found : lookup key entries = some value) : (key, value) ∈ entries := by
  induction entries with
  | nil => cases found
  | cons entry rest inductionHypothesis =>
      obtain ⟨present, held⟩ := entry
      simp only [lookup] at found
      split at found
      · rename_i same
        cases found
        rw [same]
        exact List.mem_cons_self
      · exact List.mem_cons_of_mem _ (inductionHypothesis found)

theorem lookup_of_mem
    {key : κ} {value : α} {entries : List (κ × α)}
    (distinct : (entries.map Prod.fst).Nodup)
    (member : (key, value) ∈ entries) : lookup key entries = some value := by
  induction entries with
  | nil => cases member
  | cons entry rest inductionHypothesis =>
      obtain ⟨present, held⟩ := entry
      rw [List.map_cons, List.nodup_cons] at distinct
      rcases List.mem_cons.mp member with same | later
      · cases same
        simp only [lookup, if_true]
      · have different : present ≠ key := by
          rintro rfl
          exact distinct.1 (List.mem_map.mpr ⟨(present, value), later, rfl⟩)
        simp only [lookup, different, if_false]
        exact inductionHypothesis distinct.2 later

theorem get?_eq_some_iff {map : OrderedMap κ α} {key : κ} {value : α} :
    map.get? key = some value ↔ (key, value) ∈ map.entries :=
  ⟨mem_of_lookup, lookup_of_mem map.distinct⟩

theorem contains_iff_mem_keys {map : OrderedMap κ α} {key : κ} :
    map.contains key = true ↔ key ∈ map.keys := by
  rw [contains, Option.isSome_iff_exists, keys, List.mem_map]
  constructor
  · rintro ⟨value, found⟩
    exact ⟨(key, value), get?_eq_some_iff.mp found, rfl⟩
  · rintro ⟨⟨_, value⟩, member, rfl⟩
    exact ⟨value, get?_eq_some_iff.mpr member⟩

/-- Maps with the same entries, in whatever order, have the same values. -/
theorem get?_eq_of_perm
    {first second : OrderedMap κ α}
    (permuted : first.entries.Perm second.entries) (key : κ) :
    first.get? key = second.get? key := by
  apply Option.ext
  intro value
  rw [get?_eq_some_iff, get?_eq_some_iff, permuted.mem_iff]

theorem map_fst_insertEntries (key : κ) (value : α) (entries : List (κ × α)) :
    (insertEntries key value entries).map Prod.fst =
      if key ∈ entries.map Prod.fst then entries.map Prod.fst
      else entries.map Prod.fst ++ [key] := by
  induction entries with
  | nil => rfl
  | cons entry rest inductionHypothesis =>
      obtain ⟨present, held⟩ := entry
      rw [insertEntries]
      by_cases same : present = key
      · simp [same]
      · rw [if_neg same, List.map_cons, inductionHypothesis]
        have different : key ≠ present := Ne.symm same
        by_cases later : key ∈ rest.map Prod.fst
        · simp only [later, List.map_cons, List.mem_cons, or_true, if_true]
        · simp only [later, List.map_cons, List.mem_cons, different, or_self, if_false,
            List.cons_append]

/-- A key that is present keeps its place, and a new key is put last. -/
theorem keys_insert (map : OrderedMap κ α) (key : κ) (value : α) :
    (map.insert key value).keys = if key ∈ map.keys then map.keys else map.keys ++ [key] :=
  map_fst_insertEntries key value map.entries

end FilterQuery.OrderedMap
