import FilterQuery.Proofs.Collection.OrderedMap
import FilterQuery.Proofs.Query.Accumulation
import Mathlib.Data.List.DropRight

/-!
# The last shape wins

A parameter is what the pairs about it make of it, one after the other.  A single text replaces
whatever was there, and the first entry after it starts from the empty list.

* `contentOf?` says what the pairs about one parameter make of it, without looking at any other
  pair;
* `ofPairs_accumulates`: every parameter is that, and the parameters stand in the order in which
  their names first appear.
-/

namespace FilterQuery.QueryInput

variable {input : QueryInput} {parameter : String}

/-! ## One parameter -/

/-- The list that pairs write into the empty one. -/
def listOfPairs (pairs : List (String × String)) : OrderedMap String String :=
  pairs.foldl enter .empty

/-- What the pairs about one parameter make of it: nothing without pairs, a single text if the
last pair is one, and otherwise the list of the entries after the last single text. -/
def contentOf? (pairs : List (String × String)) : Option ParameterValue :=
  match pairs.getLast? with
  | none => none
  | some last =>
      if isEntry last then some (.list (listOfPairs (pairs.rtakeWhile isEntry)))
      else some (.scalar last.2)

example :
    (contentOf? [("sort[7]", "a"), ("sort", "b"), ("sort[]", "c"), ("sort[0]", "d")]).map
        (fun
          | .scalar text => [("", text)]
          | .list entries => entries.entries) =
      some [("0", "d")] := by
  decide

/-- The entries of a content; what is no list has none. -/
def contentEntries : Option ParameterValue → OrderedMap String String
  | some (.list entries) => entries
  | _ => .empty

theorem entriesOf_eq : input.entriesOf parameter = contentEntries (input.get? parameter) := rfl

/-- Whether or not there are entries after the last single text, they are the list. -/
theorem contentEntries_contentOf? (pairs : List (String × String)) :
    contentEntries (contentOf? pairs) = listOfPairs (pairs.rtakeWhile isEntry) := by
  rcases pairs.eq_nil_or_concat with rfl | ⟨earlier, last, rfl⟩
  · rfl
  · rw [List.concat_eq_append, contentOf?, List.getLast?_concat]
    by_cases entered : isEntry last = true
    · simp only [entered, if_true]
      rfl
    · rw [List.rtakeWhile_concat_neg _ _ _ entered]
      simp only [if_neg entered]
      rfl

/-- A further pair is entered into the list, or replaces the content by a single text. -/
theorem contentOf?_concat (pairs : List (String × String)) (pair : String × String) :
    contentOf? (pairs ++ [pair]) =
      if isEntry pair then some (.list (enter (contentEntries (contentOf? pairs)) pair))
      else some (.scalar pair.2) := by
  rw [contentOf?, List.getLast?_concat]
  by_cases entered : isEntry pair = true
  · simp only [entered, if_true]
    rw [List.rtakeWhile_concat_pos _ _ _ entered, listOfPairs, List.foldl_append,
      contentEntries_contentOf?]
    rfl
  · simp only [if_neg entered]

/-- What a run of pairs makes of the parameter that they are all about. -/
theorem get?_ofPairs_of_forall
    {pairs : List (String × String)}
    (about : ∀ pair ∈ pairs, baseName pair.1 = parameter) :
    (ofPairs pairs).get? parameter = contentOf? pairs := by
  -- Pairs are written one after the other, so the last one is taken off.
  induction pairs using List.reverseRecOn with
  | nil => rfl
  | append_singleton pairs pair inductionHypothesis =>
      obtain ⟨earlierAbout, lastAbout⟩ := List.forall_mem_append.mp about
      have earlier := inductionHypothesis earlierAbout
      rw [ofPairs_concat, get?_insertPair_self (lastAbout pair List.mem_cons_self), entriesOf_eq,
        earlier, contentOf?_concat]

/-! ## The order of the parameters -/

theorem keys_insertPair (pair : String × String) :
    (input.insertPair pair.1 pair.2).parameters.keys =
      if baseName pair.1 ∈ input.parameters.keys then input.parameters.keys
      else input.parameters.keys ++ [baseName pair.1] := by
  rw [baseName]
  cases split : splitBrackets? pair.1 with
  | none => simp only [insertPair, split, insertScalar, OrderedMap.keys_insert]
  | some parts =>
      obtain ⟨base, bracketed⟩ := parts
      rw [insertPair_of_split split]
      simp only [insertItem, OrderedMap.keys_insert]

theorem keys_ofPairs (pairs : List (String × String)) :
    (ofPairs pairs).parameters.keys = (pairs.map fun pair => baseName pair.1).eraseDups := by
  induction pairs using List.reverseRecOn with
  | nil => rfl
  | append_singleton pairs pair inductionHypothesis =>
      rw [ofPairs_concat, keys_insertPair, inductionHypothesis, List.map_append,
        List.map_singleton, List.eraseDups_append]
      by_cases seen : baseName pair.1 ∈ pairs.map fun pair => baseName pair.1
      · rw [if_pos (List.mem_eraseDups.mpr seen)]
        simp [List.removeAll, seen]
      · rw [if_neg (mt List.mem_eraseDups.mp seen)]
        simp [List.removeAll, seen, List.eraseDups_cons]

/-- Every parameter is what the pairs about it make of it, and the parameters stand in the order
in which their names first appear, whatever replaces them later. -/
theorem ofPairs_accumulates (pairs : List (String × String)) :
    (∀ parameter,
      (ofPairs pairs).get? parameter = contentOf? (pairs.filter (isAbout parameter))) ∧
      (ofPairs pairs).parameters.keys = (pairs.map fun pair => baseName pair.1).eraseDups := by
  refine ⟨?_, keys_ofPairs pairs⟩
  intro parameter
  rw [get?_ofPairs_filter]
  apply get?_ofPairs_of_forall
  intro pair member
  exact isAbout_iff.mp (List.of_mem_filter member)

end FilterQuery.QueryInput
