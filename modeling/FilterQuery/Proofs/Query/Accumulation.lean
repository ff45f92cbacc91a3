import FilterQuery.Proofs.Query.Input

/-!
# Parameters accumulate by name

The part of a name before its bracketed text says which parameter a pair is about.

* `get?_ofPairs_filter`: a parameter depends only on the pairs that are about it;
* `get?_ofPairs_of_allIndexed`: entries that all have texts in brackets are written into the empty
  list one after the other.
-/

namespace FilterQuery.QueryInput

variable {input other : QueryInput} {parameter : String}

/-! ## Names -/

/-- The parameter that a pair is about: its name, without a text in brackets at the end. -/
def baseName (name : String) : String :=
  match splitBrackets? name with
  | none => name
  | some (base, _) => base

def isAbout (parameter : String) (pair : String × String) : Bool :=
  baseName pair.1 == parameter

theorem isAbout_iff {pair : String × String} :
    isAbout parameter pair = true ↔ baseName pair.1 = parameter :=
  beq_iff_eq

/-! ## One pair -/

theorem get?_insertItem_of_ne
    {base key text : String} (different : base ≠ parameter) :
    (input.insertItem base key text).get? parameter = input.get? parameter := by
  rw [get?, insertItem, OrderedMap.get?_insert, if_neg different, get?]

theorem get?_insertItem_self {key text : String} :
    (input.insertItem parameter key text).get? parameter =
      some (.list ((input.entriesOf parameter).insert key text)) := by
  rw [get?, insertItem, OrderedMap.get?_insert, if_pos rfl]

theorem get?_insertPair_of_ne
    {pair : String × String} (different : baseName pair.1 ≠ parameter) :
    (input.insertPair pair.1 pair.2).get? parameter = input.get? parameter := by
  rw [baseName] at different
  cases split : splitBrackets? pair.1 with
  | none =>
      rw [split] at different
      rw [insertPair, split, insertScalar, get?, OrderedMap.get?_insert,
        if_neg different, get?]
  | some parts =>
      obtain ⟨base, bracketed⟩ := parts
      rw [split] at different
      rw [insertPair_of_split split, get?_insertItem_of_ne different]

theorem entriesOf_congr (same : input.get? parameter = other.get? parameter) :
    input.entriesOf parameter = other.entriesOf parameter := by
  rw [entriesOf, entriesOf, same]

/-- The pair is an entry of a list: its name ends in brackets.  Otherwise it makes its parameter
a single text. -/
def isEntry (pair : String × String) : Bool :=
  (splitBrackets? pair.1).isSome

/-- Write a pair into a list: under its text in brackets, or under the next free number if there
is nothing in them. -/
def enter (entries : OrderedMap String String) (pair : String × String) :
    OrderedMap String String :=
  match splitBrackets? pair.1 with
  | none => entries
  | some (_, bracketed) =>
      let key := if bracketed = "" then toString (nextKey entries.keys) else bracketed
      entries.insert key pair.2

/-- What one pair makes of its parameter. -/
theorem get?_insertPair_self
    {pair : String × String} (about : baseName pair.1 = parameter) :
    (input.insertPair pair.1 pair.2).get? parameter =
      if isEntry pair then some (.list (enter (input.entriesOf parameter) pair))
      else some (.scalar pair.2) := by
  rw [baseName] at about
  cases split : splitBrackets? pair.1 with
  | none =>
      rw [split] at about
      have single : ¬isEntry pair = true := by simp [isEntry, split]
      rw [if_neg single, insertPair, split, insertScalar, get?, OrderedMap.get?_insert,
        if_pos about]
  | some parts =>
      obtain ⟨base, bracketed⟩ := parts
      rw [split] at about
      obtain rfl : base = parameter := about
      rw [insertPair_of_split split, get?_insertItem_self]
      simp only [isEntry, split, Option.isSome_some, if_true, enter, entryKey,
        String.isEmpty_iff]

/-- What a pair makes of its parameter depends on this parameter only. -/
theorem get?_insertPair_congr
    {pair : String × String} (about : baseName pair.1 = parameter)
    (same : input.get? parameter = other.get? parameter) :
    (input.insertPair pair.1 pair.2).get? parameter =
      (other.insertPair pair.1 pair.2).get? parameter := by
  rw [get?_insertPair_self about, get?_insertPair_self about, entriesOf_congr same]

/-! ## All pairs -/

/-- Pairs that are about other parameters can be left out. -/
theorem get?_ofPairs_filter (pairs : List (String × String)) (parameter : String) :
    (ofPairs pairs).get? parameter =
      (ofPairs (pairs.filter (isAbout parameter))).get? parameter := by
  induction pairs using List.reverseRecOn with
  | nil => rfl
  | append_singleton pairs pair inductionHypothesis =>
      rw [ofPairs_concat, List.filter_append]
      by_cases about : baseName pair.1 = parameter
      · have isKept : [pair].filter (isAbout parameter) = [pair] := by
          rw [List.filter_cons_of_pos (isAbout_iff.mpr about), List.filter_nil]
        rw [isKept, ofPairs_concat]
        exact get?_insertPair_congr about inductionHypothesis
      · have isDropped : [pair].filter (isAbout parameter) = [] := by
          rw [List.filter_cons_of_neg (mt isAbout_iff.mp about), List.filter_nil]
        rw [isDropped, List.append_nil, get?_insertPair_of_ne about, inductionHypothesis]

/-! ## Entries with texts in brackets -/

/-- The key and the text of an entry of the list parameter, if the pair is one that has a text
in brackets. -/
def itemOf? (parameter : String) (pair : String × String) : Option (String × String) :=
  match splitBrackets? pair.1 with
  | none => none
  | some (base, key) => if base = parameter ∧ key ≠ "" then some (key, pair.2) else none

theorem itemOf?_of_split
    {pair : String × String} {key : String}
    (split : splitBrackets? pair.1 = some (parameter, key)) (hasKey : key ≠ "") :
    itemOf? parameter pair = some (key, pair.2) := by
  simp only [itemOf?, split, true_and]
  exact if_pos hasKey

theorem itemOf?_of_ne
    {pair : String × String} (different : baseName pair.1 ≠ parameter) :
    itemOf? parameter pair = none := by
  rw [baseName] at different
  cases split : splitBrackets? pair.1 with
  | none => simp only [itemOf?, split]
  | some parts =>
      rw [split] at different
      simp only [itemOf?, split]
      exact if_neg fun both => different both.1

/-- The entries of the list parameter with texts in brackets, in the order of the pairs. -/
def itemsOf (parameter : String) (pairs : List (String × String)) : List (String × String) :=
  pairs.filterMap (itemOf? parameter)

/-- All pairs that are about the parameter have a text in brackets. -/
def AllIndexed (parameter : String) (pairs : List (String × String)) : Prop :=
  ∀ pair ∈ pairs,
    baseName pair.1 = parameter →
      ∃ key, splitBrackets? pair.1 = some (parameter, key) ∧ key ≠ ""

theorem isSome_itemOf?_iff {pair : String × String} :
    (itemOf? parameter pair).isSome = true ↔
      ∃ key, splitBrackets? pair.1 = some (parameter, key) ∧ key ≠ "" := by
  constructor
  · intro isItem
    simp only [itemOf?] at isItem
    split at isItem
    · cases isItem
    · rename_i base key split
      by_cases isEntry : base = parameter ∧ key ≠ ""
      · obtain ⟨rfl, hasKey⟩ := isEntry
        exact ⟨key, split, hasKey⟩
      · rw [if_neg isEntry] at isItem
        cases isItem
  · rintro ⟨key, split, hasKey⟩
    rw [itemOf?_of_split split hasKey]
    rfl

instance (parameter : String) (pairs : List (String × String)) :
    Decidable (AllIndexed parameter pairs) :=
  decidable_of_iff
    (∀ pair ∈ pairs, baseName pair.1 = parameter → (itemOf? parameter pair).isSome = true)
    (by simp only [isSome_itemOf?_iff, AllIndexed])

def listOf? (items : List (String × String)) : Option ParameterValue :=
  if items = [] then none else some (.list (.ofList items))

theorem entriesOf_of_listOf?
    {items : List (String × String)} (isList : input.get? parameter = listOf? items) :
    input.entriesOf parameter = .ofList items := by
  rw [entriesOf, isList, listOf?]
  by_cases isEmpty : items = []
  · rw [if_pos isEmpty, isEmpty]
    rfl
  · rw [if_neg isEmpty]

/-- The entries of a list parameter are those of the pairs, if all of them have texts in
brackets. -/
theorem get?_ofPairs_of_allIndexed
    {pairs : List (String × String)} (indexed : AllIndexed parameter pairs) :
    (ofPairs pairs).get? parameter = listOf? (itemsOf parameter pairs) := by
  induction pairs using List.reverseRecOn with
  | nil => rfl
  | append_singleton pairs pair inductionHypothesis =>
      have earlierIndexed : AllIndexed parameter pairs :=
        fun earlier member => indexed earlier (List.mem_append_left _ member)
      have isList := inductionHypothesis earlierIndexed
      rw [ofPairs_concat, itemsOf, List.filterMap_append, ← itemsOf]
      by_cases about : baseName pair.1 = parameter
      · obtain ⟨key, split, hasKey⟩ := indexed pair (by simp) about
        have isItem : [pair].filterMap (itemOf? parameter) = [(key, pair.2)] := by
          rw [List.filterMap_cons_some (itemOf?_of_split split hasKey), List.filterMap_nil]
        have sameKey : (ofPairs pairs).entryKey parameter key = key :=
          if_neg (mt String.isEmpty_iff.mp hasKey)
        rw [insertPair_of_split split, sameKey, get?_insertItem_self,
          entriesOf_of_listOf? isList, isItem, listOf?, if_neg (by simp), OrderedMap.ofList,
          OrderedMap.ofList, List.foldl_append, List.foldl_cons, List.foldl_nil]
      · have isNoItem : [pair].filterMap (itemOf? parameter) = [] := by
          rw [List.filterMap_cons_none (itemOf?_of_ne about), List.filterMap_nil]
        rw [get?_insertPair_of_ne about, isList, isNoItem, List.append_nil]

end FilterQuery.QueryInput
