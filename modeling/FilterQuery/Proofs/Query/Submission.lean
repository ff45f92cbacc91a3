import FilterQuery.Proofs.Collection.OrderedMap
import FilterQuery.Proofs.Query.Collection
import FilterQuery.Proofs.Query.Input
import Mathlib.Data.List.Nodup

/-!
# No submitted filter is lost

A text that was entered into the list of filters, and that no later pair overwrites, is
the text of exactly one filter of the parsed query.

Two things are no loss: a text that is entered under several keys is one filter, under
the index of its first key; and pairs that overwrite an entry, or replace the list by a
single text, take back what was submitted before (`parse_loses_overwritten`).
-/

namespace FilterQuery

/-- A filter has the text that it was read from. -/
theorem Filter.expression_of_parse
    {text : String} {filter : Filter} (read : parse text = .ok filter) :
    filter.expression = text := by
  unfold parse at read
  simp only at read
  split at read
  · cases read
  split at read
  · cases read
  split at read
  · cases read
  split at read
  · cases read
  obtain ⟨⟨kind, caseInsensitive⟩, _, made⟩ :=
    Outcome.bind_eq_ok_iff.mp (Outcome.mapError_eq_ok_iff.mp read)
  simp only [make] at made
  split at made
  · cases made
    rfl
  · cases made

namespace Query

/-- The filters of a query are what its list of filters comes to. -/
theorem collect_of_parse
    {input : QueryInput} {query : Query} (parsed : parse input = .ok query)
    {entries : OrderedMap String String}
    (isList : input.get? "filter" = some (.list entries)) :
    Entries.collect Filter.parse entries = .ok query.filters := by
  have collected := (parse_eq_ok_iff.mp parsed).1
  simp only [collectParameter, Entries.Parameter.name, isList] at collected
  exact Outcome.mapError_eq_ok_iff.mp collected

section Collected

variable {entries : OrderedMap String String} {filters : Slots Filter}

/-- Two filters do not have the same text. -/
theorem index_unique_of_collect
    (collected : Entries.collect Filter.parse entries = .ok filters)
    {firstIndex secondIndex : Nat} {first second : Filter}
    (isFirst : filters.get? firstIndex = some first)
    (isSecond : filters.get? secondIndex = some second)
    (sameText : first.expression = second.expression) :
    firstIndex = secondIndex := by
  obtain ⟨firstRaw, firstText, firstEntry, firstRead, firstParsed⟩ :=
    (Entries.mem_collect_iff collected).mp (Slots.get?_eq_some_iff.mp isFirst)
  obtain ⟨secondRaw, secondText, secondEntry, secondRead, secondParsed⟩ :=
    (Entries.mem_collect_iff collected).mp (Slots.get?_eq_some_iff.mp isSecond)
  have same : firstText = secondText := by
    rw [← Filter.expression_of_parse firstParsed,
      ← Filter.expression_of_parse secondParsed]
    exact sameText
  subst same
  have sameEntry :
      (firstRaw, firstText) = (secondRaw, firstText) :=
    List.inj_on_of_nodup_map (Entries.nodup_distinct [] entries.entries)
      firstEntry secondEntry rfl
  cases sameEntry
  have sameIndex : Except.ok firstIndex = Except.ok secondIndex :=
    firstRead.symm.trans secondRead
  exact Except.ok.inj sameIndex

/-- A text among the entries is the text of a filter, under the index of one of its
keys. -/
theorem exists_filter_of_collect
    (collected : Entries.collect Filter.parse entries = .ok filters)
    {key text : String} (member : (key, text) ∈ entries.entries) :
    ∃ firstKey index filter,
      (firstKey, text) ∈ entries.entries ∧
        Entries.readIndex firstKey = .ok index ∧
        filters.get? index = some filter ∧
        filter.expression = text := by
  obtain ⟨firstKey, isKept⟩ :=
    Entries.exists_mem_distinct member List.not_mem_nil
  obtain ⟨index, filter, isIndex, parsed⟩ :=
    Entries.exists_read_of_collectInto collected isKept
  refine
    ⟨firstKey, index, filter, Entries.mem_of_mem_distinct isKept, isIndex, ?_,
      Filter.expression_of_parse parsed⟩
  rw [Slots.get?_eq_some_iff, Entries.mem_collect_iff collected]
  exact ⟨firstKey, text, isKept, isIndex, parsed⟩

end Collected

/-- What was entered and not overwritten is an entry of the list of filters. -/
theorem exists_entries_of_isKept
    {pairs : List (String × String)} {key text : String}
    (kept : QueryInput.IsKept "filter" key text pairs) :
    ∃ entries,
      (QueryInput.ofPairs pairs).get? "filter" = some (.list entries) ∧
        (key, text) ∈ entries.entries := by
  obtain ⟨entries, isList, found⟩ := QueryInput.holds_ofPairs_iff.mpr kept
  exact ⟨entries, isList, OrderedMap.get?_eq_some_iff.mp found⟩

/-- Two texts that stand first under keys of the same index are never both accepted. -/
theorem eq_of_standsFirst
    {input : QueryInput} {query : Query} (parsed : parse input = .ok query)
    {index : Nat} {firstKey secondKey firstText secondText : String}
    (first : input.StandsFirst "filter" firstKey firstText)
    (second : input.StandsFirst "filter" secondKey secondText)
    (firstIndex : Entries.readIndex firstKey = .ok index)
    (secondIndex : Entries.readIndex secondKey = .ok index) :
    firstText = secondText := by
  have isFilter :
      ∀ key text,
        input.StandsFirst "filter" key text →
        Entries.readIndex key = .ok index →
          ∃ filter,
            query.filters.get? index = some filter ∧ filter.expression = text := by
    rintro key text ⟨entries, before, after, isList, partition, noneBefore⟩ isIndex
    have collected := collect_of_parse parsed isList
    have remains : (key, text) ∈ Entries.distinct [] entries.entries := by
      rw [partition]
      exact Entries.mem_distinct_of_first List.not_mem_nil noneBefore
    obtain ⟨_, filter, _, read⟩ :=
      Entries.exists_read_of_collectInto collected remains
    refine ⟨filter, ?_, Filter.expression_of_parse read⟩
    rw [Slots.get?_eq_some_iff, Entries.mem_collect_iff collected]
    exact ⟨key, text, remains, isIndex, read⟩
  obtain ⟨filter, isFirst, sameFirst⟩ :=
    isFilter firstKey firstText first firstIndex
  obtain ⟨other, isSecond, sameSecond⟩ :=
    isFilter secondKey secondText second secondIndex
  have same : filter = other := Option.some.inj (isFirst.symm.trans isSecond)
  rw [← sameFirst, ← sameSecond, same]

/-- No submitted filter is lost.  A text that was entered into the list of filters, and
that no later pair overwrites, is the text of exactly one filter of the query.  Two
different texts under keys that denote the same index are rejected, provided that each
of them stands there for the first time. -/
theorem parse_keeps_submitted (pairs : List (String × String)) :
    (∀ query,
      parse (.ofPairs pairs) = .ok query →
        ∀ key text,
          QueryInput.IsKept "filter" key text pairs →
            ∃! index,
              ∃ filter,
                query.filters.get? index = some filter ∧
                  filter.expression = text) ∧
      ∀ index firstKey secondKey firstText secondText,
        (QueryInput.ofPairs pairs).StandsFirst "filter" firstKey firstText →
        (QueryInput.ofPairs pairs).StandsFirst "filter" secondKey secondText →
        Entries.readIndex firstKey = .ok index →
        Entries.readIndex secondKey = .ok index →
        firstText ≠ secondText →
          ∃ fault, parse (.ofPairs pairs) = .error fault := by
  constructor
  · intro query parsed key text kept
    obtain ⟨entries, isList, member⟩ := exists_entries_of_isKept kept
    have collected := collect_of_parse parsed isList
    obtain ⟨_, index, filter, _, _, isFilter, sameText⟩ :=
      exists_filter_of_collect collected member
    refine ⟨index, ⟨filter, isFilter, sameText⟩, ?_⟩
    rintro other ⟨otherFilter, isOther, otherText⟩
    exact
      index_unique_of_collect collected isOther isFilter
        (otherText.trans sameText.symm)
  · intro index firstKey secondKey firstText secondText first second
      firstIndex secondIndex different
    cases outcome : parse (.ofPairs pairs) with
    | error fault => exact ⟨fault, rfl⟩
    | ok query =>
        exact
          absurd (eq_of_standsFirst outcome first second firstIndex secondIndex)
            different

/-- Explicit and automatic keys, with one text under two of them. -/
def interleavedPairs : List (String × String) :=
  [("filter[]", "a=1"), ("sort[]", "a"), ("filter[5]", "b=2"),
    ("filter[]", "c=3"), ("filter[7]", "a=1")]

/-- Two spellings of one index, one with a text that is repeated later. -/
def collidingPairs : List (String × String) :=
  [("filter[7]", "a=1"), ("filter[007]", "b=2"), ("filter[9]", "a=1")]

theorem parse_keeps_submitted_interleaved :
    (∃ query,
      parse (.ofPairs interleavedPairs) = .ok query ∧
        QueryInput.IsKept "filter" "6" "c=3" interleavedPairs ∧
        ∃! index,
          ∃ filter,
            query.filters.get? index = some filter ∧
              filter.expression = "c=3") ∧
      (QueryInput.ofPairs collidingPairs).StandsFirst "filter" "7" "a=1" ∧
        (QueryInput.ofPairs collidingPairs).StandsFirst "filter" "007" "b=2" ∧
        ∃ fault, parse (.ofPairs collidingPairs) = .error fault := by
  constructor
  · have parses :
        (parse (.ofPairs interleavedPairs)).toOption.isSome = true := by
      decide +kernel
    have isList :
        (QueryInput.ofPairs interleavedPairs).get? "filter" =
          some
            (.list
              (.ofList
                [("0", "a=1"), ("5", "b=2"), ("6", "c=3"), ("7", "a=1")])) := by
      rfl
    obtain ⟨query, parsed⟩ := Outcome.exists_eq_ok_of_isSome parses
    have kept : QueryInput.IsKept "filter" "6" "c=3" interleavedPairs :=
      QueryInput.holds_ofPairs_iff.mp ⟨_, isList, rfl⟩
    exact
      ⟨query, parsed, kept,
        (parse_keeps_submitted _).1 query parsed "6" "c=3" kept⟩
  · have isList :
        (QueryInput.ofPairs collidingPairs).get? "filter" =
          some (.list (.ofList [("7", "a=1"), ("007", "b=2"), ("9", "a=1")])) := by
      rfl
    have first :
        (QueryInput.ofPairs collidingPairs).StandsFirst "filter" "7" "a=1" :=
      ⟨_, [], [("007", "b=2"), ("9", "a=1")], isList, rfl, by decide⟩
    have second :
        (QueryInput.ofPairs collidingPairs).StandsFirst "filter" "007" "b=2" :=
      ⟨_, [("7", "a=1")], [("9", "a=1")], isList, rfl, by decide⟩
    exact
      ⟨first, second,
        (parse_keeps_submitted collidingPairs).2 7 "7" "007" "a=1" "b=2" first
          second rfl rfl (by decide)⟩

/-- A single text under the name of the list, or another text in the same brackets,
takes back what was submitted before; and two texts under one index are both accepted
when one of them already stands under another index. -/
theorem parse_loses_overwritten :
    (∃ query,
      parse
          (.ofPairs
            [("filter[0]", "a=1"), ("filter", "x"), ("filter[1]", "b=2")]) =
          .ok query ∧
        "a=1" ∉ query.filters.values.map Filter.expression) ∧
      (∃ query,
        parse (.ofPairs [("filter[0]", "a=1"), ("filter[0]", "b=2")]) =
            .ok query ∧
          "a=1" ∉ query.filters.values.map Filter.expression) ∧
      ∃ query,
        parse
            (.ofPairs
              [("filter[3]", "a=1"), ("filter[7]", "a=1"),
                ("filter[007]", "b=2")]) =
          .ok query := by
  have replaced :
      ((parse
            (.ofPairs
              [("filter[0]", "a=1"), ("filter", "x"),
                ("filter[1]", "b=2")])).toOption.map fun query =>
          query.filters.values.map Filter.expression) = some ["b=2"] := by
    decide +kernel
  have overwritten :
      ((parse
            (.ofPairs
              [("filter[0]", "a=1"), ("filter[0]", "b=2")])).toOption.map
          fun query => query.filters.values.map Filter.expression) =
        some ["b=2"] := by
    decide +kernel
  have repeated :
      (parse
          (.ofPairs
            [("filter[3]", "a=1"), ("filter[7]", "a=1"),
              ("filter[007]", "b=2")])).toOption.isSome = true := by
    decide +kernel
  obtain ⟨first, isFirst, firstTexts⟩ := Option.map_eq_some_iff.mp replaced
  obtain ⟨second, isSecond, secondTexts⟩ :=
    Option.map_eq_some_iff.mp overwritten
  refine
    ⟨⟨first, Outcome.eq_ok_of_toOption isFirst, ?_⟩,
      ⟨second, Outcome.eq_ok_of_toOption isSecond, ?_⟩,
      Outcome.exists_eq_ok_of_isSome repeated⟩
  · rw [firstTexts]
    decide
  · rw [secondTexts]
    decide

end Query

end FilterQuery
