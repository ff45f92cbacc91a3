import FilterQuery.Proofs.Query.Parsing
import Mathlib.Data.List.Nodup

/-!
# Nothing is lost in collecting

Once the entries of a list parameter were collected, every text among them stands
under the index of the first entry that has it.

* `Entries.distinct` keeps one entry for each text;
* `Entries.mem_collectInto_iff`: what is collected are the values of the remaining
  entries, each under its own index;
* `Entries.exists_collectInto_eq_ok_iff`: entries can be collected when each of them can
  be read and no two of them have the same index, in whatever order they stand.
-/

namespace FilterQuery

variable {ε α : Type}

namespace Slots

theorem get?_eq_some_iff {slots : Slots α} {index : Nat} {value : α} :
    slots.get? index = some value ↔ (index, value) ∈ slots.entries :=
  ⟨mem_of_lookup, lookup_of_mem slots.ascending⟩

theorem contains_eq_false_iff {slots : Slots α} {index : Nat} :
    slots.contains index = false ↔ index ∉ slots.entries.map Prod.fst := by
  rw [← exists_lookup_iff_mem_keys, ← Option.isSome_iff_exists,
    Bool.not_eq_true]
  rfl

theorem mem_insertEntries_self
    {index : Nat} {value : α} {entries : List (Nat × α)} :
    (index, value) ∈ insertEntries index value entries := by
  induction entries with
  | nil => exact List.mem_singleton.mpr rfl
  | cons first rest inductionHypothesis =>
      obtain ⟨present, old⟩ := first
      simp only [insertEntries]
      split
      · exact List.mem_cons_self
      · split
        · exact List.mem_cons_self
        · exact List.mem_cons_of_mem _ inductionHypothesis

/-- Other indexes keep their values. -/
theorem mem_insertEntries_of_ne
    {index : Nat} {value : α} {entries : List (Nat × α)} {entry : Nat × α}
    (different : entry.1 ≠ index) (member : entry ∈ entries) :
    entry ∈ insertEntries index value entries := by
  induction entries with
  | nil => cases member
  | cons first rest inductionHypothesis =>
      obtain ⟨present, old⟩ := first
      simp only [insertEntries]
      split
      · exact List.mem_cons_of_mem _ member
      · split
        · rename_i same
          rcases List.mem_cons.mp member with isFirst | later
          · rw [isFirst] at different
            exact absurd same.symm different
          · exact List.mem_cons_of_mem _ later
        · rcases List.mem_cons.mp member with isFirst | later
          · exact List.mem_cons.mpr (.inl isFirst)
          · exact List.mem_cons_of_mem _ (inductionHypothesis later)

/-- A value under a new index joins the others. -/
theorem mem_insert_iff
    {slots : Slots α} {index : Nat} {value : α} {entry : Nat × α}
    (isNew : slots.contains index = false) :
    entry ∈ (slots.insert index value).entries ↔
      entry = (index, value) ∨ entry ∈ slots.entries := by
  constructor
  · exact mem_of_mem_insertEntries
  · rintro (rfl | member)
    · exact mem_insertEntries_self
    · apply mem_insertEntries_of_ne _ member
      intro same
      have present : entry.1 ∈ slots.entries.map Prod.fst :=
        List.mem_map_of_mem member
      rw [same] at present
      exact contains_eq_false_iff.mp isNew present

theorem contains_insert_eq_false_iff
    {slots : Slots α} {index tested : Nat} {value : α} :
    (slots.insert index value).contains tested = false ↔
      index ≠ tested ∧ slots.contains tested = false := by
  rw [contains, get?_insert, contains]
  by_cases same : index = tested
  · simp [same]
  · simp [same]

theorem length_insertEntries
    {index : Nat} {value : α} {entries : List (Nat × α)}
    (isNew : index ∉ entries.map Prod.fst) :
    (insertEntries index value entries).length = entries.length + 1 := by
  induction entries with
  | nil => rfl
  | cons entry rest inductionHypothesis =>
      obtain ⟨present, old⟩ := entry
      rw [List.map_cons, List.mem_cons, not_or] at isNew
      obtain ⟨different, isNewToo⟩ := isNew
      rw [insertEntries, if_neg different]
      split
      · rfl
      · rw [List.length_cons, inductionHypothesis isNewToo, List.length_cons]

theorem nodup_entries (slots : Slots α) : slots.entries.Nodup := by
  have distinct : (slots.entries.map Prod.fst).Nodup :=
    slots.ascending.imp Nat.ne_of_lt
  exact List.Nodup.of_map Prod.fst distinct

/-- Slots with the same members are the same, since both are in ascending order. -/
theorem eq_of_mem_iff
    {first second : Slots α}
    (same : ∀ entry, entry ∈ first.entries ↔ entry ∈ second.entries) :
    first = second := by
  have permuted : first.entries.Perm second.entries :=
    (List.perm_ext_iff_of_nodup first.nodup_entries second.nodup_entries).mpr same
  have sameEntries : first.entries = second.entries := by
    apply permuted.eq_of_pairwise _ (List.pairwise_map.mp first.ascending)
      (List.pairwise_map.mp second.ascending)
    intro entry other _ _ below above
    exact absurd above (Nat.lt_asymm below)
  cases first
  cases second
  cases sameEntries
  rfl

end Slots

namespace Entries

variable {parse : String → Except ε α}

/-! ## Repeated texts -/

/-- Every text is still there, unless it is one of those that were seen before. -/
theorem exists_mem_distinct
    {seen : List String} {entries : List (String × String)}
    {raw text : String} (member : (raw, text) ∈ entries)
    (unseen : text ∉ seen) :
    ∃ first, (first, text) ∈ distinct seen entries := by
  induction entries generalizing seen with
  | nil => cases member
  | cons entry rest inductionHypothesis =>
      obtain ⟨key, expression⟩ := entry
      by_cases isSame : expression = text
      · subst isSame
        refine ⟨key, ?_⟩
        rw [distinct, if_neg (by simpa using unseen)]
        exact List.mem_cons_self
      · have later : (raw, text) ∈ rest := by
          rcases List.mem_cons.mp member with isEntry | later
          · cases isEntry
            exact absurd rfl isSame
          · exact later
        rw [distinct]
        split
        · exact inductionHypothesis later unseen
        · have unseenToo : text ∉ expression :: seen := by
            rw [List.mem_cons, not_or]
            exact ⟨Ne.symm isSame, unseen⟩
          obtain ⟨first, isKept⟩ := inductionHypothesis later unseenToo
          exact ⟨first, List.mem_cons_of_mem _ isKept⟩

/-- The first entry with a text remains. -/
theorem mem_distinct_of_first
    {seen : List String} {before after : List (String × String)}
    {raw text : String} (unseen : text ∉ seen)
    (isFirst : text ∉ before.map Prod.snd) :
    (raw, text) ∈ distinct seen (before ++ (raw, text) :: after) := by
  induction before generalizing seen with
  | nil =>
      rw [List.nil_append, distinct, if_neg (by simpa using unseen)]
      exact List.mem_cons_self
  | cons entry rest inductionHypothesis =>
      obtain ⟨key, expression⟩ := entry
      rw [List.map_cons, List.mem_cons, not_or] at isFirst
      obtain ⟨different, isFirstOfRest⟩ := isFirst
      rw [List.cons_append, distinct]
      split
      · exact inductionHypothesis unseen isFirstOfRest
      · have unseenToo : text ∉ expression :: seen := by
          rw [List.mem_cons, not_or]
          exact ⟨different, unseen⟩
        exact
          List.mem_cons_of_mem _ (inductionHypothesis unseenToo isFirstOfRest)

/-- No text remains that was seen before. -/
theorem not_mem_seen_of_mem_distinct
    {seen : List String} {entries : List (String × String)}
    {entry : String × String} (member : entry ∈ distinct seen entries) :
    entry.2 ∉ seen := by
  induction entries generalizing seen with
  | nil => cases member
  | cons first rest inductionHypothesis =>
      obtain ⟨key, expression⟩ := first
      rw [distinct] at member
      split at member
      · exact inductionHypothesis member
      · rename_i isNew
        rcases List.mem_cons.mp member with same | later
        · rw [same]
          simpa using isNew
        · intro isSeen
          exact inductionHypothesis later (List.mem_cons_of_mem _ isSeen)

/-- No text remains twice. -/
theorem nodup_distinct (seen : List String) (entries : List (String × String)) :
    ((distinct seen entries).map Prod.snd).Nodup := by
  induction entries generalizing seen with
  | nil => exact List.nodup_nil
  | cons first rest inductionHypothesis =>
      obtain ⟨key, expression⟩ := first
      rw [distinct]
      split
      · exact inductionHypothesis seen
      · rw [List.map_cons, List.nodup_cons]
        refine ⟨?_, inductionHypothesis _⟩
        intro repeated
        obtain ⟨entry, member, same⟩ := List.mem_map.mp repeated
        apply not_mem_seen_of_mem_distinct member
        rw [same]
        exact List.mem_cons_self

/-- Entries without repeated texts all remain. -/
theorem distinct_eq_self
    {seen : List String} {entries : List (String × String)}
    (unseen : ∀ entry ∈ entries, entry.2 ∉ seen)
    (texts : (entries.map Prod.snd).Nodup) : distinct seen entries = entries := by
  induction entries generalizing seen with
  | nil => rfl
  | cons first rest inductionHypothesis =>
      obtain ⟨raw, text⟩ := first
      obtain ⟨isNew, restUnseen⟩ := List.forall_mem_cons.mp unseen
      rw [List.map_cons, List.nodup_cons] at texts
      obtain ⟨notRepeated, restTexts⟩ := texts
      have restUnseenToo : ∀ entry ∈ rest, entry.2 ∉ text :: seen := by
        intro entry member
        rw [List.mem_cons, not_or]
        refine ⟨?_, restUnseen entry member⟩
        intro same
        exact notRepeated (List.mem_map.mpr ⟨entry, member, same⟩)
      rw [distinct, if_neg (by simpa using isNew),
        inductionHypothesis restUnseenToo restTexts]

/-! ## Collecting -/

/-- Each of the entries can be read, and no two of them have the same index. -/
structure AreReadable
    (parse : String → Except ε α) (entries : List (String × String)) : Prop where
  indexes : ∀ entry ∈ entries, ∃ index, readIndex entry.1 = .ok index
  values : ∀ entry ∈ entries, ∃ value, parse entry.2 = .ok value
  apart :
    entries.Pairwise fun first second =>
      ∀ index, ¬ (readIndex first.1 = .ok index ∧ readIndex second.1 = .ok index)

theorem areReadable_cons_iff
    {entry : String × String} {rest : List (String × String)} :
    AreReadable parse (entry :: rest) ↔
      ∃ index value,
        readIndex entry.1 = .ok index ∧
          parse entry.2 = .ok value ∧
          (∀ later ∈ rest, readIndex later.1 ≠ .ok index) ∧
          AreReadable parse rest := by
  constructor
  · rintro ⟨indexes, values, apart⟩
    obtain ⟨⟨index, isIndex⟩, restIndexes⟩ := List.forall_mem_cons.mp indexes
    obtain ⟨⟨value, isValue⟩, restValues⟩ := List.forall_mem_cons.mp values
    obtain ⟨entryApart, restApart⟩ := List.pairwise_cons.mp apart
    refine
      ⟨index, value, isIndex, isValue, ?_, restIndexes, restValues, restApart⟩
    intro later member sameIndex
    exact entryApart later member index ⟨isIndex, sameIndex⟩
  · rintro ⟨index, value, isIndex, isValue, entryApart, indexes, values, apart⟩
    refine
      ⟨List.forall_mem_cons.mpr ⟨⟨index, isIndex⟩, indexes⟩,
        List.forall_mem_cons.mpr ⟨⟨value, isValue⟩, values⟩,
        List.pairwise_cons.mpr ⟨?_, apart⟩⟩
    rintro later member other ⟨isOther, sameIndex⟩
    rw [isIndex] at isOther
    cases isOther
    exact entryApart later member sameIndex

theorem AreReadable.perm
    {first second : List (String × String)} (permuted : first.Perm second)
    (readable : AreReadable parse first) : AreReadable parse second := by
  obtain ⟨indexes, values, apart⟩ := readable
  refine ⟨?_, ?_, ?_⟩
  · intro entry member
    exact indexes entry (permuted.mem_iff.mpr member)
  · intro entry member
    exact values entry (permuted.mem_iff.mpr member)
  · apply apart.perm permuted
    intro one other different index both
    exact different index both.symm

/-- Entries can be collected when each of them can be read, and their indexes differ from
each other and from those that are taken. -/
theorem exists_collectInto_eq_ok_iff
    {slots : Slots α} {entries : List (String × String)} :
    (∃ collected, collectInto parse slots entries = .ok collected) ↔
      AreReadable parse entries ∧
        ∀ entry ∈ entries, ∀ index,
          readIndex entry.1 = .ok index → slots.contains index = false := by
  induction entries generalizing slots with
  | nil =>
      apply iff_of_true ⟨slots, rfl⟩
      exact ⟨⟨nofun, nofun, List.Pairwise.nil⟩, nofun⟩
  | cons entry rest inductionHypothesis =>
      rw [areReadable_cons_iff, List.forall_mem_cons]
      constructor
      · rintro ⟨collected, done⟩
        obtain ⟨index, value, isIndex, vacant, isValue, done⟩ :=
          collectInto_cons_eq_ok_iff.mp done
        -- The others find the index taken, so none of them has it.
        obtain ⟨restReadable, restVacant⟩ := inductionHypothesis.mp ⟨collected, done⟩
        have restApart : ∀ later ∈ rest, readIndex later.1 ≠ .ok index := by
          intro later member sameIndex
          have notTaken := restVacant later member index sameIndex
          exact (Slots.contains_insert_eq_false_iff.mp notTaken).1 rfl
        refine
          ⟨⟨index, value, isIndex, isValue, restApart, restReadable⟩, ?_, ?_⟩
        · intro other isOther
          rw [isIndex] at isOther
          cases isOther
          exact vacant
        · intro later member other isOther
          have notTaken := restVacant later member other isOther
          exact (Slots.contains_insert_eq_false_iff.mp notTaken).2
      · rintro ⟨⟨index, value, isIndex, isValue, restApart, restReadable⟩, isVacant,
          restVacant⟩
        have vacant : slots.contains index = false := isVacant index isIndex
        have restVacantToo :
            ∀ later ∈ rest, ∀ other,
              readIndex later.1 = .ok other →
                (slots.insert index value).contains other = false := by
          intro later member other isOther
          apply Slots.contains_insert_eq_false_iff.mpr
          refine ⟨?_, restVacant later member other isOther⟩
          rintro rfl
          exact restApart later member isOther
        obtain ⟨collected, done⟩ :=
          inductionHypothesis.mpr ⟨restReadable, restVacantToo⟩
        exact
          ⟨collected,
            collectInto_cons_eq_ok_iff.mpr ⟨index, value, isIndex, vacant, isValue, done⟩⟩

/-- The value of an entry that was collected. -/
theorem exists_read_of_collectInto
    {slots collected : Slots α} {entries : List (String × String)}
    (done : collectInto parse slots entries = .ok collected)
    {entry : String × String} (member : entry ∈ entries) :
    ∃ index value,
      readIndex entry.1 = .ok index ∧ parse entry.2 = .ok value := by
  induction entries generalizing slots with
  | nil => cases member
  | cons first rest inductionHypothesis =>
      obtain ⟨index, value, isIndex, _, isValue, restDone⟩ :=
        collectInto_cons_eq_ok_iff.mp done
      rcases List.mem_cons.mp member with same | later
      · rw [same]
        exact ⟨index, value, isIndex, isValue⟩
      · exact inductionHypothesis restDone later

/-- What is collected are the values of the entries, besides those that were there
before. -/
theorem mem_collectInto_iff
    {slots collected : Slots α} {entries : List (String × String)}
    (done : collectInto parse slots entries = .ok collected)
    {slot : Nat × α} :
    slot ∈ collected.entries ↔
      slot ∈ slots.entries ∨ IsReadFrom parse entries slot := by
  constructor
  · exact isReadFrom_of_collectInto done
  · induction entries generalizing slots with
    | nil =>
        cases done
        rintro (present | ⟨_, _, isEntry, _⟩)
        · exact present
        · cases isEntry
    | cons first rest inductionHypothesis =>
        obtain ⟨index, value, isIndex, vacant, isValue, restDone⟩ :=
          collectInto_cons_eq_ok_iff.mp done
        have mem_next := @Slots.mem_insert_iff α slots index value slot vacant
        rintro (present | ⟨otherRaw, otherText, isEntry, sameIndex, sameValue⟩)
        · exact inductionHypothesis restDone (.inl (mem_next.mpr (.inr present)))
        · rcases List.mem_cons.mp isEntry with isFirst | later
          · cases isFirst
            have same : slot = (index, value) := by
              rw [isIndex] at sameIndex
              rw [isValue] at sameValue
              cases sameIndex
              cases sameValue
              rfl
            exact inductionHypothesis restDone (.inl (mem_next.mpr (.inl same)))
          · exact
              inductionHypothesis restDone
                (.inr ⟨otherRaw, otherText, later, sameIndex, sameValue⟩)

/-- Collecting starts without values. -/
theorem mem_collect_iff
    {entries : OrderedMap String String} {collected : Slots α}
    (done : collect parse entries = .ok collected) {slot : Nat × α} :
    slot ∈ collected.entries ↔
      IsReadFrom parse (distinct [] entries.entries) slot := by
  rw [mem_collectInto_iff done]
  constructor
  · rintro (present | isRead)
    · cases present
    · exact isRead
  · exact .inr

theorem exists_collect_eq_ok_iff {entries : OrderedMap String String} :
    (∃ collected, collect parse entries = .ok collected) ↔
      AreReadable parse (distinct [] entries.entries) := by
  rw [collect, exists_collectInto_eq_ok_iff]
  constructor
  · exact And.left
  · intro readable
    exact ⟨readable, fun _ _ _ _ => rfl⟩

/-- Entries without repeated texts can stand in any order. -/
theorem collect_eq_ok_of_perm
    {first second : OrderedMap String String}
    (permuted : first.entries.Perm second.entries)
    (texts : (first.entries.map Prod.snd).Nodup) {collected : Slots α}
    (done : collect parse first = .ok collected) :
    collect parse second = .ok collected := by
  have secondTexts : (second.entries.map Prod.snd).Nodup :=
    (permuted.map Prod.snd).nodup_iff.mp texts
  have firstKept : distinct [] first.entries = first.entries :=
    distinct_eq_self (fun _ _ => List.not_mem_nil) texts
  have secondKept : distinct [] second.entries = second.entries :=
    distinct_eq_self (fun _ _ => List.not_mem_nil) secondTexts
  have readable : AreReadable parse first.entries := by
    rw [← firstKept]
    exact exists_collect_eq_ok_iff.mp ⟨collected, done⟩
  obtain ⟨other, otherDone⟩ :
      ∃ other, collect parse second = .ok other := by
    rw [exists_collect_eq_ok_iff, secondKept]
    exact readable.perm permuted
  have same : collected = other := by
    apply Slots.eq_of_mem_iff
    intro slot
    rw [mem_collect_iff done, mem_collect_iff otherDone, firstKept, secondKept]
    simp only [IsReadFrom, permuted.mem_iff]
  rw [same]
  exact otherDone

end Entries

end FilterQuery
