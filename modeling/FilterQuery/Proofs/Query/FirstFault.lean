import FilterQuery.Proofs.Query.Collection
import Mathlib.Data.List.Induction

/-!
# Collected entries and the first fault

Collecting the entries of a list parameter looks at the first entry with each text, in the order
of submission.  It gives exactly their values under their indexes, or the fault of the first one
that is at fault (`entries_collected_exactly`).

* `firstOccurrences` are the entries that are looked at;
* `Denotes` and `HasIndexFault` say what a text in brackets is;
* `Offends` says what is at fault with an entry that comes after others, and
  `collectInto_eq_error_iff` finds the first one.
-/

namespace FilterQuery.Entries

open FilterQuery.Text

variable {ε α : Type} {parse : String → Except ε α}

/-! ## Texts in brackets -/

/-- The text is a run of ASCII digits for the index, which is below `2 ^ 64`. -/
def Denotes (raw : String) (index : Nat) : Prop :=
  Digits.isRun raw.toList = true ∧ Digits.value raw.toList = index ∧ index < 2 ^ 64

/-- Why the text is no index: it is a run of digits after a minus sign, a run of digits for a
number that is too large, or neither. -/
def HasIndexFault (raw : String) : IndexFault → Prop
  | .negative => ∃ digits, raw.toList = '-' :: digits ∧ Digits.isRun digits = true
  | .tooLarge => Digits.isRun raw.toList = true ∧ 2 ^ 64 ≤ Digits.value raw.toList
  | .notInteger =>
      Digits.isRun raw.toList = false ∧
        ∀ digits, raw.toList = '-' :: digits → Digits.isRun digits = false

theorem isRun_minus (digits : List Char) : Digits.isRun ('-' :: digits) = false := by
  simp [Digits.isRun]

/-- A run of digits does not start with a minus sign. -/
theorem ne_minus_of_isRun
    {characters digits : List Char} (run : Digits.isRun characters = true) :
    characters ≠ '-' :: digits := by
  rintro rfl
  rw [isRun_minus] at run
  cases run

section Reading

variable {raw : String} {digits : List Char}

theorem readIndex_of_minus (isMinus : raw.toList = '-' :: digits) :
    readIndex raw =
      .error (if Digits.isRun digits then IndexFault.negative else .notInteger) := by
  simp only [readIndex, isMinus]

theorem readIndex_of_isRun (run : Digits.isRun raw.toList = true) :
    readIndex raw =
      if Digits.value raw.toList < 2 ^ 64 then .ok (Digits.value raw.toList)
      else .error .tooLarge := by
  unfold readIndex
  split
  · rename_i others isMinus
    exact absurd isMinus (ne_minus_of_isRun run)
  · simp only [Digits.read?, run, if_true]
    rfl

theorem readIndex_of_neither
    (notMinus : ∀ digits, raw.toList ≠ '-' :: digits)
    (notRun : Digits.isRun raw.toList = false) :
    readIndex raw = .error .notInteger := by
  unfold readIndex
  split
  · rename_i others isMinus
    exact absurd isMinus (notMinus others)
  · simp [Digits.read?, notRun]

theorem readIndex_eq_ok_iff {index : Nat} :
    readIndex raw = .ok index ↔ Denotes raw index := by
  by_cases run : Digits.isRun raw.toList = true
  · rw [readIndex_of_isRun run, Denotes]
    split
    · rename_i below
      constructor
      · rintro ⟨⟩
        exact ⟨run, rfl, below⟩
      · rintro ⟨_, rfl, _⟩
        rfl
    · rename_i notBelow
      apply iff_of_false nofun
      rintro ⟨_, rfl, below⟩
      exact notBelow below
  · apply iff_of_false _ fun denotes => run denotes.1
    intro isIndex
    by_cases isMinus : ∃ digits, raw.toList = '-' :: digits
    · obtain ⟨digits, isMinus⟩ := isMinus
      rw [readIndex_of_minus isMinus] at isIndex
      cases isIndex
    · rw [readIndex_of_neither (not_exists.mp isMinus) (Bool.not_eq_true _ ▸ run)] at isIndex
      cases isIndex

theorem readIndex_eq_error_iff {fault : IndexFault} :
    readIndex raw = .error fault ↔ HasIndexFault raw fault := by
  by_cases run : Digits.isRun raw.toList = true
  · rw [readIndex_of_isRun run]
    by_cases below : Digits.value raw.toList < 2 ^ 64
    · rw [if_pos below]
      apply iff_of_false nofun
      cases fault with
      | negative =>
          rintro ⟨digits, isMinus, _⟩
          exact ne_minus_of_isRun run isMinus
      | tooLarge =>
          rintro ⟨_, tooLarge⟩
          omega
      | notInteger =>
          rintro ⟨notRun, _⟩
          rw [run] at notRun
          cases notRun
    · rw [if_neg below]
      cases fault with
      | negative =>
          apply iff_of_false nofun
          rintro ⟨digits, isMinus, _⟩
          exact ne_minus_of_isRun run isMinus
      | tooLarge => exact iff_of_true rfl ⟨run, Nat.le_of_not_lt below⟩
      | notInteger =>
          apply iff_of_false nofun
          rintro ⟨notRun, _⟩
          rw [run] at notRun
          cases notRun
  · rw [Bool.not_eq_true] at run
    by_cases isMinus : ∃ digits, raw.toList = '-' :: digits
    · obtain ⟨digits, isMinus⟩ := isMinus
      rw [readIndex_of_minus isMinus]
      cases digitsRun : Digits.isRun digits <;>
        cases fault <;> simp [HasIndexFault, isMinus, isRun_minus, digitsRun]
    · have notMinus := not_exists.mp isMinus
      rw [readIndex_of_neither notMinus run]
      cases fault <;> simp [HasIndexFault, run, notMinus]

end Reading

/-! ## First occurrences -/

/-- The entries whose texts no earlier entry has. -/
def firstOccurrences (entries : List (String × String)) : List (String × String) :=
  entries.eraseDupsBy fun later earlier => later.2 == earlier.2

theorem firstOccurrences_cons (entry : String × String) (rest : List (String × String)) :
    firstOccurrences (entry :: rest) =
      entry :: firstOccurrences (rest.filter fun later => later.2 != entry.2) := by
  rw [firstOccurrences, List.eraseDupsBy_cons, firstOccurrences]
  simp only [Bool.decide_eq_false]
  rfl

theorem distinct_eq (seen : List String) (entries : List (String × String)) :
    distinct seen entries =
      firstOccurrences (entries.filter fun entry => !seen.contains entry.2) := by
  induction entries generalizing seen with
  | nil => rfl
  | cons entry rest inductionHypothesis =>
      obtain ⟨raw, expression⟩ := entry
      rw [distinct]
      by_cases wasSeen : seen.contains expression = true
      · rw [if_pos wasSeen, inductionHypothesis,
          List.filter_cons_of_neg (by simpa using wasSeen)]
      · rw [if_neg wasSeen, inductionHypothesis,
          List.filter_cons_of_pos (by simpa using wasSeen), firstOccurrences_cons,
          List.filter_filter]
        congr 3
        funext later
        rw [List.contains_cons, Bool.not_or]
        rfl

theorem distinct_nil (entries : List (String × String)) :
    distinct [] entries = firstOccurrences entries := by
  rw [distinct_eq]
  simp

/-- With the texts that were found so far, the same is found among entries and among texts. -/
theorem map_snd_loop (entries found : List (String × String)) :
    (List.eraseDupsBy.loop (fun later earlier => later.2 == earlier.2) entries found).map
        Prod.snd =
      List.eraseDupsBy.loop (· == ·) (entries.map Prod.snd) (found.map Prod.snd) := by
  induction entries generalizing found with
  | nil => simp [List.eraseDupsBy.loop]
  | cons entry rest inductionHypothesis =>
      simp only [List.eraseDupsBy.loop, List.map_cons, List.any_map, Function.comp_def]
      split
      · exact inductionHypothesis found
      · exact inductionHypothesis (entry :: found)

/-- There is one of them for each text. -/
theorem map_snd_firstOccurrences (entries : List (String × String)) :
    (firstOccurrences entries).map Prod.snd = (entries.map Prod.snd).eraseDups :=
  map_snd_loop entries []

example :
    firstOccurrences [("7", "-age"), ("x", "-age"), ("007", "name")] =
      [("7", "-age"), ("007", "name")] := by
  decide

/-! ## The number of values -/

/-- Every entry that is collected adds one value. -/
theorem length_collectInto
    {slots collected : Slots α} {entries : List (String × String)}
    (done : collectInto parse slots entries = .ok collected) :
    collected.entries.length = slots.entries.length + entries.length := by
  induction entries generalizing slots with
  | nil =>
      cases done
      rfl
  | cons entry rest inductionHypothesis =>
      obtain ⟨index, value, _, vacant, _, restDone⟩ := collectInto_cons_eq_ok_iff.mp done
      have oneMore :
          (slots.insert index value).entries.length = slots.entries.length + 1 :=
        Slots.length_insertEntries (Slots.contains_eq_false_iff.mp vacant)
      rw [inductionHypothesis restDone, oneMore, List.length_cons]
      omega

/-! ## The first fault -/

/-- What is at fault with an entry that comes after others: its text in brackets, an index that
one of the others has, or its text. -/
inductive Offends
    (parse : String → Except ε α) (earlier : List (String × String)) (raw expression : String) :
    Fault ε → Prop
  | badIndex {fault : IndexFault} (isFault : readIndex raw = .error fault) :
      Offends parse earlier raw expression (.badIndex raw expression fault)
  | duplicate {index : Nat} (isIndex : readIndex raw = .ok index)
      (taken : ∃ entry ∈ earlier, readIndex entry.1 = .ok index) :
      Offends parse earlier raw expression (.duplicate index raw expression)
  | entry {index : Nat} {fault : ε} (isIndex : readIndex raw = .ok index)
      (vacant : ∀ entry ∈ earlier, readIndex entry.1 ≠ .ok index)
      (unreadable : parse expression = .error fault) :
      Offends parse earlier raw expression (.entry index expression fault)

theorem collectInto_append
    {slots : Slots α} {first second : List (String × String)} :
    collectInto parse slots (first ++ second) =
      (collectInto parse slots first).bind fun middle => collectInto parse middle second := by
  induction first generalizing slots with
  | nil => rfl
  | cons entry rest inductionHypothesis =>
      obtain ⟨raw, expression⟩ := entry
      rw [List.cons_append, collectInto, collectInto]
      cases readIndex raw with
      | error fault => rfl
      | ok index =>
          simp only
          split
          · rfl
          · cases parse expression with
            | error fault => rfl
            | ok value => exact inductionHypothesis

/-- The indexes that are taken are those of the entries before. -/
theorem contains_eq_true_iff_of_collectInto
    {slots : Slots α} {earlier : List (String × String)}
    (done : collectInto parse .empty earlier = .ok slots) {index : Nat} :
    slots.contains index = true ↔ ∃ entry ∈ earlier, readIndex entry.1 = .ok index := by
  rw [← Bool.not_eq_false, Slots.contains_eq_false_iff, not_not, List.mem_map]
  constructor
  · rintro ⟨slot, member, rfl⟩
    rcases isReadFrom_of_collectInto done member with isEmpty | isRead
    · cases isEmpty
    · obtain ⟨raw, expression, isEntry, isIndex, _⟩ := isRead
      exact ⟨(raw, expression), isEntry, isIndex⟩
  · rintro ⟨entry, member, isIndex⟩
    obtain ⟨other, value, isOther, isValue⟩ := exists_read_of_collectInto done member
    rw [isIndex] at isOther
    cases isOther
    have isRead : IsReadFrom parse earlier (index, value) :=
      ⟨entry.1, entry.2, member, isIndex, isValue⟩
    exact ⟨(index, value), (mem_collectInto_iff done).mpr (.inr isRead), rfl⟩

/-- After entries that were collected, an entry fails with what is at fault with it. -/
theorem collectInto_singleton_eq_error_iff
    {slots : Slots α} {earlier : List (String × String)}
    (done : collectInto parse .empty earlier = .ok slots) {raw expression : String}
    {fault : Fault ε} :
    collectInto parse slots [(raw, expression)] = .error fault ↔
      Offends parse earlier raw expression fault := by
  have contains_iff := @contains_eq_true_iff_of_collectInto ε α parse slots earlier done
  constructor
  · intro failed
    rw [collectInto] at failed
    cases isIndex : readIndex raw with
    | error indexFault =>
        rw [isIndex] at failed
        cases failed
        exact .badIndex isIndex
    | ok index =>
        rw [isIndex] at failed
        simp only at failed
        split at failed
        · rename_i taken
          cases failed
          exact .duplicate isIndex (contains_iff.mp taken)
        · rename_i vacant
          cases isValue : parse expression with
          | error entryFault =>
              rw [isValue] at failed
              cases failed
              refine .entry isIndex ?_ isValue
              intro entry member sameIndex
              exact vacant (contains_iff.mpr ⟨entry, member, sameIndex⟩)
          | ok value =>
              rw [isValue] at failed
              cases failed
  · intro offends
    cases offends with
    | badIndex isFault => rw [collectInto, isFault]
    | duplicate isIndex taken =>
        simp only [collectInto, isIndex, contains_iff.mpr taken, if_true]
    | @entry index entryFault isIndex vacant unreadable =>
        have notTaken : ¬slots.contains index = true := by
          intro taken
          obtain ⟨entry, member, sameIndex⟩ := contains_iff.mp taken
          exact vacant entry member sameIndex
        simp only [collectInto, isIndex, if_neg notTaken, unreadable]

/-- Collecting fails with the fault of the first entry that is at fault. -/
theorem collectInto_eq_error_iff
    {entries : List (String × String)} {fault : Fault ε} :
    collectInto parse .empty entries = .error fault ↔
      ∃ before raw expression after,
        entries = before ++ (raw, expression) :: after ∧
          AreReadable parse before ∧
          Offends parse before raw expression fault := by
  constructor
  · -- The last entry fails, or one before it.
    induction entries using List.reverseRecOn with
    | nil =>
        intro failed
        cases failed
    | append_singleton earlier last inductionHypothesis =>
        intro failed
        rw [collectInto_append, Outcome.bind_eq_error_iff] at failed
        rcases failed with earlierFailed | ⟨slots, done, lastFailed⟩
        · obtain ⟨before, raw, expression, after, rfl, readable, offends⟩ :=
            inductionHypothesis earlierFailed
          exact ⟨before, raw, expression, after ++ [last], by simp, readable, offends⟩
        · have readable := (exists_collectInto_eq_ok_iff.mp ⟨slots, done⟩).1
          exact
            ⟨earlier, last.1, last.2, [], rfl, readable,
              (collectInto_singleton_eq_error_iff done).mp lastFailed⟩
  · rintro ⟨before, raw, expression, after, rfl, readable, offends⟩
    obtain ⟨slots, done⟩ :
        ∃ slots, collectInto parse .empty before = .ok slots :=
      exists_collectInto_eq_ok_iff.mpr ⟨readable, fun _ _ _ _ => rfl⟩
    have failed := (collectInto_singleton_eq_error_iff done).mpr offends
    have split : (raw, expression) :: after = [(raw, expression)] ++ after := rfl
    rw [collectInto_append, done, split]
    change collectInto parse slots ([(raw, expression)] ++ after) = .error fault
    rw [collectInto_append, failed]
    rfl

/-! ## Collecting a list parameter -/

/-- Collecting gives exactly what the first entry with each text stands for. -/
structure IsExact
    (parse : String → Except ε α) (entries : OrderedMap String String) : Prop where
  success :
    (∃ collected, collect parse entries = .ok collected) ↔
      AreReadable parse (firstOccurrences entries.entries)
  members :
    ∀ collected, collect parse entries = .ok collected →
      ∀ index value,
        (index, value) ∈ collected.entries ↔
          ∃ entry ∈ firstOccurrences entries.entries,
            readIndex entry.1 = .ok index ∧ parse entry.2 = .ok value
  order :
    ∀ collected, collect parse entries = .ok collected →
      collected.indexes.Pairwise (· < ·)
  number :
    ∀ collected, collect parse entries = .ok collected →
      collected.indexes.length = entries.values.eraseDups.length
  failure :
    ∀ fault,
      collect parse entries = .error fault ↔
        ∃ before raw expression after,
          firstOccurrences entries.entries = before ++ (raw, expression) :: after ∧
            AreReadable parse before ∧
            Offends parse before raw expression fault

theorem isExact
    (parse : String → Except ε α) (entries : OrderedMap String String) :
    IsExact parse entries where
  success := by
    rw [exists_collect_eq_ok_iff, distinct_nil]
  members := by
    intro collected done index value
    rw [mem_collect_iff done, distinct_nil]
    constructor
    · rintro ⟨raw, expression, member, isIndex, isValue⟩
      exact ⟨(raw, expression), member, isIndex, isValue⟩
    · rintro ⟨entry, member, isIndex, isValue⟩
      exact ⟨entry.1, entry.2, member, isIndex, isValue⟩
  order := by
    intro collected _
    exact collected.ascending
  number := by
    intro collected done
    have count := length_collectInto done
    rw [distinct_nil] at count
    rw [OrderedMap.values, ← map_snd_firstOccurrences, List.length_map, Slots.indexes,
      List.length_map, count]
    exact Nat.zero_add _
  failure := by
    intro fault
    rw [collect, distinct_nil, collectInto_eq_error_iff]

/-- Filters and sorts are collected exactly: a text in brackets is an index if it is a run of
digits for a number below `2 ^ 64`, the first entry with each text is collected under its index,
and otherwise the fault is that of the first of them that is at fault. -/
theorem entries_collected_exactly (entries : OrderedMap String String) :
    (∀ raw index, readIndex raw = .ok index ↔ Denotes raw index) ∧
      (∀ raw fault, readIndex raw = .error fault ↔ HasIndexFault raw fault) ∧
      IsExact Filter.parse entries ∧ IsExact SortClause.parse entries := by
  refine ⟨?_, ?_, isExact _ _, isExact _ _⟩
  · intro raw index
    exact readIndex_eq_ok_iff
  · intro raw fault
    exact readIndex_eq_error_iff

end FilterQuery.Entries
