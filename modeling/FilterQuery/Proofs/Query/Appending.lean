import FilterQuery.Proofs.Collection.OrderedMap
import FilterQuery.Proofs.Query.Accumulation
import FilterQuery.Proofs.Text.Digits
import Mathlib.Algebra.Group.Nat.Defs

/-!
# Appending to a list parameter

An entry without a key is put under the number after the greatest one among the keys, which is
computed with 64 bits.

* `IsNumber` says which keys denote numbers, whatever their size;
* `push_appends_iff`: the new entry comes last, under a number above all others, exactly when no
  key reaches the last number of 64 bits.  The last number itself has no successor, and greater
  ones are not looked at.
-/

namespace FilterQuery.QueryInput

open FilterQuery.Text

variable {keys : List String}

/-! ## Numbers among the keys -/

/-- The digits of a key; a plus sign may precede them. -/
def digitsOf (key : String) : List Char :=
  match key.toList with
  | '+' :: digits => digits
  | digits => digits

/-- The key is a run of ASCII digits for the number, of whatever size. -/
def IsNumber (key : String) (number : Nat) : Prop :=
  Digits.isRun (digitsOf key) = true ∧ Digits.value (digitsOf key) = number

theorem keyNumber?_eq_some_iff {key : String} {number : Nat} :
    keyNumber? key = some number ↔ IsNumber key number ∧ number < 2 ^ 64 := by
  have isReading :
      keyNumber? key = Digits.readBelow? Digits.wordBound (digitsOf key) := by
    unfold keyNumber? digitsOf
    split <;> simp_all
  have bound : Digits.wordBound = 2 ^ 64 := rfl
  rw [isReading, Digits.readBelow?, Digits.read?, IsNumber, bound]
  by_cases run : Digits.isRun (digitsOf key) = true
  · simp only [run, if_true, Option.filter_eq_some_iff, Option.some.injEq, decide_eq_true_eq,
      true_and]
  · simp [run]

/-- The decimal text of a number denotes it. -/
theorem isNumber_toString (number : Nat) : IsNumber (toString number) number := by
  have noPlus : digitsOf (toString number) = (toString number).toList := by
    unfold digitsOf
    split
    · rename_i digits isPlus
      have isMember : '+' ∈ (toString number).toList := by
        rw [isPlus]
        exact List.mem_cons_self
      cases Digits.isDigit_of_mem_toString isMember
    · rfl
  rw [IsNumber, noPlus, Digits.isRun, Bool.and_eq_true, Bool.not_eq_true',
    List.isEmpty_eq_false_iff, List.all_eq_true, Digits.toList_toString]
  refine ⟨⟨Nat.toDigits_ne_nil, ?_⟩, Digits.value_toDigits number⟩
  intro digit member
  exact Nat.isDigit_of_mem_toDigits (by decide) (by decide) member

/-! ## The next key -/

theorem nextKey_lt (keys : List String) : nextKey keys < 2 ^ 64 := by
  have bound : Digits.wordBound = 2 ^ 64 := rfl
  unfold nextKey
  split
  · decide
  · rw [bound]
    exact Nat.mod_lt _ (by decide)

/-- Unless a key denotes the last number of 64 bits, the next key is above all numbers. -/
theorem lt_nextKey
    (notLast : ∀ key ∈ keys, ¬IsNumber key (2 ^ 64 - 1)) {key : String} (member : key ∈ keys)
    {number : Nat} (isNumber : IsNumber key number) (below : number < 2 ^ 64) :
    number < nextKey keys := by
  have isKeyNumber : number ∈ keys.filterMap keyNumber? :=
    List.mem_filterMap.mpr ⟨key, member, keyNumber?_eq_some_iff.mpr ⟨isNumber, below⟩⟩
  unfold nextKey
  cases isGreatest : (keys.filterMap keyNumber?).max? with
  | none =>
      rw [List.max?_eq_none_iff] at isGreatest
      rw [isGreatest] at isKeyNumber
      cases isKeyNumber
  | some greatest =>
      obtain ⟨isMember, isUpperBound⟩ := List.max?_eq_some_iff.mp isGreatest
      have le : number ≤ greatest := isUpperBound number isKeyNumber
      obtain ⟨other, isOther, isOtherNumber⟩ := List.mem_filterMap.mp isMember
      obtain ⟨denotes, greatestBelow⟩ := keyNumber?_eq_some_iff.mp isOtherNumber
      have notMaximal : greatest ≠ 2 ^ 64 - 1 := by
        rintro rfl
        exact notLast other isOther denotes
      have bound : Digits.wordBound = 2 ^ 64 := rfl
      simp only
      rw [bound, Nat.mod_eq_of_lt (by omega)]
      omega

/-- So the next key is no key yet. -/
theorem nextKey_not_mem
    (notLast : ∀ key ∈ keys, ¬IsNumber key (2 ^ 64 - 1)) :
    toString (nextKey keys) ∉ keys := by
  intro member
  exact
    Nat.lt_irrefl _
      (lt_nextKey notLast member (isNumber_toString _) (nextKey_lt keys))

/-! ## Appending -/

variable {input : QueryInput} {name text : String} {entries : OrderedMap String String}

/-- The entries of the list stay as they are and where they are, and one entry is added after
them, under a number that is greater than each of the numbers that count. -/
def Appends
    (input : QueryInput) (name text : String) (entries : OrderedMap String String)
    (counts : Nat → Prop) : Prop :=
  ∃ after next,
    (input.push name text).get? name = some (.list after) ∧
      after.entries = entries.entries ++ [(toString next, text)] ∧
      ∀ key ∈ entries.keys, ∀ number, IsNumber key number → counts number → number < next

theorem get?_push (isList : input.get? name = some (.list entries)) :
    (input.push name text).get? name =
      some (.list (entries.insert (toString (nextKey entries.keys)) text)) := by
  have isEntries : input.entriesOf name = entries := by
    rw [entriesOf, isList]
  rw [push, get?_insertItem_self, isEntries]

theorem appends_of_notLast
    (isList : input.get? name = some (.list entries))
    (notLast : ∀ key ∈ entries.keys, ¬IsNumber key (2 ^ 64 - 1)) :
    Appends input name text entries (· < 2 ^ 64) := by
  refine
    ⟨entries.insert (toString (nextKey entries.keys)) text, nextKey entries.keys,
      get?_push isList, ?_, ?_⟩
  · exact OrderedMap.insertEntries_of_not_mem (nextKey_not_mem notLast)
  · intro key member number isNumber below
    exact lt_nextKey notLast member isNumber below

/-- An entry that is added last has the next key. -/
theorem next_eq_nextKey
    {after : OrderedMap String String} {next : Nat}
    (isList : input.get? name = some (.list entries))
    (pushed : (input.push name text).get? name = some (.list after))
    (isLast : after.entries = entries.entries ++ [(toString next, text)]) :
    next = nextKey entries.keys := by
  rw [get?_push isList] at pushed
  cases pushed
  have keys :
      (entries.insert (toString (nextKey entries.keys)) text).keys =
        entries.keys ++ [toString next] := by
    rw [OrderedMap.keys, isLast, List.map_append]
    rfl
  rw [OrderedMap.keys_insert] at keys
  split at keys
  · have lengths := congrArg List.length keys
    simp at lengths
  · have last := List.append_cancel_left keys
    exact (Digits.toString_injective (List.singleton_inj.mp last)).symm

theorem appends_iff (isList : input.get? name = some (.list entries)) :
    Appends input name text entries (fun _ => True) ↔
      ∀ key ∈ entries.keys, ∀ number, IsNumber key number → number < 2 ^ 64 - 1 := by
  constructor
  · rintro ⟨after, next, pushed, isLast, above⟩ key member number isNumber
    have isNext := next_eq_nextKey isList pushed isLast
    have below := nextKey_lt entries.keys
    have aboveKey := above key member number isNumber trivial
    omega
  · intro allBelow
    have notLast : ∀ key ∈ entries.keys, ¬IsNumber key (2 ^ 64 - 1) := by
      intro key member isNumber
      exact Nat.lt_irrefl _ (allBelow key member _ isNumber)
    obtain ⟨after, next, pushed, isLast, above⟩ := appends_of_notLast isList notLast
    refine ⟨after, next, pushed, isLast, ?_⟩
    intro key member number isNumber _
    have below := allBelow key member number isNumber
    exact above key member number isNumber (by omega)

/-- Pushing a text to a list puts it last, under a number above all numbers among the keys,
exactly when these numbers stay below the last number of 64 bits.  Keys for greater numbers are
passed over, and only the last number itself makes the next one start again from zero. -/
theorem push_appends_iff (isList : input.get? name = some (.list entries)) :
    (Appends input name text entries (fun _ => True) ↔
        ∀ key ∈ entries.keys, ∀ number, IsNumber key number → number < 2 ^ 64 - 1) ∧
      ((∀ key ∈ entries.keys, ¬IsNumber key (2 ^ 64 - 1)) →
        Appends input name text entries (· < 2 ^ 64)) ∧
      ∀ other, other ≠ name → (input.push name text).get? other = input.get? other := by
  refine ⟨appends_iff isList, appends_of_notLast isList, ?_⟩
  intro other different
  exact get?_insertItem_of_ne (Ne.symm different)

/-- A key with a sign, keys that are no numbers, and the last key that has a successor. -/
def chosenPairs : List (String × String) :=
  [("filter[+7]", "a=1"), ("filter[007x]", "b=2"), ("filter[-3]", "c=3"),
    ("filter[18446744073709551614]", "d=4")]

theorem push_appends_iff_chosen :
    ∃ entries,
      (ofPairs chosenPairs).get? "filter" = some (.list entries) ∧
        (∀ key ∈ entries.keys, ∀ number, IsNumber key number → number < 2 ^ 64 - 1) ∧
        Appends (ofPairs chosenPairs) "filter" "e=5" entries (fun _ => True) := by
  obtain ⟨entries, isList, keys⟩ :
      ∃ entries,
        (ofPairs chosenPairs).get? "filter" = some (.list entries) ∧
          entries.keys = ["+7", "007x", "-3", "18446744073709551614"] :=
    ⟨_, rfl, rfl⟩
  have allBelow :
      ∀ key ∈ entries.keys, ∀ number, IsNumber key number → number < 2 ^ 64 - 1 := by
    rw [keys]
    rintro key member number ⟨run, rfl⟩
    revert key
    decide +kernel
  exact ⟨entries, isList, allBelow, (push_appends_iff isList).1.mpr allBelow⟩

/-- A list whose keys include the last number of 64 bits. -/
def fullPairs : List (String × String) :=
  [("filter[0]", "a=1"), ("filter[18446744073709551615]", "b=2")]

/-- A list with a key for a greater number. -/
def overfullPairs : List (String × String) :=
  [("filter[18446744073709551616]", "a=1")]

/-- After the last number the first entry is overwritten, and after a greater one the new key is
not above it. -/
theorem push_overwrites_after_last :
    (∃ entries,
      (ofPairs fullPairs).get? "filter" = some (.list entries) ∧
        (((ofPairs fullPairs).push "filter" "c=3").entriesOf "filter").entries =
          [("0", "c=3"), ("18446744073709551615", "b=2")] ∧
        ¬Appends (ofPairs fullPairs) "filter" "c=3" entries (fun _ => True)) ∧
      ∃ entries,
        (ofPairs overfullPairs).get? "filter" = some (.list entries) ∧
          (((ofPairs overfullPairs).push "filter" "b=2").entriesOf "filter").entries =
            [("18446744073709551616", "a=1"), ("0", "b=2")] ∧
          ¬Appends (ofPairs overfullPairs) "filter" "b=2" entries (fun _ => True) := by
  constructor
  · obtain ⟨entries, isList, keys⟩ :
        ∃ entries,
          (ofPairs fullPairs).get? "filter" = some (.list entries) ∧
            entries.keys = ["0", "18446744073709551615"] :=
      ⟨_, rfl, rfl⟩
    refine ⟨entries, isList, by decide +kernel, ?_⟩
    rw [appends_iff isList, keys]
    intro allBelow
    have below :=
      allBelow "18446744073709551615" (by decide) _ ⟨by decide +kernel, rfl⟩
    revert below
    decide +kernel
  · obtain ⟨entries, isList, keys⟩ :
        ∃ entries,
          (ofPairs overfullPairs).get? "filter" = some (.list entries) ∧
            entries.keys = ["18446744073709551616"] :=
      ⟨_, rfl, rfl⟩
    refine ⟨entries, isList, by decide +kernel, ?_⟩
    rw [appends_iff isList, keys]
    intro allBelow
    have below :=
      allBelow "18446744073709551616" (by decide) _ ⟨by decide +kernel, rfl⟩
    revert below
    decide +kernel

end FilterQuery.QueryInput
