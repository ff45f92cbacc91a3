import FilterQuery.Query.Input
import Mathlib.Data.List.Induction

/-!
# What becomes of submitted pairs

A pair with a name in brackets enters its text under a key of a list parameter.  Later
pairs can write another text under the same key, and a single text replaces the whole
list.

* `Enters` says under which key a pair is entered; without a text in brackets this
  depends on the keys that are there;
* `Spares` says that a pair leaves an entry as it is;
* `holds_ofPairs_iff`: a list parameter holds exactly the texts that were entered and
  then spared by all later pairs.
-/

namespace FilterQuery.QueryInput

variable {input : QueryInput} {parameter key text : String}

/-- The parameter is a list, with the text under the key. -/
def Holds (input : QueryInput) (parameter key text : String) : Prop :=
  ∃ entries,
    input.get? parameter = some (.list entries) ∧ entries.get? key = some text

/-- The key of a new entry of a list parameter: the text in brackets, or the next free
number when there is none. -/
def entryKey (input : QueryInput) (parameter bracketed : String) : String :=
  if bracketed.isEmpty then toString (nextKey (input.entriesOf parameter).keys)
  else bracketed

/-- The pair is an entry of the list parameter under the key. -/
def Enters
    (input : QueryInput) (parameter key : String) (pair : String × String) :
    Prop :=
  ∃ bracketed,
    splitBrackets? pair.1 = some (parameter, bracketed) ∧
      input.entryKey parameter bracketed = key

/-- The pair leaves an entry of the list parameter as it is: it does not make the
parameter a single text, and it enters no other text under the key. -/
def Spares
    (input : QueryInput) (parameter key text : String)
    (pair : String × String) : Prop :=
  (splitBrackets? pair.1 = none → pair.1 ≠ parameter) ∧
    (input.Enters parameter key pair → pair.2 = text)

/-- Pairs that are added one after the other all leave the entry as it is. -/
def AllSpare (parameter key text : String) :
    QueryInput → List (String × String) → Prop
  | _, [] => True
  | input, pair :: rest =>
      input.Spares parameter key text pair ∧
        AllSpare parameter key text (input.insertPair pair.1 pair.2) rest

/-- One of the pairs enters the text under the key of the list parameter, and all
later ones leave it there. -/
def IsKept
    (parameter key text : String) (pairs : List (String × String)) : Prop :=
  ∃ before pair after,
    pairs = before ++ pair :: after ∧
      (ofPairs before).Enters parameter key pair ∧
      pair.2 = text ∧
      AllSpare parameter key text (ofPairs (before ++ [pair])) after

/-- The parameter is a list that has the text under the key, and under no key before. -/
def StandsFirst (input : QueryInput) (parameter key text : String) : Prop :=
  ∃ entries before after,
    input.get? parameter = some (.list entries) ∧
      entries.entries = before ++ (key, text) :: after ∧
      text ∉ before.map Prod.snd

/-! ## One pair -/

theorem insertPair_of_split
    {name base bracketed text : String}
    (split : splitBrackets? name = some (base, bracketed)) :
    input.insertPair name text =
      input.insertItem base (input.entryKey base bracketed) text := by
  simp only [insertPair, split, entryKey, push]
  split <;> rfl

theorem holds_insertScalar_iff {name single : String} :
    (input.insertScalar name single).Holds parameter key text ↔
      name ≠ parameter ∧ input.Holds parameter key text := by
  simp only [Holds, get?, insertScalar, OrderedMap.get?_insert]
  by_cases same : name = parameter
  · simp [same]
  · simp [same]

theorem holds_insertItem_iff {base entered added : String} :
    (input.insertItem base entered added).Holds parameter key text ↔
      if base = parameter ∧ entered = key then added = text
      else input.Holds parameter key text := by
  by_cases sameBase : base = parameter
  · subst sameBase
    have inserted :
        (input.insertItem base entered added).Holds base key text ↔
          ((input.entriesOf base).insert entered added).get? key =
            some text := by
      simp only [Holds, get?, insertItem, OrderedMap.get?_insert, if_true,
        Option.some.injEq, ParameterValue.list.injEq, exists_eq_left']
    have present :
        (input.entriesOf base).get? key = some text ↔
          input.Holds base key text := by
      have noEntry :
          OrderedMap.empty.get? key ≠ some text := nofun
      unfold entriesOf Holds
      cases found : input.get? base with
      | none => simp [noEntry]
      | some value =>
          cases value with
          | scalar single => simp [noEntry]
          | list entries => simp
    rw [inserted, OrderedMap.get?_insert]
    by_cases sameKey : entered = key
    · simp [sameKey]
    · simp [sameKey, present]
  · simp only [Holds, get?, insertItem, OrderedMap.get?_insert, sameBase,
      if_false, false_and]

/-- After a pair was added, a list parameter holds what the pair entered, and what it
spared. -/
theorem holds_insertPair_iff {pair : String × String} :
    (input.insertPair pair.1 pair.2).Holds parameter key text ↔
      (input.Enters parameter key pair ∧ pair.2 = text) ∨
        (input.Holds parameter key text ∧
          input.Spares parameter key text pair) := by
  cases split : splitBrackets? pair.1 with
  | none =>
      have notEntered : ¬input.Enters parameter key pair := by
        rintro ⟨bracketed, isSplit, _⟩
        rw [split] at isSplit
        cases isSplit
      simp only [insertPair, split, holds_insertScalar_iff, Spares, notEntered,
        false_and, false_or, false_imp_iff, true_imp_iff, and_true]
      exact And.comm
  | some parts =>
      obtain ⟨base, bracketed⟩ := parts
      have enters_iff :
          input.Enters parameter key pair ↔
            base = parameter ∧ input.entryKey base bracketed = key := by
        constructor
        · rintro ⟨other, isSplit, isKey⟩
          rw [split] at isSplit
          cases isSplit
          exact ⟨rfl, isKey⟩
        · rintro ⟨rfl, isKey⟩
          exact ⟨bracketed, split, isKey⟩
      have spares_iff :
          input.Spares parameter key text pair ↔
            (input.Enters parameter key pair → pair.2 = text) := by
        simp only [Spares, split, reduceCtorEq, false_imp_iff, true_and]
      rw [insertPair_of_split split, holds_insertItem_iff, spares_iff,
        enters_iff]
      split
      · rename_i entered
        constructor
        · intro same
          exact .inl ⟨entered, same⟩
        · rintro (⟨_, same⟩ | ⟨_, spares⟩)
          · exact same
          · exact spares entered
      · rename_i notEntered
        constructor
        · intro holds
          exact .inr ⟨holds, fun entered => absurd entered notEntered⟩
        · rintro (⟨entered, _⟩ | ⟨holds, _⟩)
          · exact absurd entered notEntered
          · exact holds

/-! ## All pairs -/

theorem ofPairs_concat (pairs : List (String × String)) (pair : String × String) :
    ofPairs (pairs ++ [pair]) = (ofPairs pairs).insertPair pair.1 pair.2 := by
  simp only [ofPairs, List.foldl_append, List.foldl_cons, List.foldl_nil]

theorem not_holds_ofPairs_nil : ¬(ofPairs []).Holds parameter key text := by
  rintro ⟨entries, isList, _⟩
  cases isList

/-- What a pair enters is still held after pairs that all spare it. -/
theorem holds_ofPairs_append
    {before after : List (String × String)}
    (holds : (ofPairs before).Holds parameter key text)
    (spares : AllSpare parameter key text (ofPairs before) after) :
    (ofPairs (before ++ after)).Holds parameter key text := by
  induction after generalizing before with
  | nil => rwa [List.append_nil]
  | cons pair rest inductionHypothesis =>
      obtain ⟨sparesFirst, sparesRest⟩ := spares
      rw [← ofPairs_concat] at sparesRest
      have holdsNext :
          (ofPairs (before ++ [pair])).Holds parameter key text := by
        rw [ofPairs_concat]
        exact holds_insertPair_iff.mpr (.inr ⟨holds, sparesFirst⟩)
      have whole := inductionHypothesis holdsNext sparesRest
      rwa [List.append_assoc, List.singleton_append] at whole

theorem AllSpare.concat
    {before after : List (String × String)} {pair : String × String}
    (spares : AllSpare parameter key text (ofPairs before) after)
    (sparesLast :
      (ofPairs (before ++ after)).Spares parameter key text pair) :
    AllSpare parameter key text (ofPairs before) (after ++ [pair]) := by
  induction after generalizing before with
  | nil =>
      rw [List.append_nil] at sparesLast
      exact ⟨sparesLast, trivial⟩
  | cons next rest inductionHypothesis =>
      obtain ⟨sparesNext, sparesRest⟩ := spares
      refine ⟨sparesNext, ?_⟩
      rw [← ofPairs_concat] at sparesRest ⊢
      apply inductionHypothesis sparesRest
      rwa [List.append_assoc, List.singleton_append]

/-- A list parameter holds exactly the texts that were entered and then spared by all
later pairs. -/
theorem holds_ofPairs_iff {pairs : List (String × String)} :
    (ofPairs pairs).Holds parameter key text ↔
      IsKept parameter key text pairs := by
  constructor
  · induction pairs using List.reverseRecOn with
    | nil =>
        intro holds
        exact absurd holds not_holds_ofPairs_nil
    | append_singleton pairs pair inductionHypothesis =>
        intro holds
        rw [ofPairs_concat] at holds
        rcases holds_insertPair_iff.mp holds with ⟨enters, same⟩ | ⟨earlier, spares⟩
        · exact ⟨pairs, pair, [], rfl, enters, same, trivial⟩
        · obtain ⟨before, first, after, rfl, enters, same, sparesAfter⟩ :=
            inductionHypothesis earlier
          refine
            ⟨before, first, after ++ [pair], ?_, enters, same,
              sparesAfter.concat ?_⟩
          · rw [List.append_assoc, List.cons_append]
          · rwa [List.append_assoc, List.singleton_append]
  · rintro ⟨before, pair, after, rfl, enters, same, spares⟩
    have entered : (ofPairs (before ++ [pair])).Holds parameter key text := by
      rw [ofPairs_concat]
      exact holds_insertPair_iff.mpr (.inl ⟨enters, same⟩)
    have whole := holds_ofPairs_append entered spares
    rwa [List.append_assoc, List.singleton_append] at whole

end FilterQuery.QueryInput
