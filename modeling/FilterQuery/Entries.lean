import FilterQuery.Collection.OrderedMap
import FilterQuery.Collection.Slots
import FilterQuery.Failure
import FilterQuery.Text.Digits

/-!
# Indexed entries

Filters and sorts are submitted as lists of entries, each under an index in
brackets: `filter[3]=...`.  Filters and sorts are collected in the same way.

* An entry whose text repeats an earlier one is dropped;
* an index is a run of ASCII digits that denotes a number below `2 ^ 64`;
* two entries cannot have the same index, however it is written;
* the entries end up in ascending order of their indexes.

`Entries.collect` stops at the first entry that is at fault.
-/

namespace FilterQuery.Entries

open FilterQuery.Text

/-- A list parameter whose entries are collected. -/
inductive Parameter where
  | filter
  | sort
  deriving DecidableEq, Repr

def Parameter.name : Parameter → String
  | .filter => "filter"
  | .sort => "sort"

/-- The code of malformed entries of a list parameter. -/
def Parameter.code : Parameter → Code
  | .filter => .malformedFilter
  | .sort => .malformedSort

/-- Why the text in brackets is no index. -/
inductive IndexFault where
  | notInteger
  | negative
  | tooLarge
  deriving DecidableEq, Repr

/-- Read the text in brackets. -/
def readIndex (raw : String) : Except IndexFault Nat :=
  match raw.toList with
  | '-' :: digits =>
      .error (if Digits.isRun digits then .negative else .notInteger)
  | digits =>
      match Digits.read? digits with
      | none => .error .notInteger
      | some index =>
          if index < Digits.wordBound then .ok index else .error .tooLarge

/-- Why entries cannot be collected; the first two name the text in brackets and
the entry's text. -/
inductive Fault (ε : Type) where
  | badIndex (raw expression : String) (fault : IndexFault)
  | duplicate (index : Nat) (raw expression : String)
  | entry (index : Nat) (expression : String) (fault : ε)
  deriving DecidableEq, Repr

/-- The entry of a list parameter as it was submitted. -/
def shown (parameter : Parameter) (raw expression : String) : String :=
  "'" ++ parameter.name ++ "[" ++ raw ++ "]=" ++ expression ++ "'"

/-- What is wrong with the text in brackets, in words. -/
def IndexFault.message
    (parameter : Parameter) (raw expression : String) : IndexFault → String
  | .notInteger =>
      "Index in " ++ shown parameter raw expression ++
        " must be an integer. Found: " ++ raw
  | .negative =>
      "Index in " ++ shown parameter raw expression ++
        " is negative; all indexes must be >= 0"
  | .tooLarge =>
      "Index in " ++ shown parameter raw expression ++ " is too large"

/-- The failure that a fault amounts to, given that of a single entry. -/
def Fault.failure {ε : Type}
    (parameter : Parameter) (entryFailure : Nat → String → ε → Failure) :
    Fault ε → Failure
  | .badIndex raw expression fault =>
      { code := parameter.code
        message := fault.message parameter raw expression
        parameter := some parameter.name
        expression := some expression }
  | .duplicate index raw expression =>
      { code := parameter.code
        message := "Index in " ++ shown parameter raw expression ++
          " duplicates index " ++ toString index ++ " of an earlier entry"
        parameter := some parameter.name
        index := some index
        expression := some expression }
  | .entry index expression fault => entryFailure index expression fault

/-- The entries whose text repeats neither an earlier one nor one of the texts
given. -/
def distinct (seen : List String) :
    List (String × String) → List (String × String)
  | [] => []
  | (raw, expression) :: rest =>
      if seen.contains expression then distinct seen rest
      else (raw, expression) :: distinct (expression :: seen) rest

/-- Put entries into the slots of their indexes, one after the other. -/
def collectInto {ε α : Type}
    (parse : String → Except ε α) (slots : Slots α) :
    List (String × String) → Except (Fault ε) (Slots α)
  | [] => .ok slots
  | (raw, expression) :: rest =>
      match readIndex raw with
      | .error fault => .error (.badIndex raw expression fault)
      | .ok index =>
          if slots.contains index then
            .error (.duplicate index raw expression)
          else
            match parse expression with
            | .error fault => .error (.entry index expression fault)
            | .ok value =>
                collectInto parse (slots.insert index value) rest

/-- Collect the entries of a list parameter. -/
def collect {ε α : Type}
    (parse : String → Except ε α) (entries : OrderedMap String String) :
    Except (Fault ε) (Slots α) :=
  collectInto parse .empty (distinct [] entries.entries)

end FilterQuery.Entries
