import FilterQuery.Collection.OrderedMap
import FilterQuery.Toml.Value

/-!
# Tables under construction

A document names the tables it fills: by a header, by the headers of their parts, or by
dotted keys.  How a table came to be decides who may still add to it.

* A table has one header at most, and none if dotted keys made it;
* dotted keys add to tables that dotted keys made, and pass through those that only
  the headers of their parts have named;
* a header that repeats adds an element to an array of tables, and everything below
  it goes to the last element;
* a value is never changed, not even a table or an array.
-/

namespace FilterQuery.Toml

/-- How a table came to be. -/
inductive Origin where
  /-- By its own header. -/
  | header
  /-- By the header of a part of it. -/
  | implied
  /-- By dotted keys. -/
  | dotted
  deriving DecidableEq, Repr

/-- What a key stands for while the document is read. -/
inductive Item where
  | value (value : Value)
  | table (origin : Origin) (entries : List (String × Item))
  /-- An array of tables, each of which has a header. -/
  | tables (elements : List (List (String × Item)))

/-- The keys of a table, in the order in which they were written. -/
abbrev Entries := List (String × Item)

/-- Change the table at the end of a path, making tables that are missing.  `byKey`
says whether the path comes from a dotted key rather than from a header. -/
def descend
    (byKey : Bool) (update : Origin → Entries → Option Entries) :
    Origin → List String → Entries → Option Entries
  | origin, [], entries => update origin entries
  | _, key :: path, entries =>
      let put (item : Item) : Entries := OrderedMap.insertEntries key item entries
      match OrderedMap.lookup key entries with
      | none =>
          let origin := if byKey then Origin.dotted else Origin.implied
          (descend byKey update origin path []).map fun child =>
            put (.table origin child)
      | some (.value _) => none
      | some (.table origin child) =>
          if byKey && origin = .header then none
          else
            (descend byKey update origin path child).map fun changed =>
              put (.table origin changed)
      | some (.tables elements) =>
          match elements.reverse with
          | [] => none
          | last :: others =>
              (descend byKey update .header path last).map fun changed =>
                put (.tables (others.reverse ++ [changed]))

/-- Add a value under a dotted key; `path` is what stands before the last dot. -/
def insertPair
    (path : List String) (key : String) (value : Value)
    (origin : Origin) (entries : Entries) : Option Entries :=
  descend true
    (fun origin entries =>
      if !path.isEmpty && origin ≠ .dotted then none
      else if (OrderedMap.lookup key entries).isSome then none
      else some (entries ++ [(key, .value value)]))
    origin path entries

/-- Give a table its header. -/
def openTable (path : List String) (key : String) (root : Entries) :
    Option Entries :=
  descend false
    (fun _ entries =>
      match OrderedMap.lookup key entries with
      | none => some (entries ++ [(key, .table .header [])])
      | some (.table .implied child) =>
          some (entries.filter (·.1 != key) ++ [(key, .table .header child)])
      | some _ => none)
    .header path root

/-- Add an element to an array of tables. -/
def openElement (path : List String) (key : String) (root : Entries) :
    Option Entries :=
  descend false
    (fun _ entries =>
      match OrderedMap.lookup key entries with
      | none => some (entries ++ [(key, .tables [[]])])
      | some (.tables elements) =>
          some
            (OrderedMap.insertEntries key (.tables (elements ++ [[]])) entries)
      | some _ => none)
    .header path root

/-- Add a value below a header. -/
def insertBelow
    (header path : List String) (key : String) (value : Value)
    (root : Entries) : Option Entries :=
  descend false (insertPair path key value) .header header root

mutual

def Item.toValue : Item → Value
  | .value value => value
  | .table _ entries => .table (entriesToValues entries)
  | .tables elements => .array (elementsToValues elements)

/-- The finished values of a table. -/
def entriesToValues : List (String × Item) → List (String × Value)
  | [] => []
  | (key, item) :: rest => (key, item.toValue) :: entriesToValues rest

/-- The finished elements of an array of tables. -/
def elementsToValues : List (List (String × Item)) → List Value
  | [] => []
  | entries :: rest => .table (entriesToValues entries) :: elementsToValues rest

end

end FilterQuery.Toml
