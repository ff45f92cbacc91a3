import FilterQuery.Collection.OrderedMap
import FilterQuery.Query.Form
import FilterQuery.Text.Digits

/-!
# Parameters

Decoded parameters are single texts (`filterExpression=0or1`) or lists with an
entry for each text in brackets (`filter[]=...`, `filter[3]=...`).

* Parameters keep the order in which their names first appeared, and so do the
  entries of a list;
* empty brackets append an entry under the next free number;
* a single text and a list under the same name replace each other, the later
  one standing.
-/

namespace FilterQuery

open FilterQuery.Text

/-- The content of a parameter. -/
inductive ParameterValue where
  | scalar (text : String)
  | list (entries : OrderedMap String String)

/-- The content in words, for messages. -/
def ParameterValue.describe : ParameterValue → String
  | .scalar text => "(string) " ++ text
  | .list entries => "(array) Array(" ++ toString entries.size ++ ")"

/-- Parameters by name, in the order of their first appearance. -/
structure QueryInput where
  parameters : OrderedMap String ParameterValue

namespace QueryInput

def empty : QueryInput := ⟨.empty⟩

def get? (input : QueryInput) (name : String) : Option ParameterValue :=
  input.parameters.get? name

def isEmpty (input : QueryInput) : Bool := input.parameters.isEmpty

/-- Set a parameter to a single text. -/
def insertScalar (input : QueryInput) (name text : String) : QueryInput :=
  ⟨input.parameters.insert name (.scalar text)⟩

/-- The entries of a parameter; one that is no list has none. -/
def entriesOf (input : QueryInput) (name : String) :
    OrderedMap String String :=
  match input.get? name with
  | some (.list entries) => entries
  | _ => .empty

/-- Set an entry of a list parameter. -/
def insertItem (input : QueryInput) (name key text : String) : QueryInput :=
  ⟨input.parameters.insert name
    (.list ((input.entriesOf name).insert key text))⟩

/-- The number below `2 ^ 64` that an entry's key denotes; a plus sign may
precede it. -/
def keyNumber? (key : String) : Option Nat :=
  match key.toList with
  | '+' :: digits => Digits.readBelow? Digits.wordBound digits
  | digits => Digits.readBelow? Digits.wordBound digits

/-- The key after the greatest number among the keys, in arithmetic of 64
bits; without numbers it is zero. -/
def nextKey (keys : List String) : Nat :=
  match (keys.filterMap keyNumber?).max? with
  | none => 0
  | some greatest => (greatest + 1) % Digits.wordBound

/-- Append an entry to a list parameter. -/
def push (input : QueryInput) (name text : String) : QueryInput :=
  input.insertItem name (toString (nextKey (input.entriesOf name).keys)) text

/-- The name before the first bracket, and the text between it and a bracket at
the end. -/
def splitBrackets? (name : String) : Option (String × String) :=
  let characters := name.toList
  let base := characters.takeWhile (· != '[')
  if base.isEmpty then none
  else
    match (characters.dropWhile (· != '[')).drop 1 |>.reverse with
    | ']' :: key => some (String.ofList base, String.ofList key.reverse)
    | _ => none

/-- Add a decoded pair, whose name may end in brackets. -/
def insertPair (input : QueryInput) (name text : String) : QueryInput :=
  match splitBrackets? name with
  | none => input.insertScalar name text
  | some (base, key) =>
      if key.isEmpty then input.push base text
      else input.insertItem base key text

/-- Decoded pairs, added one after the other. -/
def ofPairs (pairs : List (String × String)) : QueryInput :=
  pairs.foldl (fun input pair => input.insertPair pair.1 pair.2) empty

/-- The parameters of a query string, which a question mark may precede. -/
def ofQueryString (query : String) : QueryInput :=
  match query.toList with
  | '?' :: rest => ofPairs (Form.decode rest)
  | characters => ofPairs (Form.decode characters)

/-- The parameters of an address: its query string starts after the first
question mark and ends before the first number sign. -/
def ofUri (uri : String) : QueryInput :=
  let address := uri.toList.takeWhile (· != '#')
  match address.dropWhile (· != '?') with
  | [] => empty
  | _ :: query => ofQueryString (String.ofList query)

end QueryInput

end FilterQuery
