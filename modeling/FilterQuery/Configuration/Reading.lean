import FilterQuery.Configuration.Basic
import FilterQuery.Configuration.Variables
import FilterQuery.Toml.Document

/-!
# Reading configurations

Variables are replaced in the text of a configuration, which is then read as a TOML
document and decoded.

* Every key must be known; only a constraint without parameters may have others;
* a record can also be an array that holds the values of its keys in order;
* the name of a kind or an operator can also be a table with this name for its only
  key, and nothing in it;
* a constraint names its kind under `type`, and functions cannot be named;
* a moment where a table is expected counts as a table with one key of its own.
-/

namespace FilterQuery.Configuration

open FilterQuery.Text

/-! ## Parts of values -/

/-- The text of a text. -/
def string? : Toml.Value → Option String
  | .string text => some text
  | _ => none

/-- The truth value of a truth value. -/
def boolean? : Toml.Value → Option Bool
  | .boolean value => some value
  | _ => none

/-- A count, which is not negative. -/
def count? : Toml.Value → Option Nat
  | .integer value => if 0 ≤ value then some value.toInt.toNat else none
  | _ => none

/-- A number, whole or not. -/
def number? : Toml.Value → Option Float
  | .integer value => some (nearestFloat value)
  | .float value => some value
  | _ => none

/-- The items of an array, decoded. -/
def list? {α : Type} (decode? : Toml.Value → Option α) :
    Toml.Value → Option (List α)
  | .array items => items.mapM decode?
  | _ => none

/-- The key that stands for the content of a moment. -/
def momentKey : String := "$__toml_private_datetime"

/-- The keys of a table, with their values. -/
def entries? : Toml.Value → Option (List (String × Toml.Value))
  | .table entries => some entries
  | .moment text => some [(momentKey, .string text)]
  | _ => none

/-- The keys of a table, each one decoded together with its value. -/
def map? {κ α : Type} [DecidableEq κ]
    (key? : String → Option κ) (decode? : Toml.Value → Option α)
    (value : Toml.Value) : Option (OrderedMap κ α) := do
  let entries ← entries? value
  let pairs ← entries.mapM fun (name, content) => do
    return (← key? name, ← decode? content)
  return .ofList pairs

/-- A name: a text, or the only key of a table, with nothing in it. -/
def name? : Toml.Value → Option String
  | .string text => some text
  | .table [(name, .array [])] => some name
  | .table [(name, .table [])] => some name
  | _ => none

/-- The keys of a record, all of them known. -/
def known? (names : List String) (entries : List (String × Toml.Value)) :
    Option (List (String × Toml.Value)) :=
  if entries.all fun entry => names.contains entry.1 then some entries else none

/-- A record, as a table or as an array of the values of its keys. -/
def record? (names : List String) : Toml.Value →
    Option (List (String × Toml.Value))
  | .table entries => known? names entries
  | .array items => some (names.zip items)
  | _ => none

/-- The value of a key that must be present. -/
def required? {α : Type}
    (entries : List (String × Toml.Value)) (name : String)
    (decode? : Toml.Value → Option α) : Option α :=
  (OrderedMap.lookup name entries).bind decode?

/-- The value of a key that may be absent. -/
def optional? {α : Type}
    (entries : List (String × Toml.Value)) (name : String)
    (decode? : Toml.Value → Option α) : Option (Option α) :=
  match OrderedMap.lookup name entries with
  | none => some none
  | some value => (decode? value).map some

/-! ## Constraints -/

mutual

def limit? : Toml.Value → Option Value
  | .boolean value => some (.boolean value)
  | .integer value => some (.integer value)
  | .float value => some (.float value)
  | .string text => some (.string text)
  | .array items => (limits? items).map .list
  | .moment _ | .table _ => none

/-- The items of a list to compare with. -/
def limits? : List Toml.Value → Option (List Value)
  | [] => some []
  | item :: rest => do return (← limit? item) :: (← limits? rest)

end

def plainConstraint? (name : String) : Option Constraint :=
  let named : List Constraint :=
    [.notBlank, .blank, .isTrue, .isFalse, .isNull] ++
      TextFormat.all.map .textFormat
  named.find? (·.name == name)

/-- The parameters of a constraint, and the constraint with given ones. -/
def parameters? (name : String) :
    Option (List String × (List (String × Toml.Value) → Option Constraint)) :=
  let bounded {α : Type} (decode? : Toml.Value → Option α)
      (make : Option α → Option α → Constraint)
      (entries : List (String × Toml.Value)) : Option Constraint := do
    return make (← optional? entries "min" decode?)
      (← optional? entries "max" decode?)
  if name = "length" then some (["min", "max"], bounded count? .length)
  else if name = "count" then some (["min", "max"], bounded count? .count)
  else if name = "range" then some (["min", "max"], bounded number? .range)
  else if name = "regex" then
    some
      (["pattern", "matches"], fun entries => do
        let pattern ← required? entries "pattern" string?
        let matching ← optional? entries "matches" boolean?
        return .regex pattern (matching.getD true))
  else
    (Relation.ofName? name).map fun relation =>
      (["value"], fun entries =>
        (required? entries "value" limit?).map (.comparison relation))

/-- The constraint of a kind whose parameters are in a table. -/
def constraintOfTable?
    (name : String) (entries : List (String × Toml.Value)) :
    Option Constraint :=
  (plainConstraint? name).or
    ((parameters? name).bind fun (names, make) =>
      (known? names entries).bind make)

/-- The constraint of a kind whose parameters are in an array. -/
def constraintOfArray? (name : String) (items : List Toml.Value) :
    Option Constraint :=
  match plainConstraint? name with
  | some constraint => if items.isEmpty then some constraint else none
  | none =>
      (parameters? name).bind fun (names, make) =>
        if items.length ≤ names.length then make (names.zip items) else none

def constraint? : Toml.Value → Option Constraint
  | .table entries => do
      let name ← required? entries "type" string?
      constraintOfTable? name (entries.filter (·.1 != "type"))
  | .array (.string name :: items) => constraintOfArray? name items
  | _ => none

/-! ## Rules and the whole -/

def ruleKeys : List String :=
  ["key", "type", "operators", "constraints", "element_constraints"]

def rule? (value : Toml.Value) : Option Rule := do
  let entries ← record? ruleKeys value
  let key ← required? entries "key" string?
  let filterType ←
    required? entries "type" fun shown => (name? shown).bind FilterType.ofName?
  let operators ← optional? entries "operators"
    (list? fun shown => (name? shown).bind Operator.ofSymbol?)
  let constraints ← optional? entries "constraints" (list? constraint?)
  let elementConstraints ← optional? entries "element_constraints"
    (map? ElementType.ofName? (list? constraint?))
  return {
    key
    filterType
    operators
    constraints := constraints.getD []
    elementConstraints := elementConstraints.getD .empty }

def configurationKeys : List String :=
  ["key_pattern", "column_pattern", "relations", "filters", "sorts",
    "filter_expressions"]

def configuration? (value : Toml.Value) : Option Configuration := do
  let entries ← record? configurationKeys value
  let keyPattern ← optional? entries "key_pattern" string?
  let columnPattern ← optional? entries "column_pattern" string?
  let relations ← optional? entries "relations" (map? some string?)
  let rules ← optional? entries "filters" (list? rule?)
  let sorts ← optional? entries "sorts" (list? string?)
  let expressions ← optional? entries "filter_expressions" (list? string?)
  return {
    keyPattern
    columnPattern
    relations := relations.getD .empty
    rules := rules.getD []
    sorts := sorts.getD []
    expressions := expressions.getD [] }

/-- Read a configuration, given the values of variables. -/
def parse (value? : String → Option String) (text : String) :
    Except Fault Configuration :=
  match (Toml.parse (expandVariables value? text)).bind configuration? with
  | none => .error .malformed
  | some configuration => .ok configuration

/-- Why a file that does not exist cannot be read. -/
def noSuchFile : String := "No such file or directory (os error 2)"

/-- Read a configuration from the content of a file, if the file exists. -/
def ofFile
    (value? : String → Option String) (path : String)
    (content : Option String) : Except Fault Configuration :=
  match content with
  | none => .error (.unreadable path noSuchFile)
  | some text => parse value? text

end FilterQuery.Configuration
