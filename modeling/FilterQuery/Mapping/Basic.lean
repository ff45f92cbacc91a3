import FilterQuery.Mapping.Rule

/-!
# Mappings

A mapping relates the keys that clients use to columns, and holds what clients
are allowed to ask for.

* A `Declaration` collects relations, rules and patterns in any order;
* `Declaration.build` checks them and gives a `Mapping`: patterns first, then
  relations, filters, sorts and expressions, each in the order of declaration.
-/

namespace FilterQuery

/-- What clients may ask for, and the columns of their keys. -/
structure Mapping where
  relations : OrderedMap String String
  rules : List Rule
  sorts : List String
  expressions : List ExpressionRule
  validator : Validator

namespace Mapping

def column? (mapping : Mapping) (key : String) : Option String :=
  mapping.relations.get? key

def firstRule? (mapping : Mapping) (filter : Filter) : Option Rule :=
  mapping.rules.find? (·.governs filter)

def allowsSort (mapping : Mapping) (key : String) : Bool :=
  mapping.sorts.contains key

end Mapping

/-- Declarations for a mapping, which are not checked yet. -/
structure Declaration where
  relations : OrderedMap String String := .empty
  rules : List Rule := []
  sorts : List String := []
  expressions : List String := []
  keyPattern : Option String := none
  columnPattern : Option String := none
  validator : Option Validator := none

namespace Declaration

/-- The pattern of keys, unless another one is declared. -/
def defaultKeyPattern : String := "^[a-z][0-9a-z]*([_\\.][0-9a-z]+)*$"

/-- The pattern of columns, unless another one is declared. -/
def defaultColumnPattern : String := "^[a-z][0-9a-z]*([_\\.]+[0-9a-z]+)*$"

/-! ## Declaring -/

def relate (declaration : Declaration) (key column : String) : Declaration :=
  { declaration with relations := declaration.relations.insert key column }

def allowFilter (declaration : Declaration) (rule : Rule) : Declaration :=
  { declaration with rules := declaration.rules ++ [rule] }

def allowSort (declaration : Declaration) (key : String) : Declaration :=
  { declaration with sorts := declaration.sorts ++ [key] }

def allowExpression (declaration : Declaration) (text : String) :
    Declaration :=
  { declaration with expressions := declaration.expressions ++ [text] }

def withKeyPattern (declaration : Declaration) (pattern : String) :
    Declaration :=
  { declaration with keyPattern := some pattern }

def withColumnPattern (declaration : Declaration) (pattern : String) :
    Declaration :=
  { declaration with columnPattern := some pattern }

/-- Replace what checks the constraints. -/
def withValidator (declaration : Declaration) (validator : Validator) :
    Declaration :=
  { declaration with validator := some validator }

/-! ## Building -/

/-- What a pattern or a missing relation is about. -/
inductive Role where
  | key
  | column
  | filter
  | sort
  deriving DecidableEq, Repr

def Role.name : Role → String
  | .key => "key"
  | .column => "column"
  | .filter => "filter"
  | .sort => "sort"

/-- Why declarations give no mapping. -/
inductive Fault where
  | badPattern (role : Role) (text : String) (fault : Pattern.Fault)
  | invalidKey (key required : String)
  | invalidColumn (column key required : String)
  | missingRelation (role : Role) (key : String)
  | badRule (rule : Rule) (fault : Rule.Fault)
  | badExpression (text : String) (fault : Expression.Fault)

def Fault.failure : Fault → Failure
  | .badPattern role text fault =>
      { Failure.configuration ("The " ++ role.name ++ " pattern '" ++ text ++
          "' does not compile: " ++ fault.message) with
        source := some fault.message }
  | .invalidKey key required =>
      { code := .invalidKey
        message := "Key \"" ++ key ++ "\" is invalid; it must match " ++
          required }
  | .invalidColumn column key required =>
      { code := .invalidColumn
        message := "Column \"" ++ column ++ "\" for key \"" ++ key ++
          "\" is invalid; it must match " ++ required }
  | .missingRelation role key =>
      { code := .missingRelation
        message := "Cannot allow " ++ role.name ++ " with key \"" ++ key ++
          "\"; no relation exists"
        help := some "Declare the key with relate(key, column) first" }
  | .badRule rule fault => .invalidRule (fault.message rule)
  | .badExpression text fault => ExpressionRule.failure text fault

/-- Read a pattern, without regard to letter case. -/
def compilePattern (role : Role) (text : String) : Except Fault Pattern :=
  (Pattern.compile text { caseInsensitive := true }).mapError
    (.badPattern role text)

def checkRelations (keyPattern columnPattern : Pattern) :
    List (String × String) → Except Fault Unit
  | [] => .ok ()
  | (key, column) :: rest =>
      if !keyPattern.isMatch key then
        .error (.invalidKey key keyPattern.text)
      else if !columnPattern.isMatch column then
        .error (.invalidColumn column key columnPattern.text)
      else checkRelations keyPattern columnPattern rest

/-- Check that the rules are consistent and their keys related. -/
def checkRules (relations : OrderedMap String String) :
    List Rule → Except Fault Unit
  | [] => .ok ()
  | rule :: rest =>
      if !relations.contains rule.key then
        .error (.missingRelation .filter rule.key)
      else
        match rule.fault? with
        | some fault => .error (.badRule rule fault)
        | none => checkRules relations rest

/-- Check that the keys to sort by are related. -/
def checkSorts (relations : OrderedMap String String) :
    List String → Except Fault Unit
  | [] => .ok ()
  | key :: rest =>
      if relations.contains key then checkSorts relations rest
      else .error (.missingRelation .sort key)

def readExpressions : List String → Except Fault (List ExpressionRule)
  | [] => .ok []
  | text :: rest =>
      match ExpressionRule.parse text with
      | .error fault => .error (.badExpression text fault)
      | .ok rule => (readExpressions rest).map (rule :: ·)

/-- Check the declarations, and put the mapping together. -/
def build (declaration : Declaration) : Except Fault Mapping := do
  let keyPattern ←
    compilePattern .key (declaration.keyPattern.getD defaultKeyPattern)
  let columnPattern ←
    compilePattern .column
      (declaration.columnPattern.getD defaultColumnPattern)
  checkRelations keyPattern columnPattern declaration.relations.entries
  checkRules declaration.relations declaration.rules
  checkSorts declaration.relations declaration.sorts
  let expressions ← readExpressions declaration.expressions
  return {
    relations := declaration.relations
    rules := declaration.rules
    sorts := declaration.sorts
    expressions
    validator := declaration.validator.getD .standard }

end Declaration

end FilterQuery
