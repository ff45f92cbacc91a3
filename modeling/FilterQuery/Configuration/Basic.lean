import FilterQuery.Mapping.Basic

/-!
# Configurations

A configuration holds the declarations for a mapping as they stand in a file.  It can be
turned into a `Declaration`, to which more may be added before it is built.
-/

namespace FilterQuery

/-- Declarations for a mapping, as they stand in a file. -/
structure Configuration where
  keyPattern : Option String := none
  columnPattern : Option String := none
  relations : OrderedMap String String := .empty
  rules : List Rule := []
  sorts : List String := []
  expressions : List String := []

namespace Configuration

/-- A rule without the datatypes for which it declares no constraint. -/
def settleRule (rule : Rule) : Rule :=
  { rule with
    elementConstraints :=
      .ofList (rule.elementConstraints.entries.filter (!·.2.isEmpty)) }

def toDeclaration (configuration : Configuration) : Declaration where
  relations := configuration.relations
  rules := configuration.rules.map settleRule
  sorts := configuration.sorts
  expressions := configuration.expressions
  keyPattern := configuration.keyPattern
  columnPattern := configuration.columnPattern

/-- Why there is no configuration. -/
inductive Fault where
  /-- The text does not have the form of a configuration. -/
  | malformed
  /-- The file cannot be read. -/
  | unreadable (path reason : String)
  deriving DecidableEq, Repr

def Fault.failure : Fault → Failure
  | .malformed =>
      { code := .unreadableConfiguration
        message := "Invalid mapping configuration" }
  | .unreadable path reason =>
      { code := .unreadableConfiguration
        message := "Failed to read mapping file '" ++ path ++ "': " ++ reason
        source := some reason }

end Configuration

end FilterQuery
