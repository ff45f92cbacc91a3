import FilterQuery.Pattern.Matching
import FilterQuery.Pattern.Reading

/-!
# Patterns

Regular expressions describe keys, columns and values.  `Pattern.compile` reads
one and says what is wrong with it; `Pattern.isMatch` decides whether some
part of a text matches.
-/

namespace FilterQuery

open FilterQuery.Pattern in
/-- A regular expression that was read. -/
structure Pattern where
  text : String
  node : Node
  deriving Repr

namespace Pattern

/-- Read a regular expression. -/
def compile (text : String) (options : Options := {}) :
    Except Fault Pattern :=
  (Node.ofText? options text).map fun node => { text, node }

/-- Whether some part of a text matches. -/
def isMatch (pattern : Pattern) (text : String) : Bool :=
  pattern.node.matchesIn text.toList

end Pattern

end FilterQuery
