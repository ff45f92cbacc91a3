import FilterQuery.Pattern.CharClass

/-!
# Structure of patterns

A pattern is built from single characters, classes and assertions by
concatenation, alternation, repetition and grouping.

* `Node.concatenation` and `Node.alternation` of one item are that item;
* `Node.height` is the depth of nesting, bounded when a pattern is compiled;
* `Node.size` is the space that the compiled pattern takes, bounded too.
-/

namespace FilterQuery.Pattern

/-- A condition on a position of the text. -/
inductive Assertion where
  | textStart
  | textEnd
  | lineStart
  | lineEnd
  | carriageLineStart
  | carriageLineEnd
  | wordBoundary
  | noWordBoundary
  | wordStart
  | wordEnd
  | wordStartHalf
  | wordEndHalf
  deriving DecidableEq, Repr

/-- The structure of a pattern. -/
inductive Node where
  | empty
  | character (value : Char)
  | oneOf (characters : CharClass)
  | assertion (condition : Assertion)
  | repetition (least : Nat) (most : Option Nat) (body : Node)
  | capture (body : Node)
  | sequence (items : List Node)
  | choice (branches : List Node)
  deriving Repr

namespace Node

def concatenation (items : List Node) : Node :=
  match items with
  | [] => .empty
  | [item] => item
  | _ => .sequence items

/-- One branch or another; there is at least one. -/
def alternation (branches : List Node) : Node :=
  match branches with
  | [] => .oneOf .nothing
  | [branch] => branch
  | _ => .choice branches

/-- A repeated item; no repetition at all is empty, and exactly one is the item
itself. -/
def repeated (least : Nat) (most : Option Nat) (body : Node) : Node :=
  if least = 0 ∧ most = some 0 then .empty
  else if least = 1 ∧ most = some 1 then body
  else .repetition least most body

mutual

/-- The depth of nesting below a node. -/
def height : Node → Nat
  | .repetition _ _ body => body.height + 1
  | .capture body => body.height + 1
  | .sequence items => heightAll items + 1
  | .choice branches => heightAll branches + 1
  | _ => 0

/-- The greatest depth below several nodes. -/
def heightAll : List Node → Nat
  | [] => 0
  | node :: rest => max node.height (heightAll rest)

end

/-- The space of one state of a compiled pattern. -/
def stateSize : Nat := 32

/-- The space of a branching state with the given number of branches. -/
def branchingSize (branches : Nat) : Nat := stateSize + 4 * branches

mutual

/-- The space that a node takes when it is compiled. -/
def size : Node → Nat
  | .empty => stateSize
  | .character _ => stateSize
  | .oneOf characters => stateSize + 8 * characters.rangeCount
  | .assertion _ => stateSize
  | .repetition least none body =>
      max 1 least * body.size + branchingSize 2
  | .repetition least (some most) body =>
      most * body.size + (most - least) * branchingSize 2 + stateSize
  | .capture body => body.size + 2 * stateSize
  | .sequence items => sizeAll items
  | .choice branches =>
      sizeAll branches + branchingSize branches.length + stateSize

/-- The space that several nodes take. -/
def sizeAll : List Node → Nat
  | [] => 0
  | node :: rest => node.size + sizeAll rest

end

end Node

end FilterQuery.Pattern
