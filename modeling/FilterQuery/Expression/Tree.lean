import FilterQuery.Expression.Token

/-!
# Syntax trees of filter expressions

`and` binds tighter than `xor`, and `xor` tighter than `or`; operators of equal
strength group to the left, and parentheses always form a subtree.

A tree is built while the tokens are read from left to right.  Every open
group keeps, for each strength, the left operand that waits there; an operator
takes the operands of all tighter strengths first.

* `Tree.ofTokens` builds the tree;
* `Tree.normalize` writes it with parentheses around nested operations only;
* `Tree.indexes` are the filter indexes at its leaves.
-/

namespace FilterQuery.Expression

/-- A filter expression's structure. -/
inductive Tree where
  | leaf (index : Nat)
  | node (operator : LogicalOperator) (left right : Tree)
  deriving DecidableEq, Repr

namespace Tree

def isLeaf : Tree → Bool
  | .leaf _ => true
  | .node .. => false

/-- Put parentheses around the text of an operation. -/
def enclose (tree : Tree) (text : String) : String :=
  if tree.isLeaf then text else "(" ++ text ++ ")"

/-- The canonical text: nested operations in parentheses, leaves bare. -/
def normalize : Tree → String
  | .leaf index => toString index
  | .node operator left right =>
      left.enclose left.normalize ++ operator.keyword ++
        right.enclose right.normalize

/-- The indexes at the leaves, from left to right. -/
def leaves : Tree → List Nat
  | .leaf index => [index]
  | .node _ left right => left.leaves ++ right.leaves

/-- Put a number in its place in an ascending list, unless it is there. -/
def insertAscending (index : Nat) : List Nat → List Nat
  | [] => [index]
  | first :: rest =>
      if index < first then index :: first :: rest
      else if index = first then first :: rest
      else first :: insertAscending index rest

/-- The distinct indexes at the leaves, ascending. -/
def indexes (tree : Tree) : List Nat :=
  tree.leaves.foldr insertAscending []

theorem mem_insertAscending {index tested : Nat} {indexes : List Nat} :
    tested ∈ insertAscending index indexes ↔
      tested = index ∨ tested ∈ indexes := by
  induction indexes with
  | nil => simp [insertAscending]
  | cons first rest inductionHypothesis =>
      simp only [insertAscending]
      split
      · simp
      · split
        · simp_all
        · simp only [List.mem_cons, inductionHypothesis]
          grind

theorem pairwise_insertAscending {index : Nat} {indexes : List Nat}
    (ascending : indexes.Pairwise (· < ·)) :
    (insertAscending index indexes).Pairwise (· < ·) := by
  induction indexes with
  | nil => simp [insertAscending]
  | cons first rest inductionHypothesis =>
      rw [List.pairwise_cons] at ascending
      simp only [insertAscending]
      split
      · rename_i below
        rw [List.pairwise_cons]
        refine ⟨?_, List.pairwise_cons.mpr ascending⟩
        intro other member
        rcases List.mem_cons.mp member with equal | later
        · exact equal ▸ below
        · exact Nat.lt_trans below (ascending.1 other later)
      · split
        · exact List.pairwise_cons.mpr ascending
        · rw [List.pairwise_cons]
          refine ⟨?_, inductionHypothesis ascending.2⟩
          intro other member
          rcases mem_insertAscending.mp member with equal | later
          · omega
          · exact ascending.1 other later

theorem mem_indexes {tree : Tree} {index : Nat} :
    index ∈ tree.indexes ↔ index ∈ tree.leaves := by
  unfold indexes
  induction tree.leaves with
  | nil => simp
  | cons first rest inductionHypothesis =>
      simp [mem_insertAscending, inductionHypothesis]

theorem pairwise_indexes (tree : Tree) :
    tree.indexes.Pairwise (· < ·) := by
  unfold indexes
  induction tree.leaves with
  | nil => simp
  | cons first rest inductionHypothesis =>
      exact pairwise_insertAscending inductionHypothesis

/-! ## Reading tokens -/

/-- Combine a waiting left operand, if there is one, with the right one. -/
def combine
    (operator : LogicalOperator) (left : Option Tree) (right : Tree) : Tree :=
  match left with
  | none => right
  | some waiting => .node operator waiting right

/-- The left operands that wait in one open group, by operator. -/
structure Group where
  waitingOr : Option Tree := none
  waitingXor : Option Tree := none
  waitingAnd : Option Tree := none
  deriving DecidableEq, Repr

namespace Group

/-- The operand of `xor` that ends with the given operand of `and`. -/
def conjunction (group : Group) (operand : Tree) : Tree :=
  combine .and group.waitingAnd operand

/-- The operand of `or` that ends with the given operand of `and`. -/
def exclusion (group : Group) (operand : Tree) : Tree :=
  combine .xor group.waitingXor (group.conjunction operand)

/-- The whole group, ending with the given operand of `and`. -/
def disjunction (group : Group) (operand : Tree) : Tree :=
  combine .or group.waitingOr (group.exclusion operand)

def await
    (group : Group) (operand : Tree) : LogicalOperator → Group
  | .and =>
      { group with waitingAnd := some (group.conjunction operand) }
  | .xor =>
      { waitingOr := group.waitingOr
        waitingXor := some (group.exclusion operand) }
  | .or =>
      { waitingOr := some (group.disjunction operand) }

end Group

/-- Why tokens form no tree. -/
inductive TreeFault where
  /-- The token stands where an operand is due. -/
  | unexpected (token : Token)
  /-- An open group is not closed after its last operand. -/
  | unclosed
  /-- The token follows the last operand outside of all groups. -/
  | trailing (token : Token)
  | unexpectedEnd
  deriving DecidableEq, Repr

/-- Read tokens inside a group and those around it, after an operand if one is
given. -/
def build
    (group : Group) (outer : List Group) (operand : Option Tree) :
    List Token → Except TreeFault Tree
  | [] =>
      match operand, outer with
      | none, _ => .error .unexpectedEnd
      | some tree, [] => .ok (group.disjunction tree)
      | some _, _ :: _ => .error .unclosed
  | token :: rest =>
      match operand, token with
      | none, .index index => build group outer (some (.leaf index)) rest
      | none, .openParen => build {} (group :: outer) none rest
      | some tree, .operator operator =>
          build (group.await tree operator) outer none rest
      | some tree, .closeParen =>
          match outer with
          | [] => .error (.trailing token)
          | enclosing :: others =>
              build enclosing others (some (group.disjunction tree)) rest
      | some _, _ =>
          .error (if outer.isEmpty then .trailing token else .unclosed)
      | none, _ => .error (.unexpected token)

def ofTokens (tokens : List Token) : Except TreeFault Tree :=
  build {} [] none tokens

/-- What is wrong with the tokens, in words. -/
def TreeFault.message : TreeFault → String
  | .unexpected token => "unexpected token '" ++ token.text ++ "'"
  | .unclosed => "missing ')'"
  | .trailing token => "trailing token '" ++ token.text ++ "'"
  | .unexpectedEnd => "unexpected end of tokens"

end Tree

end FilterQuery.Expression
