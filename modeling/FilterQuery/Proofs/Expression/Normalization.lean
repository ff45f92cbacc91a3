import FilterQuery.Expression.Basic
import FilterQuery.Proofs.Expression.Binding
import FilterQuery.Proofs.Text.Blank

/-!
# Canonical texts

The canonical text of a tree reads back to the tree.  The proof follows the two
stages of reading: the text is cut into `Tree.tokens`, and these build the tree,
because every operand that is an operation itself stands in parentheses.

It follows that canonical texts are the same only for the same trees.
-/

namespace FilterQuery.Expression.Tree

open FilterQuery.Text

/-- The tokens around those of an operand. -/
def encloseTokens (tree : Tree) (tokens : List Token) : List Token :=
  if tree.isLeaf then tokens else .openParen :: (tokens ++ [.closeParen])

/-- The tokens of the canonical text. -/
def tokens : Tree → List Token
  | .leaf index => [.index index]
  | .node operator left right =>
      left.encloseTokens left.tokens ++
        .operator operator :: right.encloseTokens right.tokens

/-- Every index at the leaves is below the bound of indexes. -/
def IsBounded (tree : Tree) : Prop :=
  ∀ index ∈ tree.leaves, index < Digits.wordBound

@[simp]
theorem enclose_leaf (index : Nat) (text : String) :
    enclose (.leaf index) text = text := rfl

@[simp]
theorem enclose_node
    (operator : LogicalOperator) (left right : Tree) (text : String) :
    enclose (.node operator left right) text = "(" ++ text ++ ")" := rfl

@[simp]
theorem encloseTokens_leaf (index : Nat) (tokens : List Token) :
    encloseTokens (.leaf index) tokens = tokens := rfl

@[simp]
theorem encloseTokens_node
    (operator : LogicalOperator) (left right : Tree) (tokens : List Token) :
    encloseTokens (.node operator left right) tokens =
      .openParen :: (tokens ++ [.closeParen]) := rfl

/-! ## Building -/

/-- An operand of the canonical text is a term, given that it is a phrase without
the parentheses. -/
theorem groups_encloseTokens
    {tree : Tree} (groups : Groups .loosest tree.tokens tree) :
    Groups .term (tree.encloseTokens tree.tokens) tree := by
  cases tree with
  | leaf index => exact .index index
  | node operator left right => exact .parentheses groups

/-- All operands of the canonical text are terms, so it is a phrase of any level
that has its operator. -/
theorem groups_tokens (tree : Tree) : Groups .loosest tree.tokens tree := by
  induction tree with
  | leaf index => exact (Groups.index index).ofTerm _
  | node operator left right leftHypothesis rightHypothesis =>
      have whole :
          Groups (.operation operator) (tokens (.node operator left right))
            (.node operator left right) :=
        .further ((groups_encloseTokens leftHypothesis).ofTerm _)
          ((groups_encloseTokens rightHypothesis).ofTerm _)
      cases operator with
      | or => exact whole
      | xor => exact .first whole
      | and => exact .first (.first whole)

theorem ofTokens_tokens (tree : Tree) : ofTokens tree.tokens = .ok tree :=
  ofTokens_of_groups (groups_tokens tree)

/-! ## Cutting -/

theorem spells_toString (index : Nat) :
    Spells .term (toString index).toList [.index index] := by
  have isIndex :=
    Spells.index (Digits.toList_toString_ne_nil index)
      fun _ => Digits.isDigit_of_mem_toString
  rwa [Digits.toList_toString, Digits.value_toDigits,
    ← Digits.toList_toString] at isIndex

/-- The canonical text as an operand, given that it is an expression. -/
theorem spells_enclose
    {tree : Tree}
    (spells : Spells .expression tree.normalize.toList tree.tokens) :
    Spells .term (tree.enclose tree.normalize).toList
      (tree.encloseTokens tree.tokens) := by
  cases tree with
  | leaf index => exact spells_toString index
  | node operator left right =>
      have shape :
          (enclose (.node operator left right)
              (normalize (.node operator left right))).toList =
            '(' :: ((normalize (.node operator left right)).toList ++ [')']) := by
        simp
      rw [shape]
      exact .parentheses spells

theorem spells_normalize (tree : Tree) :
    Spells .expression tree.normalize.toList tree.tokens := by
  induction tree with
  | leaf index => exact .term (spells_toString index)
  | node operator left right leftHypothesis rightHypothesis =>
      rw [normalize, tokens, String.toList_append, String.toList_append,
        List.append_assoc]
      exact
        .operation operator (.term (spells_enclose leftHypothesis))
          (spells_enclose rightHypothesis)

theorem mem_encloseTokens {tree : Tree} {tokens : List Token} {index : Nat} :
    Token.index index ∈ tree.encloseTokens tokens ↔ Token.index index ∈ tokens := by
  cases tree <;> simp

theorem mem_tokens {tree : Tree} {index : Nat} :
    Token.index index ∈ tree.tokens ↔ index ∈ tree.leaves := by
  induction tree with
  | leaf value => simp [tokens, leaves]
  | node operator left right leftHypothesis rightHypothesis =>
      simp [tokens, leaves, mem_encloseTokens, leftHypothesis, rightHypothesis]

/-- The canonical text is cut into the tokens of the tree. -/
theorem tokenize_normalize {tree : Tree} (bounded : tree.IsBounded) :
    tokenize tree.normalize = .ok tree.tokens := by
  have tokensBounded : IndexesBounded tree.tokens :=
    fun index member => bounded index (mem_tokens.mp member)
  exact tokenize_of_spells (spells_normalize tree) tokensBounded

/-- No canonical text is blank. -/
theorem isBlankText_normalize (tree : Tree) :
    isBlankText tree.normalize = false := by
  cases tree with
  | leaf index =>
      obtain ⟨first, others, spelled⟩ :=
        List.exists_cons_of_ne_nil (Digits.toList_toString_ne_nil index)
      have isDigit : first.isDigit = true :=
        Digits.isDigit_of_mem_toString (spelled ▸ List.mem_cons_self)
      rw [isBlankText, normalize, spelled, List.all_cons,
        isBlank_of_isDigit isDigit, Bool.false_and]
  | node operator left right =>
      have keyword : operator.keyword.toList.all isBlank = false := by
        cases operator <;> decide
      simp [isBlankText, normalize, keyword]

end FilterQuery.Expression.Tree
