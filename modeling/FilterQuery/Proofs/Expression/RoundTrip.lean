import FilterQuery.Proofs.Expression.Normalization
import FilterQuery.Proofs.Outcome
import Mathlib.Algebra.Group.Nat.Defs

/-!
# Reading expressions

* an accepted text has the tokens and the tree of the expression that is read,
  and no text fails for want of a tree;
* accepted expressions name indexes below `2 ^ 64` only, so their canonical
  texts read back;
* accepted expressions have the same canonical text exactly when they have the
  same tree.
-/

namespace FilterQuery.Expression

open FilterQuery.Text

/-- What is known of an expression that was read. -/
theorem of_parse
    {text : String} {expression : Expression}
    (read : parse text = .ok expression) :
    tokenize text = .ok expression.tokens ∧
      Tree.ofTokens expression.tokens = .ok expression.tree := by
  unfold parse at read
  split at read
  · cases read
  · split at read
    · cases read
    · rename_i tokens cut
      split at read
      · cases read
      · rename_i tree built
        cases read
        exact ⟨cut, built⟩

/-- Tokens that were cut always form a tree. -/
theorem parse_ne_treeFault (text : String) (fault : Tree.TreeFault) :
    parse text ≠ .error (.tree fault) := by
  intro read
  unfold parse at read
  split at read
  · cases read
  · split at read
    · cases read
    · rename_i tokens cut
      obtain ⟨tree, built⟩ := exists_ofTokens_of_tokenize cut
      rw [built] at read
      cases read

theorem isBounded_of_parse
    {text : String} {expression : Expression}
    (read : parse text = .ok expression) : expression.tree.IsBounded := by
  obtain ⟨cut, built⟩ := of_parse read
  intro index member
  rw [leaves_of_ofTokens cut built] at member
  obtain ⟨token, isToken, isIndex⟩ := List.mem_filterMap.mp member
  cases token with
  | index value =>
      cases isIndex
      exact (tokenize_eq_ok_iff.mp cut).2 index isToken
  | openParen => cases isIndex
  | closeParen => cases isIndex
  | operator logical => cases isIndex

namespace Tree

/-- The canonical text reads back. -/
theorem parse_normalize {tree : Tree} (bounded : tree.IsBounded) :
    Expression.parse tree.normalize =
      .ok ⟨tree.normalize, tree.tokens, tree⟩ := by
  rw [Expression.parse, isBlankText_normalize, tokenize_normalize bounded]
  simp only [Bool.false_eq_true, if_false, ofTokens_tokens]

/-- Canonical texts tell trees apart. -/
theorem normalize_injective
    {left right : Tree} (leftBounded : left.IsBounded)
    (rightBounded : right.IsBounded)
    (same : left.normalize = right.normalize) : left = right := by
  have leftRead := parse_normalize leftBounded
  have rightRead := parse_normalize rightBounded
  rw [same, rightRead] at leftRead
  injection leftRead with sameExpression
  exact (congrArg Expression.tree sameExpression).symm

end Tree

/-- Accepted expressions have the same canonical text exactly when they have
the same tree. -/
theorem normalized_eq_iff
    {leftText rightText : String} {left right : Expression}
    (leftRead : parse leftText = .ok left)
    (rightRead : parse rightText = .ok right) :
    left.normalized = right.normalized ↔ left.tree = right.tree := by
  constructor
  · exact
      Tree.normalize_injective (isBounded_of_parse leftRead)
        (isBounded_of_parse rightRead)
  · intro sameTree
    rw [normalized, normalized, sameTree]

/-- Reading undoes normalization: the canonical text of a tree whose indexes
are below `2 ^ 64` is accepted, has that very tree, and is its own canonical
text.  So normalization is a fixed point on accepted expressions, and two of
them have the same canonical text exactly when they have the same tree. -/
theorem parse_undoes_normalize :
    (∀ tree : Tree,
      (∀ index ∈ tree.leaves, index < 2 ^ 64) →
        ∃ expression,
          parse tree.normalize = .ok expression ∧
            expression.tree = tree ∧
            expression.normalized = tree.normalize) ∧
      (∀ (text : String) (expression : Expression),
        parse text = .ok expression →
          ∃ again,
            parse expression.normalized = .ok again ∧
              again.tree = expression.tree ∧
              again.normalized = expression.normalized) ∧
      ∀ (leftText rightText : String) (left right : Expression),
        parse leftText = .ok left →
        parse rightText = .ok right →
        (left.normalized = right.normalized ↔ left.tree = right.tree) := by
  refine ⟨?_, ?_, ?_⟩
  · intro tree bounded
    exact ⟨_, Tree.parse_normalize bounded, rfl, rfl⟩
  · intro text expression read
    exact ⟨_, Tree.parse_normalize (isBounded_of_parse read), rfl, rfl⟩
  · intro leftText rightText left right leftRead rightRead
    exact normalized_eq_iff leftRead rightRead

/-- All operators, nested on both sides, with the greatest index. -/
def nestedTree : Tree :=
  .node .xor
    (.node .or (.leaf 0) (.node .and (.leaf 18446744073709551615) (.leaf 2)))
    (.node .xor (.leaf 7) (.node .or (.leaf 0) (.leaf 2)))

theorem parse_undoes_normalize_nested :
    (∀ index ∈ nestedTree.leaves, index < 2 ^ 64) ∧
      (∃ expression,
        parse "(0or(18446744073709551615and2))xor(7xor(0or2))" =
            .ok expression ∧
          expression.tree = nestedTree ∧
          expression.normalized = nestedTree.normalize) ∧
      ∃ left right,
        parse "0or1and2" = .ok left ∧
          parse "(0)or((01and2))" = .ok right ∧
          (∃ again,
            parse left.normalized = .ok again ∧
              again.tree = left.tree ∧
              again.normalized = left.normalized) ∧
          (left.normalized = right.normalized ↔ left.tree = right.tree) := by
  have bounded : ∀ index ∈ nestedTree.leaves, index < 2 ^ 64 := by decide
  let tree : Tree := .node .or (.leaf 0) (.node .and (.leaf 1) (.leaf 2))
  let left : Expression :=
    ⟨"0or1and2",
      [.index 0, .operator .or, .index 1, .operator .and, .index 2], tree⟩
  let right : Expression :=
    ⟨"(0)or((01and2))",
      [.openParen, .index 0, .closeParen, .operator .or, .openParen, .openParen,
        .index 1, .operator .and, .index 2, .closeParen, .closeParen],
      tree⟩
  have leftRead : parse "0or1and2" = .ok left :=
    Outcome.eq_ok_of_toOption (by decide +kernel)
  have rightRead : parse "(0)or((01and2))" = .ok right :=
    Outcome.eq_ok_of_toOption (by decide +kernel)
  exact
    ⟨bounded, parse_undoes_normalize.1 nestedTree bounded, left, right,
      leftRead, rightRead, parse_undoes_normalize.2.1 _ left leftRead,
      parse_undoes_normalize.2.2 _ _ left right leftRead rightRead⟩

end FilterQuery.Expression
