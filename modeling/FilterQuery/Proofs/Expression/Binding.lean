import FilterQuery.Expression.Tree
import FilterQuery.Proofs.Expression.Grammar
import FilterQuery.Proofs.Outcome

/-!
# How operators bind

Operands of `and` are terms, those of `xor` are made of `and`, and those of `or`
are made of `xor`.  Operators of one level group to the left.

* `Groups` is this grammar, together with the tree of a phrase;
* `Groups.exists_build`: wherever a phrase is read, the operands of its operators
  wait in the open group, so that `Tree.ofTokens` returns the tree
  (`ofTokens_of_groups`), which is therefore the only one;
* `exists_groups_of_spells`: the tokens of every expression are a phrase of the
  loosest level.
-/

namespace FilterQuery.Expression

open FilterQuery.Text

/-- How tightly a phrase binds that stands outside of parentheses. -/
inductive Level where
  | term
  | operation (operator : LogicalOperator)
  deriving DecidableEq, Repr

namespace Level

/-- The level of an operator's operands, which is the next tighter one. -/
def operands : LogicalOperator → Level
  | .and => .term
  | .xor => .operation .and
  | .or => .operation .xor

/-- Operators that occur in a phrase of the level, outside of parentheses. -/
def operators : Level → List LogicalOperator
  | .term => []
  | .operation .and => [.and]
  | .operation .xor => [.xor, .and]
  | .operation .or => [.or, .xor, .and]

/-- The level of a whole expression. -/
def loosest : Level := .operation .or

theorem operators_operation (operator : LogicalOperator) :
    (operation operator).operators = operator :: (operands operator).operators := by
  cases operator <;> rfl

theorem not_mem_operators_operands (operator : LogicalOperator) :
    operator ∉ (operands operator).operators := by
  cases operator <;> decide

theorem mem_operators_loosest (operator : LogicalOperator) :
    operator ∈ loosest.operators := by
  cases operator <;> decide

end Level

/-- The tokens form a phrase of the level that stands for the tree.  A level is a
sequence of operands with its operator between them; each further operand is
combined with all of the sequence before it. -/
inductive Groups : Level → List Token → Tree → Prop
  | index (value : Nat) : Groups .term [.index value] (.leaf value)
  | parentheses {tokens : List Token} {tree : Tree} :
      Groups .loosest tokens tree →
      Groups .term (.openParen :: (tokens ++ [.closeParen])) tree
  | first {operator : LogicalOperator} {tokens : List Token} {tree : Tree} :
      Groups (.operands operator) tokens tree →
      Groups (.operation operator) tokens tree
  | further {operator : LogicalOperator} {tokens operandTokens : List Token}
      {left right : Tree} :
      Groups (.operation operator) tokens left →
      Groups (.operands operator) operandTokens right →
      Groups (.operation operator) (tokens ++ .operator operator :: operandTokens)
        (.node operator left right)

/-! ## Building -/

namespace Tree.Group

/-- The operand that waits before an operator. -/
def waiting (group : Group) : LogicalOperator → Option Tree
  | .and => group.waitingAnd
  | .xor => group.waitingXor
  | .or => group.waitingOr

/-- The phrase of the level that ends with the operand. -/
def ending (group : Group) (operand : Tree) : Level → Tree
  | .term => operand
  | .operation .and => group.conjunction operand
  | .operation .xor => group.exclusion operand
  | .operation .or => group.disjunction operand

theorem waiting_empty (operator : LogicalOperator) :
    waiting {} operator = none := by
  cases operator <;> rfl

variable (group : Group) (operand : Tree) (operator : LogicalOperator)

theorem ending_operation :
    group.ending operand (.operation operator) =
      combine operator (group.waiting operator)
        (group.ending operand (.operands operator)) := by
  cases operator <;> rfl

/-- After an operator, everything before it on its level waits for its operand. -/
theorem waiting_await_self :
    (group.await operand operator).waiting operator =
      some (group.ending operand (.operation operator)) := by
  cases operator <;> rfl

theorem waiting_await_of_mem
    {operator other : LogicalOperator}
    (tighter : other ∈ (Level.operands operator).operators) :
    (group.await operand operator).waiting other = none := by
  cases operator <;> cases other <;>
    simp_all [Level.operands, Level.operators, await, waiting]

theorem waiting_await_of_not_mem
    {operator other : LogicalOperator}
    (looser : other ∉ (Level.operation operator).operators) :
    (group.await operand operator).waiting other = group.waiting other := by
  cases operator <;> cases other <;>
    simp_all [Level.operators, await, waiting]

end Tree.Group

/-- What a phrase leaves behind in the group that it was read in, before its last
operand: together they are the tree, and looser operators were not touched. -/
structure LeavesBehind
    (level : Level) (before after : Tree.Group) (operand tree : Tree) : Prop where
  ending : after.ending operand level = tree
  outside :
    ∀ operator ∉ level.operators, after.waiting operator = before.waiting operator

namespace Groups

open FilterQuery.Expression.Tree

variable {level : Level} {tokens : List Token} {tree : Tree}

/-- Where no operand of its level waits, a phrase is read as its tree. -/
theorem exists_build
    (groups : Groups level tokens tree) {group : Group} (outer : List Group)
    (clear : ∀ operator ∈ level.operators, group.waiting operator = none) :
    ∃ after operand,
      LeavesBehind level group after operand tree ∧
        ∀ rest,
          build group outer none (tokens ++ rest) =
            build after outer (some operand) rest := by
  induction groups generalizing group outer with
  | index value => exact ⟨group, .leaf value, ⟨rfl, fun _ _ => rfl⟩, fun _ => rfl⟩
  | @parentheses tokens tree _ inductionHypothesis =>
      obtain ⟨after, operand, leaves, builds⟩ :=
        inductionHypothesis (group :: outer) fun other _ =>
          Group.waiting_empty other
      refine ⟨group, tree, ⟨rfl, fun _ _ => rfl⟩, fun rest => ?_⟩
      have whole : after.disjunction operand = tree := leaves.ending
      simp only [List.cons_append, List.append_assoc, List.nil_append]
      rw [build, builds, build, whole]
  | @first operator tokens tree _ inductionHypothesis =>
      rw [Level.operators_operation, List.forall_mem_cons] at clear
      obtain ⟨after, operand, leaves, builds⟩ :=
        inductionHypothesis outer clear.2
      refine ⟨after, operand, ⟨?_, ?_⟩, builds⟩
      · rw [Group.ending_operation, leaves.ending,
          leaves.outside _ (Level.not_mem_operators_operands operator), clear.1]
        rfl
      · intro other looser
        rw [Level.operators_operation, List.mem_cons, not_or] at looser
        exact leaves.outside other looser.2
  | @further operator tokens operandTokens left right _ _ leftHypothesis
      rightHypothesis =>
      obtain ⟨between, last, leftLeaves, leftBuilds⟩ := leftHypothesis outer clear
      have isClear :
          ∀ other ∈ (Level.operands operator).operators,
            (between.await last operator).waiting other = none :=
        fun _ => Group.waiting_await_of_mem between last
      obtain ⟨after, operand, rightLeaves, rightBuilds⟩ :=
        rightHypothesis outer isClear
      refine ⟨after, operand, ⟨?_, ?_⟩, fun rest => ?_⟩
      · rw [Group.ending_operation, rightLeaves.ending,
          rightLeaves.outside _ (Level.not_mem_operators_operands operator),
          Group.waiting_await_self, leftLeaves.ending]
        rfl
      · intro other looser
        have alsoLooser : other ∉ (Level.operands operator).operators := by
          rw [Level.operators_operation, List.mem_cons, not_or] at looser
          exact looser.2
        rw [rightLeaves.outside other alsoLooser,
          Group.waiting_await_of_not_mem between last looser,
          leftLeaves.outside other looser]
      · rw [List.append_assoc, List.cons_append, leftBuilds, build, rightBuilds]

end Groups

theorem ofTokens_of_groups
    {tokens : List Token} {tree : Tree} (groups : Groups .loosest tokens tree) :
    Tree.ofTokens tokens = .ok tree := by
  obtain ⟨after, operand, leaves, builds⟩ :=
    groups.exists_build [] fun other _ => Tree.Group.waiting_empty other
  have whole : after.disjunction operand = tree := leaves.ending
  have read := builds []
  rw [List.append_nil] at read
  rw [Tree.ofTokens, read, Tree.build, whole]

/-- A phrase stands for one tree only. -/
theorem groups_iff_eq
    {tokens : List Token} {tree other : Tree} (groups : Groups .loosest tokens tree) :
    Groups .loosest tokens other ↔ other = tree := by
  constructor
  · intro groupsOther
    have read := ofTokens_of_groups groupsOther
    rw [ofTokens_of_groups groups] at read
    cases read
    rfl
  · rintro rfl
    exact groups

/-! ## Every expression is a phrase -/

namespace Groups

theorem ofTerm
    {tokens : List Token} {tree : Tree} (isTerm : Groups .term tokens tree) :
    ∀ level, Groups level tokens tree
  | .term => isTerm
  | .operation .and => .first isTerm
  | .operation .xor => .first (.first isTerm)
  | .operation .or => .first (.first (.first isTerm))

/-- A phrase goes on with an operator of its level or a tighter one.  The operator
belongs to the last operand of all looser ones. -/
theorem exists_append
    {level : Level} {tokens termTokens : List Token} {left right : Tree}
    (groups : Groups level tokens left) {operator : LogicalOperator}
    (occurs : operator ∈ level.operators)
    (isTerm : Groups .term termTokens right) :
    ∃ tree, Groups level (tokens ++ .operator operator :: termTokens) tree := by
  induction groups with
  | index _ => cases occurs
  | parentheses _ _ => cases occurs
  | @first looser tokens left isOperand inductionHypothesis =>
      rw [Level.operators_operation, List.mem_cons] at occurs
      rcases occurs with rfl | tighter
      · exact ⟨_, .further (.first isOperand) (isTerm.ofTerm _)⟩
      · obtain ⟨tree, isLonger⟩ := inductionHypothesis tighter
        exact ⟨tree, .first isLonger⟩
  | @further looser tokens operandTokens before last isBefore isLast _
      lastHypothesis =>
      rw [Level.operators_operation, List.mem_cons] at occurs
      rcases occurs with rfl | tighter
      · exact ⟨_, .further (.further isBefore isLast) (isTerm.ofTerm _)⟩
      · obtain ⟨tree, isLonger⟩ := lastHypothesis tighter
        refine ⟨.node looser before tree, ?_⟩
        rw [List.append_assoc, List.cons_append]
        exact .further isBefore isLonger

end Groups

/-- The loosest level of a phrase of the flat grammar. -/
def Phrase.level : Phrase → Level
  | .expression => .loosest
  | .term => .term

theorem exists_groups_of_spells
    {phrase : Phrase} {characters : List Char} {tokens : List Token}
    (spells : Spells phrase characters tokens) :
    ∃ tree, Groups phrase.level tokens tree := by
  induction spells with
  | @index run _ _ => exact ⟨_, .index (Digits.value run)⟩
  | parentheses _ inductionHypothesis =>
      obtain ⟨tree, groups⟩ := inductionHypothesis
      exact ⟨tree, .parentheses groups⟩
  | term _ inductionHypothesis =>
      obtain ⟨tree, groups⟩ := inductionHypothesis
      exact ⟨tree, groups.ofTerm _⟩
  | operation operator _ _ leftHypothesis rightHypothesis =>
      obtain ⟨left, leftGroups⟩ := leftHypothesis
      obtain ⟨right, rightGroups⟩ := rightHypothesis
      exact
        leftGroups.exists_append (Level.mem_operators_loosest operator) rightGroups

theorem exists_groups_of_tokenize
    {text : String} {tokens : List Token} (accepted : tokenize text = .ok tokens) :
    ∃ tree, Groups .loosest tokens tree :=
  exists_groups_of_spells (tokenize_eq_ok_iff.mp accepted).1

theorem exists_ofTokens_of_tokenize
    {text : String} {tokens : List Token} (accepted : tokenize text = .ok tokens) :
    ∃ tree, Tree.ofTokens tokens = .ok tree := by
  obtain ⟨tree, groups⟩ := exists_groups_of_tokenize accepted
  exact ⟨tree, ofTokens_of_groups groups⟩

/-! ## Order -/

/-- The index that a token stands for. -/
def Token.index? : Token → Option Nat
  | .index value => some value
  | _ => none

/-- Parentheses add no indexes. -/
theorem indexes_enclosed (tokens : List Token) :
    (Token.openParen :: (tokens ++ [.closeParen])).filterMap Token.index? =
      tokens.filterMap Token.index? := by
  rw [List.filterMap_cons_none rfl, List.filterMap_append,
    List.filterMap_cons_none rfl, List.filterMap_nil, List.append_nil]

theorem Groups.leaves_eq
    {level : Level} {tokens : List Token} {tree : Tree}
    (groups : Groups level tokens tree) :
    tree.leaves = tokens.filterMap Token.index? := by
  induction groups with
  | index _ => rfl
  | parentheses _ inductionHypothesis => rw [inductionHypothesis, indexes_enclosed]
  | first _ inductionHypothesis => exact inductionHypothesis
  | further _ _ leftHypothesis rightHypothesis =>
      rw [Tree.leaves, leftHypothesis, rightHypothesis, List.filterMap_append,
        List.filterMap_cons_none rfl]

theorem leaves_of_ofTokens
    {text : String} {tokens : List Token} {tree : Tree}
    (accepted : tokenize text = .ok tokens)
    (built : Tree.ofTokens tokens = .ok tree) :
    tree.leaves = tokens.filterMap Token.index? := by
  obtain ⟨other, groups⟩ := exists_groups_of_tokenize accepted
  rw [ofTokens_of_groups groups] at built
  cases built
  exact groups.leaves_eq

/-- The leaves and operators of a tree from left to right, as tokens. -/
def Tree.inOrder : Tree → List Token
  | .leaf index => [.index index]
  | .node operator left right =>
      left.inOrder ++ .operator operator :: right.inOrder

/-- Whether a token is an index or an operator. -/
def Token.isSymbol : Token → Bool
  | .index _ | .operator _ => true
  | .openParen | .closeParen => false

/-- Nothing but the parentheses of a phrase is left out of its tree. -/
theorem Groups.inOrder_eq
    {level : Level} {tokens : List Token} {tree : Tree}
    (groups : Groups level tokens tree) :
    tree.inOrder = tokens.filter Token.isSymbol := by
  induction groups with
  | index _ => rfl
  | parentheses _ inductionHypothesis =>
      rw [inductionHypothesis, List.filter_cons_of_neg (by decide),
        List.filter_append, List.filter_cons_of_neg (by decide),
        List.filter_nil, List.append_nil]
  | first _ inductionHypothesis => exact inductionHypothesis
  | further _ _ leftHypothesis rightHypothesis =>
      rw [Tree.inOrder, leftHypothesis, rightHypothesis, List.filter_append,
        List.filter_cons_of_pos rfl]

/-- The tokens of an accepted text form a tree, which is the one that the grammar
of binding gives them, and the only one.  Its leaves and operators are those of the
text, in the same order. -/
theorem ofTokens_binds
    {text : String} {tokens : List Token} (accepted : tokenize text = .ok tokens) :
    ∃ tree,
      Tree.ofTokens tokens = .ok tree ∧
        (∀ other, Groups .loosest tokens other ↔ other = tree) ∧
        tree.inOrder = tokens.filter Token.isSymbol := by
  obtain ⟨tree, groups⟩ := exists_groups_of_tokenize accepted
  exact
    ⟨tree, ofTokens_of_groups groups, fun _ => groups_iff_eq groups,
      groups.inOrder_eq⟩

/-- All operators, before tighter ones, after them and repeated. -/
theorem ofTokens_binds_mixed :
    ∃ tokens tree,
      tokenize "0or1xor2and3xor(4or5)and6or7" = .ok tokens ∧
        Tree.ofTokens tokens = .ok tree ∧
        tree.normalize = "(0or((1xor(2and3))xor((4or5)and6)))or7" ∧
        (∀ other, Groups .loosest tokens other ↔ other = tree) ∧
        tree.inOrder = tokens.filter Token.isSymbol := by
  have computed :
      ((tokenize "0or1xor2and3xor(4or5)and6or7").toOption.bind fun tokens =>
          (Tree.ofTokens tokens).toOption.map Tree.normalize) =
        some "(0or((1xor(2and3))xor((4or5)and6)))or7" := by
    decide +kernel
  obtain ⟨tokens, cut, computed⟩ := Option.bind_eq_some_iff.mp computed
  obtain ⟨built, builds, isText⟩ := Option.map_eq_some_iff.mp computed
  have accepted := Outcome.eq_ok_of_toOption cut
  obtain ⟨tree, isTree, only, inOrder⟩ := ofTokens_binds accepted
  have same : built = tree := by
    rw [isTree] at builds
    cases builds
    rfl
  exact ⟨tokens, tree, accepted, isTree, same ▸ isText, only, inOrder⟩

end FilterQuery.Expression
