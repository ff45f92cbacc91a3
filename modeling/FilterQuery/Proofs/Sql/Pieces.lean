import FilterQuery.Proofs.Mapping.Columns
import FilterQuery.Proofs.Sql.Parentheses
import FilterQuery.Proofs.Sql.Placeholders

/-!
# The pieces of conditions

A test is written as a subject and a predicate with a blank between them.
Subjects and predicates are made of columns, operands and fixed words.

* `IsPiece` collects what holds of every such piece: its parentheses are
  balanced, it has no blanks at its ends, and the names of its placeholders are
  allowed.  Pieces put together are pieces again;
* `IsSubject`, `IsOperand` and `IsTest` say what tests of a filter look like.
-/

namespace FilterQuery.Sql

open FilterQuery.Text (IsSolid)

/-- What holds of every piece of a condition whose placeholders have allowed
names. -/
structure IsPiece
    (allowed : String → Prop) (characters : List Char) : Prop where
  balanced : IsBalanced characters
  solid : IsSolid characters
  names : ∀ name ∈ placeholders characters, allowed name

variable {allowed : String → Prop} {index : Nat}

/-! ## Separators -/

/-- What is decided of texts that stand between pieces: they are balanced and
have no colon, and no name runs on into them. -/
def isSeparator (characters : List Char) : Bool :=
  decide (IsBalanced characters) && !characters.contains ':' &&
    characters.head?.any (!isNameCharacter ·)

section Separators

variable {first middle second : List Char}

theorem isBalanced_of_isSeparator (separates : isSeparator middle = true) :
    IsBalanced middle := by
  simp only [isSeparator, Bool.and_eq_true, decide_eq_true_eq] at separates
  exact separates.1.1

theorem endsNames_of_isSeparator (separates : isSeparator middle = true) :
    EndsNames (middle ++ second) := by
  simp only [isSeparator, Bool.and_eq_true, Option.any_eq_true,
    Bool.not_eq_true'] at separates
  obtain ⟨_, next, isNext, endsName⟩ := separates
  obtain ⟨rest, rfl⟩ := List.head?_eq_some_iff.mp isNext
  exact endsNames_cons endsName (rest ++ second)

/-- A separator adds no names to those on its sides. -/
theorem placeholders_append_isSeparator (separates : isSeparator middle = true) :
    placeholders (first ++ (middle ++ second)) =
      placeholders first ++ placeholders second := by
  have noColon : ':' ∉ middle := by
    simp only [isSeparator, Bool.and_eq_true, Bool.not_eq_true',
      List.contains_eq_mem, decide_eq_false_iff_not] at separates
    exact separates.1.2
  rw [placeholders_append (endsNames_of_isSeparator separates),
    placeholders_append_of_not_mem noColon]

end Separators

/-! ## Pieces put together -/

namespace IsPiece

variable {first middle second : List Char}

/-- Two pieces with a separator between them. -/
theorem append
    (firstPiece : IsPiece allowed first) (secondPiece : IsPiece allowed second)
    (separates : isSeparator middle = true) :
    IsPiece allowed (first ++ (middle ++ second)) where
  balanced :=
    firstPiece.balanced.append
      ((isBalanced_of_isSeparator separates).append secondPiece.balanced)
  solid := firstPiece.solid.append secondPiece.solid
  names := by
    intro name member
    rw [placeholders_append_isSeparator separates, List.mem_append] at member
    rcases member with isFirst | isSecond
    · exact firstPiece.names name isFirst
    · exact secondPiece.names name isSecond

/-- Parentheses around a piece. -/
theorem enclosed (firstPiece : IsPiece allowed first) :
    IsPiece allowed ('(' :: (first ++ [')'])) where
  balanced := firstPiece.balanced.enclosed
  solid :=
    ⟨⟨'(', first ++ [')'], rfl, by decide⟩, ⟨'(' :: first, ')', rfl, by decide⟩⟩
  names := by
    rw [placeholders_enclosed]
    exact firstPiece.names

/-- A fixed word before a piece in parentheses. -/
theorem call
    (firstPiece : IsPiece allowed first) (secondPiece : IsPiece allowed second) :
    IsPiece allowed (first ++ '(' :: (second ++ [')'])) where
  balanced := firstPiece.balanced.append secondPiece.enclosed.balanced
  solid := by
    have whole : IsSolid (first ++ ([] ++ '(' :: (second ++ [')']))) :=
      firstPiece.solid.append secondPiece.enclosed.solid
    exact whole
  names := by
    intro name member
    have ends : EndsNames ('(' :: (second ++ [')'])) :=
      endsNames_cons (by decide) _
    rw [placeholders_append ends, List.mem_append] at member
    rcases member with isFirst | isSecond
    · exact firstPiece.names name isFirst
    · exact secondPiece.enclosed.names name isSecond

end IsPiece

/-- What is decided of fixed words: they are balanced, start and end without a
blank, and have no colon. -/
def isFixed (characters : List Char) : Bool :=
  decide (IsBalanced characters) &&
    characters.head?.any (!Text.isBlank ·) &&
    characters.getLast?.any (!Text.isBlank ·) && !characters.contains ':'

theorem isPiece_of_isFixed
    {characters : List Char} (fixed : isFixed characters = true) :
    IsPiece allowed characters := by
  simp only [isFixed, Bool.and_eq_true, decide_eq_true_eq, Option.any_eq_true,
    Bool.not_eq_true', List.contains_eq_mem, decide_eq_false_iff_not] at fixed
  obtain ⟨⟨⟨balanced, first⟩, last⟩, noColon⟩ := fixed
  obtain ⟨start, isStart, startNotBlank⟩ := first
  obtain ⟨finish, isFinish, finishNotBlank⟩ := last
  obtain ⟨rest, startsWith⟩ := List.head?_eq_some_iff.mp isStart
  obtain ⟨before, endsWith⟩ := List.getLast?_eq_some_iff.mp isFinish
  have solid : IsSolid characters :=
    ⟨⟨start, rest, startsWith, startNotBlank⟩,
      ⟨before, finish, endsWith, finishNotBlank⟩⟩
  refine ⟨balanced, solid, ?_⟩
  intro name member
  rw [placeholders_of_not_mem noColon] at member
  cases member

/-- Pieces with a fixed separator between them. -/
theorem isPiece_intercalate
    {separator : String} {parts : List String}
    (separates : isSeparator separator.toList = true) (nonempty : parts ≠ [])
    (pieces : ∀ part ∈ parts, IsPiece allowed part.toList) :
    IsPiece allowed (separator.intercalate parts).toList := by
  induction parts with
  | nil => exact absurd rfl nonempty
  | cons part rest inductionHypothesis =>
      obtain ⟨partPiece, restPieces⟩ := List.forall_mem_cons.mp pieces
      by_cases isLast : rest = []
      · rw [isLast, String.intercalate_singleton]
        exact partPiece
      · have restPiece := inductionHypothesis isLast restPieces
        rw [String.intercalate_cons_of_ne_nil isLast, String.toList_append,
          String.toList_append, List.append_assoc]
        exact partPiece.append restPiece separates

/-- Every part of a list stands in it. -/
theorem isInfix_intercalate
    {separator part : String} {parts : List String} (member : part ∈ parts) :
    part.toList <:+: (separator.intercalate parts).toList := by
  induction parts with
  | nil => cases member
  | cons first rest inductionHypothesis =>
      by_cases isLast : rest = []
      · rw [isLast, List.mem_singleton] at member
        have whole : separator.intercalate (first :: rest) = part := by
          rw [isLast, String.intercalate_singleton, member]
        exact whole ▸ List.infix_rfl
      · rw [String.intercalate_cons_of_ne_nil isLast, String.toList_append,
          String.toList_append]
        rcases List.mem_cons.mp member with same | later
        · rw [same, List.append_assoc]
          exact (List.prefix_append _ _).isInfix
        · exact
            (inductionHypothesis later).trans (List.suffix_append _ _).isInfix

/-- The names in a list are those in its parts. -/
theorem placeholders_intercalate
    {separator : String} {parts : List String}
    (separates : isSeparator separator.toList = true) :
    placeholders (separator.intercalate parts).toList =
      parts.flatMap fun part => placeholders part.toList := by
  induction parts with
  | nil =>
      rw [String.intercalate_nil]
      rfl
  | cons part rest inductionHypothesis =>
      by_cases isLast : rest = []
      · rw [isLast, String.intercalate_singleton]
        simp
      · rw [String.intercalate_cons_of_ne_nil isLast, String.toList_append,
          String.toList_append, List.append_assoc,
          placeholders_append_isSeparator separates, inductionHypothesis]
        rfl

/-! ## Columns -/

section Columns

variable {character : Char} {column : String}

theorem toNat_bounds_of_isColumnCharacter
    (isColumn : IsColumnCharacter character) :
    46 ≤ character.toNat ∧ character.toNat ≤ 122 ∧ character.toNat ≠ 58 := by
  rcases isColumn with isAlphanum | rfl | rfl
  · have bounds := toNat_bounds_of_isAlphanum isAlphanum
    omega
  · decide
  · decide

theorem isBlank_of_isColumnCharacter
    (isColumn : IsColumnCharacter character) :
    Text.isBlank character = false := by
  have bounds := toNat_bounds_of_isColumnCharacter isColumn
  simp only [Text.isBlank, Bool.or_eq_false_iff, Bool.and_eq_false_iff,
    decide_eq_false_iff_not, beq_eq_false_iff_ne]
  omega

/-- What stands around columns in conditions does not occur in them. -/
theorem ne_of_isColumnCharacter
    (isColumn : IsColumnCharacter character) :
    character ≠ ' ' ∧ character ≠ '(' ∧ character ≠ ')' ∧ character ≠ ':' := by
  have bounds := toNat_bounds_of_isColumnCharacter isColumn
  refine ⟨?_, ?_, ?_, ?_⟩
  all_goals
    rintro rfl
    simp [Char.toNat] at bounds

theorem not_mem_colon_of_isColumn (isColumn : IsColumn column) :
    ':' ∉ column.toList := by
  intro member
  exact (ne_of_isColumnCharacter (isColumn.characters _ member)).2.2.2 rfl

theorem isPiece_column (isColumn : IsColumn column) :
    IsPiece allowed column.toList := by
  refine ⟨?_, ?_, ?_⟩
  · apply IsBalanced.of_forall
    intro character member
    have others := ne_of_isColumnCharacter (isColumn.characters _ member)
    exact ⟨others.2.1, others.2.2.1⟩
  · apply IsSolid.of_forall isColumn.nonempty
    intro character member
    exact isBlank_of_isColumnCharacter (isColumn.characters _ member)
  · intro name member
    rw [placeholders_of_not_mem (not_mem_colon_of_isColumn isColumn)] at member
    cases member

/-- The names of parameters are made of the same characters as columns. -/
theorem isColumnCharacter_of_isNameCharacter
    (isName : isNameCharacter character = true) :
    IsColumnCharacter character := by
  simp only [isNameCharacter, Bool.or_eq_true, beq_iff_eq] at isName
  rcases isName with isAlphanum | isLowLine
  · exact .inl isAlphanum
  · exact .inr (.inl isLowLine)

theorem isPiece_placeholder
    {name : String} (isName : IsNameOf index name) :
    IsPiece (IsNameOf index) (placeholder name).toList := by
  have asList : (placeholder name).toList = ':' :: name.toList :=
    String.toList_append
  have others :
      ∀ character ∈ name.toList, IsColumnCharacter character :=
    fun character member =>
      isColumnCharacter_of_isNameCharacter (isName.isNameCharacter member)
  refine ⟨?_, ?_, ?_⟩
  · rw [asList]
    apply IsBalanced.of_forall
    rw [List.forall_mem_cons]
    refine ⟨by decide, fun character member => ?_⟩
    have bounds := ne_of_isColumnCharacter (others character member)
    exact ⟨bounds.2.1, bounds.2.2.1⟩
  · rw [asList]
    apply IsSolid.of_forall (List.cons_ne_nil _ _)
    rw [List.forall_mem_cons]
    exact
      ⟨by decide, fun character member =>
        isBlank_of_isColumnCharacter (others character member)⟩
  · intro found member
    rw [placeholders_placeholder fun _ => isName.isNameCharacter] at member
    rw [List.mem_singleton.mp member]
    exact isName

end Columns

/-! ## Subjects and operands -/

/-- What is tested: a column, or a column in lower case. -/
inductive IsSubject : String → Prop where
  | column {column : String} : IsColumn column → IsSubject column
  | lowered {column : String} :
      IsColumn column → IsSubject ("LOWER(" ++ column ++ ")")

theorem isSubject_subject
    {lowered : Bool} {column : String} (isColumn : IsColumn column) :
    IsSubject (subject lowered column) := by
  unfold subject
  split
  · exact .lowered isColumn
  · exact .column isColumn

theorem placeholders_of_isSubject {subject : String} (isSubject : IsSubject subject) :
    placeholders subject.toList = [] := by
  apply placeholders_of_not_mem
  cases isSubject with
  | column isColumn => exact not_mem_colon_of_isColumn isColumn
  | lowered isColumn =>
      simp only [String.toList_append, List.mem_append, not_or]
      exact ⟨⟨by decide, not_mem_colon_of_isColumn isColumn⟩, by decide⟩

/-- What a subject is compared with: a placeholder, which may be marked as
binary. -/
inductive IsOperand (index : Nat) : String → Prop where
  | plain {name : String} : IsNameOf index name → IsOperand index (placeholder name)
  | binary {name : String} :
      IsNameOf index name → IsOperand index ("BINARY " ++ placeholder name)
  | binaryCall {name : String} :
      IsNameOf index name → IsOperand index ("BINARY(" ++ placeholder name ++ ")")

section Names

variable {name : String}

/-- The placeholder of a parameter has its name, however it is marked. -/
theorem placeholders_plain (isName : IsNameOf index name) :
    placeholders (placeholder name).toList = [name] :=
  placeholders_placeholder fun _ => isName.isNameCharacter

theorem placeholders_binary (isName : IsNameOf index name) :
    placeholders ("BINARY " ++ placeholder name).toList = [name] := by
  rw [String.toList_append, placeholders_append_of_not_mem (by decide),
    placeholders_plain isName]

theorem placeholders_binaryCall (isName : IsNameOf index name) :
    placeholders ("BINARY(" ++ placeholder name ++ ")").toList = [name] := by
  have ends : EndsNames ")".toList := endsNames_closing []
  rw [String.toList_append, placeholders_append ends, String.toList_append,
    placeholders_append_of_not_mem (by decide), placeholders_plain isName]
  rfl

theorem placeholders_stringPlaceholder
    {dialect : Dialect} (isName : IsNameOf index name) :
    placeholders (dialect.stringPlaceholder name).toList = [name] := by
  cases dialect with
  | mySql => exact placeholders_binary isName
  | sqlite => exact placeholders_plain isName
  | doctrine => exact placeholders_binaryCall isName

theorem placeholders_textPlaceholder
    {dialect : Dialect} {caseInsensitive : Bool} (isName : IsNameOf index name) :
    placeholders (textPlaceholder dialect caseInsensitive name).toList =
      [name] := by
  unfold textPlaceholder
  split
  · exact placeholders_plain isName
  · exact placeholders_stringPlaceholder isName

theorem placeholders_elementPlaceholder
    {dialect : Dialect} {caseInsensitive : Bool} {element : Nat × Value} :
    placeholders
        (elementPlaceholder dialect caseInsensitive index element).toList =
      [elementName index element.1] := by
  have isName : IsNameOf index (elementName index element.1) := .element _
  unfold elementPlaceholder
  simp only
  split
  · exact placeholders_textPlaceholder isName
  · exact placeholders_plain isName

end Names

/-- An operand has one placeholder. -/
theorem exists_placeholders_of_isOperand
    {operand : String} (isOperand : IsOperand index operand) :
    ∃ name,
      IsNameOf index name ∧ placeholders operand.toList = [name] := by
  cases isOperand with
  | plain isName => exact ⟨_, isName, placeholders_plain isName⟩
  | binary isName => exact ⟨_, isName, placeholders_binary isName⟩
  | binaryCall isName => exact ⟨_, isName, placeholders_binaryCall isName⟩

theorem isOperand_stringPlaceholder
    {dialect : Dialect} {name : String} (isName : IsNameOf index name) :
    IsOperand index (dialect.stringPlaceholder name) := by
  cases dialect with
  | mySql => exact .binary isName
  | sqlite => exact .plain isName
  | doctrine => exact .binaryCall isName

theorem isOperand_textPlaceholder
    {dialect : Dialect} {caseInsensitive : Bool} {name : String}
    (isName : IsNameOf index name) :
    IsOperand index (textPlaceholder dialect caseInsensitive name) := by
  unfold textPlaceholder
  split
  · exact .plain isName
  · exact isOperand_stringPlaceholder isName

theorem isOperand_elementPlaceholder
    {dialect : Dialect} {caseInsensitive : Bool} {element : Nat × Value} :
    IsOperand index (elementPlaceholder dialect caseInsensitive index element) := by
  unfold elementPlaceholder
  simp only
  split
  · exact isOperand_textPlaceholder (.element element.1)
  · exact .plain (.element element.1)

theorem isPiece_of_isSubject {subject : String} (isSubject : IsSubject subject) :
    IsPiece (IsNameOf index) subject.toList := by
  cases isSubject with
  | column isColumn => exact isPiece_column isColumn
  | @lowered column isColumn =>
      have shape :
          ("LOWER(" ++ column ++ ")").toList =
            "LOWER".toList ++ '(' :: (column.toList ++ [')']) := by
        simp
      rw [shape]
      exact IsPiece.call (isPiece_of_isFixed (by decide)) (isPiece_column isColumn)

theorem isPiece_of_isOperand {operand : String} (isOperand : IsOperand index operand) :
    IsPiece (IsNameOf index) operand.toList := by
  cases isOperand with
  | plain isName => exact isPiece_placeholder isName
  | @binary name isName =>
      have shape :
          ("BINARY " ++ placeholder name).toList =
            "BINARY".toList ++ ([' '] ++ (placeholder name).toList) := by
        simp
      rw [shape]
      exact
        IsPiece.append (isPiece_of_isFixed (by decide))
          (isPiece_placeholder isName) (by decide)
  | @binaryCall name isName =>
      have shape :
          ("BINARY(" ++ placeholder name ++ ")").toList =
            "BINARY".toList ++ '(' :: ((placeholder name).toList ++ [')']) := by
        simp
      rw [shape]
      exact
        IsPiece.call (isPiece_of_isFixed (by decide))
          (isPiece_placeholder isName)

end FilterQuery.Sql
