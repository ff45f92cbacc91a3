import FilterQuery.Proofs.Filter.Operator
import FilterQuery.Proofs.Filter.Shapes
import FilterQuery.Proofs.Text.Blank
import FilterQuery.Proofs.Text.Digits
import Mathlib.Data.Bool.AllAny

/-!
# Written filters are read back

`Kind.IsWritten` says how values are written, except for floating-point numbers and
lists, which can be spelled in several ways.  A filter that is put together from a key,
the symbol of an operator and a written value is read back to the same parts.

* `Kind.ofLiteral_written` is about the value;
* `Filter.splitAtOperator?_append` is about the place of the operator: the key has no
  symbol in it, and no symbol can be taken longer than it was written.
-/

namespace FilterQuery

open FilterQuery.Text FilterQuery.Literal

namespace Literal

/-- A text in double quotes, with what needs it escaped. -/
def quote (text : String) : List Char :=
  '"' :: (Quoted.escape text.toList ++ ['"'])

/-- How a text is written. -/
def textLiteral (text : String) (caseInsensitive : Bool) : List Char :=
  quote text ++ modifier ['/', 'i'] caseInsensitive

/-- How a like pattern is written. -/
def likeLiteral (pattern : LikePattern) (caseInsensitive : Bool) : List Char :=
  modifier ['%'] pattern.wildcardLeft ++ quote pattern.text ++
    modifier ['%'] pattern.wildcardRight ++ modifier ['/', 'i'] caseInsensitive

/-- How a regular expression is written. -/
def regexpLiteral (pattern : String) (caseInsensitive : Bool) : List Char :=
  '/' :: pattern.toList ++ ['/'] ++ modifier ['i'] caseInsensitive

end Literal

/-- How a value is written, and whether letter case is disregarded. -/
inductive Kind.IsWritten : Kind → Bool → String → Prop
  | null : IsWritten .null false "null"
  | boolean (value : Bool) :
      IsWritten (.boolean value) false (if value then "true" else "false")
  | integer (value : Int64) :
      0 ≤ value → IsWritten (.integer value) false (toString value.toInt)
  | string (text : String) (caseInsensitive : Bool) :
      '\n' ∉ text.toList →
      IsWritten (.string text) caseInsensitive
        (String.ofList (textLiteral text caseInsensitive))
  | like (pattern : LikePattern) (caseInsensitive : Bool) :
      pattern.text ≠ "" →
      (pattern.wildcardLeft || pattern.wildcardRight) = true →
      '\n' ∉ pattern.text.toList →
      IsWritten (.like pattern) caseInsensitive
        (String.ofList (likeLiteral pattern caseInsensitive))
  | regexp (pattern : String) (caseInsensitive : Bool) {compiled : Pattern} :
      Pattern.compile pattern = .ok compiled →
      '\n' ∉ pattern.toList →
      IsWritten (.regexp pattern) caseInsensitive
        (String.ofList (regexpLiteral pattern caseInsensitive))

/-! ## Values -/

namespace Literal

/-- Nothing but backslashes is added. -/
theorem mem_escape_iff {character : Char} {text : List Char}
    (notBackslash : character ≠ '\\') :
    character ∈ Quoted.escape text ↔ character ∈ text := by
  induction text with
  | nil => simp [Quoted.escape]
  | cons first rest inductionHypothesis =>
      rw [Quoted.escape]
      split
      · simp [inductionHypothesis, notBackslash]
      · simp [inductionHypothesis]

theorem quotedText_escape (text : String) :
    quotedText (Quoted.escape text.toList) = .ok text := by
  simp only [quotedText, Quoted.unescape?_escape, String.ofList_toList]

theorem isRun_toString (number : Nat) :
    Digits.isRun (toString number).toList = true := by
  have nonempty : (toString number).toList.isEmpty = false := by
    rw [List.isEmpty_eq_false_iff]
    exact Digits.toList_toString_ne_nil number
  have allDigits : (toString number).toList.all Char.isDigit = true :=
    List.all_eq_true.mpr fun _ member => Digits.isDigit_of_mem_toString member
  simp only [Digits.isRun, nonempty, allDigits, Bool.not_false, Bool.and_true]

theorem integer?_toString
    {number : Nat} (bounded : number < Digits.integerBound) :
    integer? (toString number).toList = some (Int64.ofNat number) := by
  have denotes : Digits.value (toString number).toList = number := by
    rw [Digits.toList_toString, Digits.value_toDigits]
  simp only [integer?, Digits.readBelow?, Digits.read?, isRun_toString, denotes,
    if_true, Option.filter_some, bounded, decide_true, Option.map_some]

theorem toString_toInt {value : Int64} (nonnegative : 0 ≤ value) :
    toString value.toInt = toString value.toNatClampNeg := by
  have bound := Int64.le_iff_toInt_le.mp nonnegative
  have natural : value.toInt = Int.ofNat value.toNatClampNeg :=
    (Int.toNat_of_nonneg bound).symm
  rw [natural]
  rfl

theorem toNatClampNeg_lt {value : Int64} (nonnegative : 0 ≤ value) :
    value.toNatClampNeg < Digits.integerBound := by
  have bound := Int64.le_iff_toInt_le.mp nonnegative
  have below := Int64.toInt_lt value
  rw [← Int.toNat_of_nonneg bound] at below
  exact Int.ofNat_lt.mp below

/-- What starts with a mark is neither a number nor a keyword. -/
structure IsMarked (characters : List Char) : Prop where
  notRun : Digits.isRun characters = false
  notDecimal : decimal? characters = none
  notNull : String.ofList characters ≠ "null"
  notTrue : String.ofList characters ≠ "true"
  notFalse : String.ofList characters ≠ "false"

theorem isMarked_of_first
    {first : Char} (rest : List Char) (notDigit : first.isDigit = false)
    (notLetter : first ∉ ['n', 't', 'f']) : IsMarked (first :: rest) := by
  have notKeyword :
      ∀ (letter : Char) (others : List Char), letter ∈ ['n', 't', 'f'] →
        String.ofList (first :: rest) ≠ String.ofList (letter :: others) := by
    intro letter others isLetter same
    rw [String.ofList_inj, List.cons.injEq] at same
    exact notLetter (same.1 ▸ isLetter)
  refine ⟨?_, ?_, ?_, ?_, ?_⟩
  · simp [Digits.isRun, notDigit]
  · simp only [decimal?, Digits.spanDigits, List.takeWhile_cons,
      List.dropWhile_cons, notDigit]
    split
    · simp [Digits.isRun]
    · rfl
  · exact notKeyword 'n' _ (by decide)
  · exact notKeyword 't' _ (by decide)
  · exact notKeyword 'f' _ (by decide)

theorem isMarked_cons
    {first : Char} (rest : List Char) (isMark : first ∈ ['"', '%', '/']) :
    IsMarked (first :: rest) := by
  have marks :
      ∀ character ∈ ['"', '%', '/'],
        character.isDigit = false ∧ character ∉ ['n', 't', 'f'] :=
    List.all_iff_forall_prop.mp (by decide)
  obtain ⟨notDigit, notLetter⟩ := marks first isMark
  exact isMarked_of_first rest notDigit notLetter

/-! ## Texts, like patterns and regular expressions -/

section Written

variable {text pattern : String} {like : LikePattern} (caseInsensitive : Bool)

theorem quoted?_textLiteral (oneLine : '\n' ∉ text.toList) :
    quoted? (textLiteral text caseInsensitive) =
      some (Quoted.escape text.toList, caseInsensitive) := by
  apply (enclosed?_eq_some_iff (by decide)).mpr
  constructor
  · rwa [isOneLine_iff, mem_escape_iff (by decide)]
  · simp only [textLiteral, quote, List.cons_append, List.append_assoc,
      List.nil_append]

theorem exists_likeLiteral_eq (like : LikePattern) :
    ∃ first rest,
      likeLiteral like caseInsensitive = first :: rest ∧ first ∈ ['"', '%'] := by
  cases left : like.wildcardLeft with
  | false =>
      simp only [likeLiteral, left, modifier, quote, Bool.false_eq_true,
        if_false, List.nil_append, List.cons_append]
      exact ⟨_, _, rfl, by decide⟩
  | true =>
      simp only [likeLiteral, left, modifier, if_true, List.cons_append]
      exact ⟨_, _, rfl, by decide⟩

/-- A wildcard keeps a like pattern from being a text. -/
theorem quoted?_likeLiteral
    (wildcard : (like.wildcardLeft || like.wildcardRight) = true) :
    quoted? (likeLiteral like caseInsensitive) = none := by
  cases left : like.wildcardLeft with
  | true =>
      simp only [likeLiteral, left, modifier, if_true, quoted?]
      exact enclosed?_eq_none_of_first (by decide)
  | false =>
      rw [left, Bool.false_or] at wildcard
      have atModifier :=
        dropModifier_append (Quoted.escape like.text.toList ++ ['"'])
          caseInsensitive (show '%' ≠ 'i' by decide)
      have whole :
          likeLiteral like caseInsensitive =
            '"' :: (Quoted.escape like.text.toList ++ ['"'] ++
              '%' :: slashModifier caseInsensitive) := by
        simp [likeLiteral, left, wildcard, modifier, quote]
      simp only [whole, quoted?, enclosed?, if_true, atModifier,
        dropMark?_concat]
      rfl

theorem like?_likeLiteral
    (wildcard : (like.wildcardLeft || like.wildcardRight) = true)
    (oneLine : '\n' ∉ like.text.toList) :
    like? (likeLiteral like caseInsensitive) =
      some
        ⟨Quoted.escape like.text.toList, like.wildcardLeft, like.wildcardRight,
          caseInsensitive⟩ := by
  rw [like?_eq_some_iff]
  refine ⟨wildcard, ?_, ?_⟩
  · rwa [isOneLine_iff, mem_escape_iff (by decide)]
  · simp only [likeLiteral, quote, List.cons_append, List.append_assoc,
      List.nil_append]

theorem slashed?_regexpLiteral (oneLine : '\n' ∉ pattern.toList) :
    slashed? (regexpLiteral pattern caseInsensitive) =
      some (pattern.toList, caseInsensitive) := by
  rw [slashed?_eq_some_iff, isOneLine_iff]
  refine ⟨oneLine, ?_⟩
  simp only [regexpLiteral, List.cons_append, List.append_assoc,
    List.nil_append]

end Written

end Literal

/-- Written values are read back. -/
theorem Kind.ofLiteral_written
    {kind : Kind} {caseInsensitive : Bool} {text : String}
    (written : kind.IsWritten caseInsensitive text) :
    ofLiteral text = .ok (kind, caseInsensitive) := by
  cases written with
  | null => rfl
  | boolean value => cases value <;> rfl
  | integer value nonnegative =>
      simp only [ofLiteral, toString_toInt nonnegative, isRun_toString, if_true,
        integer?_toString (toNatClampNeg_lt nonnegative),
        Int64.ofNat_toNatClampNeg value nonnegative]
  | string text caseInsensitive oneLine =>
      obtain ⟨notRun, notDecimal, notNull, notTrue, notFalse⟩ :
          IsMarked (textLiteral text caseInsensitive) :=
        isMarked_cons _ (by decide)
      simp only [ofLiteral, String.toList_ofList, notRun, notDecimal, notNull,
        notTrue, notFalse, quoted?_textLiteral caseInsensitive oneLine,
        quotedText_escape, Bool.false_eq_true, if_false]
      rfl
  | like pattern caseInsensitive nonempty wildcard oneLine =>
      obtain ⟨first, rest, whole, isMark⟩ :=
        exists_likeLiteral_eq caseInsensitive pattern
      obtain ⟨notRun, notDecimal, notNull, notTrue, notFalse⟩ :
          IsMarked (likeLiteral pattern caseInsensitive) := by
        rw [whole]
        exact isMarked_cons _ (List.mem_append_left ['/'] isMark)
      have notList : bracketed? (likeLiteral pattern caseInsensitive) = none := by
        rw [whole]
        apply enclosed?_eq_none_of_first
        rintro rfl
        exact absurd isMark (by decide)
      have read :
          likePattern
              ⟨Quoted.escape pattern.text.toList, pattern.wildcardLeft,
                pattern.wildcardRight, caseInsensitive⟩ = .ok pattern := by
        have notEmpty : pattern.text.isEmpty = false := by
          simpa using nonempty
        simp only [likePattern, quotedText_escape, notEmpty, Bool.false_eq_true,
          if_false]
      simp only [ofLiteral, String.toList_ofList, notRun, notDecimal, notNull,
        notTrue, notFalse, quoted?_likeLiteral caseInsensitive wildcard, notList,
        like?_likeLiteral caseInsensitive wildcard oneLine, read,
        Bool.false_eq_true, if_false]
      rfl
  | regexp pattern caseInsensitive compiles oneLine =>
      obtain ⟨notRun, notDecimal, notNull, notTrue, notFalse⟩ :
          IsMarked (regexpLiteral pattern caseInsensitive) :=
        isMarked_cons _ (by decide)
      have notText : quoted? (regexpLiteral pattern caseInsensitive) = none :=
        enclosed?_eq_none_of_first (by decide)
      have notList : bracketed? (regexpLiteral pattern caseInsensitive) = none :=
        enclosed?_eq_none_of_first (by decide)
      have notLike : like? (regexpLiteral pattern caseInsensitive) = none :=
        like?_eq_none_of_first (by decide)
      have read : regexpText pattern.toList = .ok pattern := by
        simp only [regexpText, String.ofList_toList, compiles]
      simp only [ofLiteral, String.toList_ofList, notRun, notDecimal, notNull,
        notTrue, notFalse, notText, notList, notLike,
        slashed?_regexpLiteral caseInsensitive oneLine, read,
        Bool.false_eq_true, if_false]
      rfl

/-! ## Around the operator -/

/-- What has to hold of the text of a value for a filter to be cut in front of it. -/
structure Literal.IsOperand (characters : List Char) : Prop where
  solid : IsSolid characters
  oneLine : '\n' ∉ characters
  startsNoSymbol : characters.head? ≠ some '='

theorem Literal.isOperand_of_forall
    {characters : List Char} (nonempty : characters ≠ [])
    (plain :
      ∀ character ∈ characters,
        isBlank character = false ∧ character ≠ '\n' ∧ character ≠ '=') :
    IsOperand characters where
  solid := IsSolid.of_forall nonempty fun character member => (plain character member).1
  oneLine := fun member => (plain '\n' member).2.1 rfl
  startsNoSymbol := fun starts =>
    (plain '=' (List.mem_of_mem_head? starts)).2.2 rfl

/-- A mark at the start, and others at the end. -/
theorem Literal.isOperand_of_marks
    {first : Char} {middle last : List Char}
    (starts : first ∈ ['"', '%', '/']) (oneLine : '\n' ∉ middle)
    (nonempty : last ≠ [])
    (ends : ∀ character ∈ last, character ∈ ['"', '%', '/', 'i']) :
    IsOperand ([first] ++ (middle ++ last)) := by
  have atStart :
      ∀ character ∈ ['"', '%', '/'],
        isBlank character = false ∧ character ≠ '\n' ∧ character ≠ '=' :=
    List.all_iff_forall_prop.mp (by decide)
  have atEnd :
      ∀ character ∈ ['"', '%', '/', 'i'],
        isBlank character = false ∧ character ≠ '\n' :=
    List.all_iff_forall_prop.mp (by decide)
  obtain ⟨notBlank, notLineFeed, notSymbol⟩ := atStart first starts
  refine ⟨?_, ?_, ?_⟩
  · apply IsSolid.append
    · apply IsSolid.of_forall (List.cons_ne_nil _ _)
      intro character member
      rw [List.mem_singleton.mp member]
      exact notBlank
    · exact
        IsSolid.of_forall nonempty fun character member =>
          (atEnd character (ends character member)).1
  · intro member
    rcases List.mem_append.mp member with isFirst | others
    · exact notLineFeed (List.mem_singleton.mp isFirst).symm
    · rcases List.mem_append.mp others with inMiddle | inLast
      · exact oneLine inMiddle
      · exact (atEnd _ (ends _ inLast)).2 rfl
  · intro same
    exact notSymbol (Option.some.inj same)

/-- The text of a written value. -/
theorem Kind.IsWritten.isOperand
    {kind : Kind} {caseInsensitive : Bool} {text : String}
    (written : kind.IsWritten caseInsensitive text) :
    IsOperand text.toList := by
  cases written with
  | null =>
      exact isOperand_of_forall (by decide) (List.all_iff_forall_prop.mp (by decide))
  | boolean value =>
      cases value with
      | false =>
          exact
            isOperand_of_forall (by decide) (List.all_iff_forall_prop.mp (by decide))
      | true =>
          exact
            isOperand_of_forall (by decide) (List.all_iff_forall_prop.mp (by decide))
  | integer value nonnegative =>
      rw [toString_toInt nonnegative]
      apply isOperand_of_forall (Digits.toList_toString_ne_nil _)
      intro character member
      have isDigit : character.isDigit = true := Digits.isDigit_of_mem_toString member
      refine ⟨isBlank_of_isDigit isDigit, ?_, ?_⟩
      · rintro rfl
        exact absurd isDigit (by decide)
      · rintro rfl
        exact absurd isDigit (by decide)
  | string text caseInsensitive oneLine =>
      have escaped : '\n' ∉ Quoted.escape text.toList := by
        rwa [mem_escape_iff (by decide)]
      rw [String.toList_ofList]
      have operand :=
        isOperand_of_marks (show '"' ∈ ['"', '%', '/'] by decide) escaped
          (List.cons_ne_nil '"' (modifier ['/', 'i'] caseInsensitive))
          (List.all_iff_forall_prop.mp (by cases caseInsensitive <;> decide))
      simpa [textLiteral, quote] using operand
  | like pattern caseInsensitive nonempty wildcard oneLine =>
      have escaped : '\n' ∉ Quoted.escape pattern.text.toList := by
        rwa [mem_escape_iff (by decide)]
      have ends :
          ∀ character ∈
              '"' :: (modifier ['%'] pattern.wildcardRight ++
                modifier ['/', 'i'] caseInsensitive),
            character ∈ ['"', '%', '/', 'i'] := by
        refine List.all_iff_forall_prop.mp ?_
        cases pattern.wildcardRight <;> cases caseInsensitive <;> decide
      rw [String.toList_ofList]
      cases left : pattern.wildcardLeft with
      | false =>
          have operand :=
            isOperand_of_marks (show '"' ∈ ['"', '%', '/'] by decide) escaped
              (List.cons_ne_nil _ _) ends
          simpa [likeLiteral, quote, left, modifier] using operand
      | true =>
          have quoted : '\n' ∉ '"' :: Quoted.escape pattern.text.toList := by
            rw [List.mem_cons, not_or]
            exact ⟨by decide, escaped⟩
          have operand :=
            isOperand_of_marks (show '%' ∈ ['"', '%', '/'] by decide) quoted
              (List.cons_ne_nil _ _) ends
          simpa [likeLiteral, quote, left, modifier] using operand
  | regexp pattern caseInsensitive compiles oneLine =>
      rw [String.toList_ofList]
      have operand :=
        isOperand_of_marks (show '/' ∈ ['"', '%', '/'] by decide) oneLine
          (List.cons_ne_nil '/' (modifier ['i'] caseInsensitive))
          (List.all_iff_forall_prop.mp (by cases caseInsensitive <;> decide))
      simpa [regexpLiteral] using operand

namespace Filter

/-- A key that filters can be written with: it does not start or end with a blank, and
holds no symbol of an operator, nor the start of one at its end. -/
structure IsKey (key : String) : Prop where
  solid : IsSolid key.toList
  plain : ∀ character ∈ key.toList, character ∉ ['=', '<', '>', '\n']
  notDenied : key.toList.getLast? ≠ some '!'

/-- A text is cut at its first symbol. -/
theorem splitAtOperator?_append
    {key rest : List Char} (operator : Operator)
    (noSymbol : ∀ character ∈ key, character ∉ ['=', '<', '>'])
    (notDenied : key.getLast? ≠ some '!') (ends : rest.head? ≠ some '=') :
    splitAtOperator? (key ++ (operator.symbol.toList ++ rest)) =
      some (key, operator.symbol, rest) :=
  splitAtOperator?_eq_some_iff.mpr
    ⟨operator, rfl, rfl, noSymbol, fun _ => notDenied, fun _ => ends⟩

/-- A filter that is written as key, operator and value is read back unchanged.  The index
of its entry is only named by failures, so this holds under every index. -/
theorem parse_written
    {key text : String} {operator : Operator} {kind : Kind}
    {caseInsensitive : Bool} (isKey : IsKey key)
    (legal : operator ∈ kind.filterType.legalOperators)
    (written : kind.IsWritten caseInsensitive text) :
    parse (key ++ operator.symbol ++ text) =
      .ok
        { expression := key ++ operator.symbol ++ text
          key, operator, kind, caseInsensitive } := by
  obtain ⟨textSolid, textOneLine, startsNoSymbol⟩ := written.isOperand
  have whole :
      (key ++ operator.symbol ++ text).toList =
        key.toList ++ (operator.symbol.toList ++ text.toList) := by
    rw [String.toList_append, String.toList_append, List.append_assoc]
  have noSymbol : ∀ character ∈ key.toList, character ∉ ['=', '<', '>'] :=
    fun character member isSymbol =>
      isKey.plain character member (List.mem_append_left ['\n'] isSymbol)
  have cut := splitAtOperator?_append operator noSymbol isKey.notDenied startsNoSymbol
  have oneLine :
      isOneLine (key.toList ++ (operator.symbol.toList ++ text.toList)) =
        true := by
    rw [isOneLine_iff, List.mem_append, List.mem_append, not_or, not_or]
    refine ⟨?_, ?_, textOneLine⟩
    · exact fun member => isKey.plain '\n' member (by decide)
    · cases operator <;> decide
  have keyNotEmpty : key.isEmpty = false := by
    simpa using isKey.solid.ne_nil
  have textNotEmpty : text.isEmpty = false := by
    simpa using textSolid.ne_nil
  have accepted : kind.filterType.accepts operator = true :=
    List.contains_iff_mem.mpr legal
  have kept :
      (caseInsensitive && kind.filterType.supportsCaseInsensitivity) =
        caseInsensitive := by
    cases written <;> simp [Kind.filterType, FilterType.supportsCaseInsensitivity]
  simp only [parse, whole, cut, oneLine, isKey.solid.trim_eq, textSolid.trim_eq,
    String.ofList_toList, keyNotEmpty, textNotEmpty, Operator.ofSymbol?_symbol,
    Kind.ofLiteral_written written, Bool.not_true, Bool.false_eq_true, if_false]
  simp only [make, bind, Except.bind, accepted, if_true, kept, Outcome.mapError_ok]

/-- A key with a blank and a mark in it, and a like pattern that has the looks of other
parts. -/
theorem parse_written_like :
    IsKey "user !name" ∧
      Operator.notEqual ∈ FilterType.like.legalOperators ∧
      (Kind.like ⟨"5% \"off\"=/i", true, false⟩).IsWritten true
        "%\"5% \\\"off\\\"=/i\"/i" ∧
      parse "user !name!=%\"5% \\\"off\\\"=/i\"/i" =
        .ok
          { expression := "user !name!=%\"5% \\\"off\\\"=/i\"/i"
            key := "user !name"
            operator := .notEqual
            kind := .like ⟨"5% \"off\"=/i", true, false⟩
            caseInsensitive := true } := by
  have isKey : IsKey "user !name" :=
    { solid :=
        ⟨⟨'u', "ser !name".toList, by decide, by decide⟩,
          ⟨"user !nam".toList, 'e', by decide, by decide⟩⟩
      plain := List.all_iff_forall_prop.mp (by decide)
      notDenied := by decide }
  have written :
      (Kind.like ⟨"5% \"off\"=/i", true, false⟩).IsWritten true
        "%\"5% \\\"off\\\"=/i\"/i" :=
    .like ⟨"5% \"off\"=/i", true, false⟩ true (by decide) rfl (by decide)
  have legal : Operator.notEqual ∈
      (Kind.like ⟨"5% \"off\"=/i", true, false⟩).filterType.legalOperators := by
    decide
  have read := parse_written isKey legal written
  exact ⟨isKey, legal, written, read⟩

end Filter

end FilterQuery
