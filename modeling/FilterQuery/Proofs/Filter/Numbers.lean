import FilterQuery.Proofs.Filter.ListLiterals
import FilterQuery.Proofs.Number.Decimals

/-!
# The range of numbers in literals

Integers are read exactly or not at all, alone and as elements of lists.  Decimals are always read,
and those that are too large become infinite.

* `Kind.ofLiteral_listLiteral`: what is in brackets is read as a list;
* `IsRunAmong` says where in a list a run of digits is an element, and `IsRunAmong.elements_eq` that
  the elements before it are read first;
* `Kind.exists_decimal_of_hasFloat`: the floating-point numbers of a value are decimals in its
  literal;
* `Kind.ofLiteral_limits_integers` puts this together;
* `Kind.ofLiteral_infinite`: a decimal of 311 digits is read as infinity, alone and in a list.
-/

namespace FilterQuery

open FilterQuery.Text FilterQuery.Literal

/-! ## Integers -/

namespace Literal

variable {digits : List Char}

theorem exists_integer?_eq
    (isRun : Digits.isRun digits = true) (bounded : Digits.value digits < Digits.integerBound) :
    ∃ number, integer? digits = some number ∧ number.toInt = Digits.value digits := by
  have exactly : (Int64.ofNat (Digits.value digits)).toInt = Digits.value digits :=
    Int64.toInt_ofNat_of_lt bounded
  exact ⟨_, integer?_eq_some_iff.mpr ⟨isRun, bounded, exactly⟩, exactly⟩

theorem integer?_eq_none (large : Digits.integerBound ≤ Digits.value digits) :
    integer? digits = none := by
  rw [Option.eq_none_iff_forall_ne_some]
  intro number isInteger
  obtain ⟨_, bounded, _⟩ := integer?_eq_some_iff.mp isInteger
  exact Nat.not_lt.mpr large bounded

end Literal

namespace Kind

/-- A run of digits is the integer that it denotes, or out of range. -/
theorem ofLiteral_of_isRun {text : String} (isRun : Digits.isRun text.toList = true) :
    ofLiteral text =
      match integer? text.toList with
      | none => .error (.integerOutOfRange text)
      | some number => .ok (.integer number, false) := by
  cases isInteger : integer? text.toList with
  | none => simp only [ofLiteral, isRun, if_true, isInteger]
  | some number => simp only [ofLiteral, isRun, if_true, isInteger]

/-! ## Lists in brackets -/

/-- A list in brackets, which the modifier may follow. -/
def listLiteral (inner : List Char) (caseInsensitive : Bool) : String :=
  String.ofList ('[' :: (inner ++ ']' :: slashModifier caseInsensitive))

/-- What is in brackets on one line is read as a list. -/
theorem ofLiteral_listLiteral (inner : List Char) (caseInsensitive : Bool) :
    ofLiteral (listLiteral inner caseInsensitive) =
      if isOneLine inner then
        (elements inner).map fun items => (.inList items, caseInsensitive)
      else .error (.unsupported (listLiteral inner caseInsensitive)) := by
  obtain ⟨notRun, notDecimal, notNull, notTrue, notFalse⟩ :
      IsMarked ('[' :: (inner ++ ']' :: slashModifier caseInsensitive)) :=
    isMarked_of_first _ rfl (by decide)
  have notText :
      quoted? ('[' :: (inner ++ ']' :: slashModifier caseInsensitive)) = none :=
    enclosed?_eq_none_of_first (by decide)
  have isShape :
      bracketed? ('[' :: (inner ++ ']' :: slashModifier caseInsensitive)) =
        if isOneLine inner then some (inner, caseInsensitive) else none :=
    enclosed?_append inner caseInsensitive (by decide)
  have notPattern :
      like? ('[' :: (inner ++ ']' :: slashModifier caseInsensitive)) = none :=
    like?_eq_none_of_first (by decide)
  have notSlashed :
      slashed? ('[' :: (inner ++ ']' :: slashModifier caseInsensitive)) = none := rfl
  simp only [ofLiteral, listLiteral, String.toList_ofList, notRun, notDecimal, notNull, notTrue,
    notFalse, notText, isShape, Bool.false_eq_true, if_false]
  cases isOneLine inner with
  | true => rfl
  | false =>
      simp only [Bool.false_eq_true, if_false, notPattern, notSlashed]

end Kind

/-! ## Runs of digits in lists -/

namespace Literal

variable {inner digits rest characters : List Char} {value : Value} {values items : List Value}
  {index : Nat}

/-- In what stands between brackets, the digits are an element behind elements with the given
values, and the rest follows them. -/
def IsRunAmong (inner : List Char) (values : List Value) (digits rest : List Char) : Prop :=
  ∃ parts before after,
    List.Forall₂ IsPart parts values ∧ before.all isBlank = true ∧ after.all isBlank = true ∧
      Digits.isRun digits = true ∧ EndsElement rest ∧
      inner = parts.flatMap (· ++ [',']) ++ (before ++ (digits ++ (after ++ rest)))

theorem IsRunAmong.isRun (among : IsRunAmong inner values digits rest) :
    Digits.isRun digits = true := by
  obtain ⟨_, _, _, _, _, _, isRun, _⟩ := among
  exact isRun

/-- What follows an element: the end of the list, or a comma and more elements with the given
values. -/
def ContinuesList (rest : List Char) (later : List Value) : Prop :=
  EndsList rest ∧ later = [] ∨ ∃ more, rest = ',' :: more ∧ IsElementList more later

/-- A run of digits is read up to the next comma, and is the integer that it denotes. -/
theorem element_append_of_isRun
    {after : List Char} (isRun : Digits.isRun digits = true) (blanks : after.all isBlank = true)
    (ends : EndsElement rest) (index : Nat) :
    element index (digits ++ (after ++ rest)) =
      match integer? digits with
      | none => .error (.illegalElement (String.ofList digits) index)
      | some number => .ok (.integer number, rest) := by
  have isSolid := IsSolid.of_isRun isRun
  obtain ⟨first, others, rfl, areDigits⟩ := Digits.exists_digit_of_isRun isRun
  have notDigit :
      ∀ mark : Char, mark.isDigit = false → ∀ digit ∈ first :: others, digit ≠ mark := by
    rintro _ isOther digit member rfl
    rw [areDigits digit member] at isOther
    cases isOther
  obtain ⟨isTrimmed, isRest⟩ :=
    trim_takeWhile_append isSolid (notDigit ',' rfl) blanks ends
  have noQuote : ∀ following, first :: others ++ (after ++ rest) ≠ '"' :: following := by
    intro following same
    exact notDigit '"' rfl first List.mem_cons_self (List.cons.inj same).1
  rw [element_of_ne_quote noQuote, isTrimmed, isRest, scalar?_of_isRun isRun]
  cases integer? (first :: others) <;> rfl

/-- The loop goes on behind an element if something follows its comma. -/
theorem elementsFrom_eq_ok_iff
    (oneLine : '\n' ∉ rest) (ends : EndsElement rest)
    (read : element index (trimStart characters) = .ok (value, rest)) :
    elementsFrom index characters = .ok items ↔
      ∃ later, ContinuesList rest later ∧ items = value :: later := by
  rw [elementsFrom_eq read, ends.trimStart_eq]
  cases rest with
  | nil =>
      constructor
      · intro same
        cases same
        exact ⟨[], .inl ⟨.inl rfl, rfl⟩, rfl⟩
      · rintro ⟨later, ⟨_, rfl⟩ | ⟨_, isComma, _⟩, rfl⟩
        · rfl
        · cases isComma
  | cons next more =>
      obtain rfl := ends next rfl
      have moreOneLine : '\n' ∉ more := fun member => oneLine (List.mem_cons_of_mem _ member)
      by_cases blanks : more.all isBlank = true
      · simp only [if_pos blanks]
        constructor
        · intro same
          cases same
          exact ⟨[], .inl ⟨.inr ⟨more, blanks, rfl⟩, rfl⟩, rfl⟩
        · rintro ⟨later, ⟨_, rfl⟩ | ⟨others, isComma, isList⟩, rfl⟩
          · rfl
          · cases isComma
            exact absurd blanks isList.not_all_isBlank
      · simp only [if_neg blanks, Outcome.map_eq_ok_iff]
        constructor
        · rintro ⟨later, readLater, rfl⟩
          exact
            ⟨later, .inr ⟨more, rfl, isElementList_of_elementsFrom moreOneLine readLater⟩, rfl⟩
        · rintro ⟨later, ⟨isEnd, _⟩ | ⟨others, isComma, isList⟩, rfl⟩
          · rcases isEnd with isNil | ⟨others, areBlanks, isComma⟩
            · cases isNil
            · cases isComma
              exact absurd areBlanks blanks
          · cases isComma
            exact ⟨later, isList.elementsFrom_eq _, rfl⟩

/-- Elements with commas behind them are read one after the other. -/
theorem elementsFrom_flatMap_append
    {parts : List (List Char)} (areParts : List.Forall₂ IsPart parts values)
    (notBlank : ¬rest.all isBlank = true) (index : Nat) :
    elementsFrom index (parts.flatMap (· ++ [',']) ++ rest) =
      (elementsFrom (index + parts.length) rest).map (values ++ ·) := by
  induction areParts generalizing index with
  | nil =>
      rw [List.flatMap_nil, List.nil_append, List.length_nil, Nat.add_zero]
      cases elementsFrom index rest <;> rfl
  | @cons part value parts values isPart _ inductionHypothesis =>
      have whole :
          (part :: parts).flatMap (· ++ [',']) ++ rest =
            part ++ ',' :: (parts.flatMap (· ++ [',']) ++ rest) := by
        simp
      have restNotBlank : ¬(parts.flatMap (· ++ [',']) ++ rest).all isBlank = true := by
        rw [List.all_append, Bool.and_eq_true]
        exact fun blanks => notBlank blanks.2
      obtain ⟨following, read, isRest⟩ := isPart.element_append (endsElement_comma _) index
      rw [whole, elementsFrom_eq read, isRest]
      simp only [if_neg restNotBlank, inductionHypothesis]
      rw [List.length_cons, Nat.add_assoc, Nat.add_comm 1]
      cases elementsFrom (index + (parts.length + 1)) rest <;> rfl

/-- A run of digits among the elements is read behind those before it. -/
theorem IsRunAmong.elements_eq (among : IsRunAmong inner values digits rest) :
    ∃ characters,
      elements inner = (elementsFrom values.length characters).map (values ++ ·) ∧
        element values.length (trimStart characters) =
          match integer? digits with
          | none => .error (.illegalElement (String.ofList digits) values.length)
          | some number => .ok (.integer number, rest) := by
  obtain ⟨parts, before, after, areParts, blanksBefore, blanksAfter, isRun, ends, rfl⟩ := among
  have isSolid := IsSolid.of_isRun isRun
  have notBlank : ¬(before ++ (digits ++ (after ++ rest))).all isBlank = true := by
    obtain ⟨first, others, rfl, isInk⟩ := isSolid.first
    simp [isInk]
  refine ⟨before ++ (digits ++ (after ++ rest)), ?_, ?_⟩
  · rw [elements, if_neg, elementsFrom_flatMap_append areParts notBlank, areParts.length_eq,
      Nat.zero_add]
    rw [List.all_append, Bool.and_eq_true]
    exact fun blanks => notBlank blanks.2
  · rw [trimStart_append blanksBefore, isSolid.trimStart_append]
    exact element_append_of_isRun isRun blanksAfter ends _

/-- A list in which the digits denote an integer is read as far as the elements behind it are. -/
theorem IsRunAmong.elements_eq_ok_iff
    {number : Int64} (among : IsRunAmong inner values digits rest) (oneLine : '\n' ∉ inner)
    (isInteger : integer? digits = some number) :
    elements inner = .ok items ↔
      ∃ later, ContinuesList rest later ∧ items = values ++ .integer number :: later := by
  obtain ⟨characters, isRead, isElement⟩ := among.elements_eq
  obtain ⟨parts, before, after, _, _, _, _, ends, rfl⟩ := among
  have restOneLine : '\n' ∉ rest := fun member => oneLine (by simp [member])
  rw [isInteger] at isElement
  rw [isRead, Outcome.map_eq_ok_iff]
  simp only [elementsFrom_eq_ok_iff restOneLine ends isElement]
  constructor
  · rintro ⟨_, ⟨later, continues, rfl⟩, rfl⟩
    exact ⟨later, continues, rfl⟩
  · rintro ⟨later, continues, rfl⟩
    exact ⟨_, ⟨later, continues, rfl⟩, rfl⟩

theorem IsRunAmong.elements_eq_error
    (among : IsRunAmong inner values digits rest) (outOfRange : integer? digits = none) :
    elements inner = .error (.illegalElement (String.ofList digits) values.length) := by
  obtain ⟨characters, isRead, isElement⟩ := among.elements_eq
  rw [outOfRange] at isElement
  rw [isRead, elementsFrom_of_element_eq_error isElement]
  rfl

end Literal

namespace Kind

variable {inner digits rest : List Char} {values : List Value} {number : Int64}
  {caseInsensitive modified : Bool} {kind : Kind}

theorem ofLiteral_eq_ok_iff_of_isRunAmong
    (among : IsRunAmong inner values digits rest) (isInteger : integer? digits = some number) :
    ofLiteral (listLiteral inner caseInsensitive) = .ok (kind, modified) ↔
      '\n' ∉ inner ∧ modified = caseInsensitive ∧
        ∃ later,
          ContinuesList rest later ∧ kind = .inList (values ++ .integer number :: later) := by
  rw [ofLiteral_listLiteral, ← isOneLine_iff]
  by_cases oneLine : isOneLine inner = true
  · simp only [if_pos oneLine, Outcome.map_eq_ok_iff,
      among.elements_eq_ok_iff (isOneLine_iff.mp oneLine) isInteger]
    constructor
    · rintro ⟨items, ⟨later, continues, rfl⟩, same⟩
      cases same
      exact ⟨oneLine, rfl, later, continues, rfl⟩
    · rintro ⟨_, rfl, later, continues, rfl⟩
      exact ⟨_, ⟨later, continues, rfl⟩, rfl⟩
  · rw [if_neg oneLine]
    exact iff_of_false nofun fun ⟨isOneLine, _⟩ => oneLine isOneLine

theorem ofLiteral_eq_error_of_isRunAmong
    (among : IsRunAmong inner values digits rest) (outOfRange : integer? digits = none)
    (caseInsensitive : Bool) :
    ofLiteral (listLiteral inner caseInsensitive) =
      .error
        (if '\n' ∈ inner then .unsupported (listLiteral inner caseInsensitive)
        else .illegalElement (String.ofList digits) values.length) := by
  rw [ofLiteral_listLiteral, among.elements_eq_error outOfRange]
  by_cases hasLineFeed : '\n' ∈ inner
  · have notOneLine : ¬isOneLine inner = true := fun oneLine => isOneLine_iff.mp oneLine hasLineFeed
    rw [if_neg notOneLine, if_pos hasLineFeed]
  · rw [if_pos (isOneLine_iff.mpr hasLineFeed), if_neg hasLineFeed]
    rfl

end Kind

/-! ## Decimals -/

namespace Kind

variable {text : String} {whole fraction : List Char} {kind : Kind} {modified : Bool}
  {number : Float}

/-- Digits with a point between them are always read. -/
theorem ofLiteral_decimal
    (wholeIsRun : Digits.isRun whole = true) (fractionIsRun : Digits.isRun fraction = true)
    (isText : text.toList = whole ++ '.' :: fraction) :
    ofLiteral text = .ok (.float (Decimal.ofFixed whole fraction), false) := by
  have notRun : Digits.isRun (whole ++ '.' :: fraction) = false := by
    simp [Digits.isRun]
  have isDecimal := decimal?_append wholeIsRun fractionIsRun
  simp only [ofLiteral, isText, notRun, isDecimal, Bool.false_eq_true, if_false]

/-- A floating-point number of a value: the value itself, or an element of the list. -/
def HasFloat (kind : Kind) (number : Float) : Prop :=
  kind = .float number ∨ ∃ items, kind = .inList items ∧ .float number ∈ items

theorem exists_decimal_of_ofLiteral_float
    (read : ofLiteral text = .ok (.float number, modified)) :
    ∃ whole fraction,
      Digits.isRun whole = true ∧ Digits.isRun fraction = true ∧
        text.toList = whole ++ '.' :: fraction ∧ number = Decimal.ofFixed whole fraction := by
  have shape := isRead_of_ofLiteral read
  generalize isFloat : Kind.float number = kind at shape
  cases shape with
  | @float whole fraction _ isDecimal =>
      cases isFloat
      obtain ⟨isText, wholeIsRun, fractionIsRun⟩ := eq_append_of_decimal? isDecimal
      exact ⟨whole, fraction, wholeIsRun, fractionIsRun, isText, rfl⟩
  | integer | null | boolean | string | inList | like | regexp => cases isFloat

end Kind

namespace Literal

theorem IsElement.ofLiteral_float
    {token : List Char} {number : Float} (isElement : IsElement token (.float number)) :
    Kind.ofLiteral (String.ofList token) = .ok (.float number, false) := by
  obtain ⟨kind, read, isSingle, isValue⟩ := isElement
  cases kind with
  | float =>
      cases isValue
      exact read
  | null | boolean | integer | string | like | inList | regexp => cases isValue

/-- Every element stands in the list. -/
theorem exists_isElement_of_forall₂
    {parts : List (List Char)} {values : List Value} {value : Value}
    (areParts : List.Forall₂ IsPart parts values) (member : value ∈ values) :
    ∃ token, IsElement token value ∧ token <:+: [','].intercalate parts := by
  induction areParts with
  | nil => cases member
  | @cons part first parts values isPart areParts inductionHypothesis =>
      rcases List.mem_cons.mp member with rfl | inRest
      · obtain ⟨before, token, after, _, _, isElement, rfl⟩ := isPart
        have inPart : token <:+: before ++ (token ++ after) := ⟨before, after, List.append_assoc ..⟩
        refine ⟨token, isElement, inPart.trans ?_⟩
        cases parts with
        | nil => rw [List.intercalate_singleton]
        | cons next others =>
            rw [List.intercalate_cons_cons, List.append_assoc]
            exact (List.prefix_append _ _).isInfix
      · obtain ⟨token, isElement, stands⟩ := inductionHypothesis inRest
        have nonempty : parts ≠ [] := by
          rintro rfl
          rw [List.forall₂_nil_left_iff.mp areParts] at inRest
          cases inRest
        refine ⟨token, isElement, stands.trans ?_⟩
        rw [List.intercalate_cons_of_ne_nil nonempty]
        exact (List.suffix_append _ _).isInfix

end Literal

namespace Kind

variable {text : String} {kind : Kind} {modified : Bool} {number : Float}

/-- The floating-point numbers of a value are decimals that stand in its literal. -/
theorem exists_decimal_of_hasFloat
    (read : ofLiteral text = .ok (kind, modified)) (hasFloat : kind.HasFloat number) :
    ∃ whole fraction,
      Digits.isRun whole = true ∧ Digits.isRun fraction = true ∧
        whole ++ '.' :: fraction <:+: text.toList ∧ number = Decimal.ofFixed whole fraction := by
  rcases hasFloat with rfl | ⟨items, rfl, member⟩
  · obtain ⟨whole, fraction, wholeIsRun, fractionIsRun, isText, same⟩ :=
      exists_decimal_of_ofLiteral_float read
    exact ⟨whole, fraction, wholeIsRun, fractionIsRun, isText ▸ List.infix_rfl, same⟩
  · have shape := isRead_of_ofLiteral read
    cases shape with
    | @inList inner _ _ isShape areElements =>
        obtain ⟨oneLine, isText⟩ := (enclosed?_eq_some_iff (by decide)).mp isShape
        obtain ⟨parts, ending, _, areParts, _, rfl⟩ :=
          (elements_eq_ok_iff (isOneLine_iff.mp oneLine)).mp areElements
        obtain ⟨token, isElement, stands⟩ := exists_isElement_of_forall₂ areParts member
        obtain ⟨whole, fraction, wholeIsRun, fractionIsRun, isToken, same⟩ :=
          exists_decimal_of_ofLiteral_float isElement.ofLiteral_float
        rw [String.toList_ofList] at isToken
        refine ⟨whole, fraction, wholeIsRun, fractionIsRun, ?_, same⟩
        rw [← isToken, isText]
        exact
          (stands.trans (List.prefix_append _ ending).isInfix).trans
            ⟨['['], ']' :: slashModifier modified, by simp⟩

/-! ## Both kinds of numbers -/

/-- Integers are limited, alone and as elements of lists.  Digits that denote a number below
`2 ^ 63` are this number, however many zeros are in front, and a list with them in it is read as far
as the elements behind them are.  Other digits are refused, and lists with them in it.  Digits with
a point between them are always read, as a number that is finite exactly if they denote less than
`Number.overflowBound`, and no other floating-point numbers are read. -/
theorem ofLiteral_limits_integers (text : String) :
    (Digits.isRun text.toList = true →
      (Digits.value text.toList < 2 ^ 63 →
        ∃ number : Int64,
          number.toInt = Digits.value text.toList ∧
            ofLiteral text = .ok (.integer number, false)) ∧
      (2 ^ 63 ≤ Digits.value text.toList →
        ofLiteral text = .error (.integerOutOfRange text))) ∧
    (∀ inner values digits rest caseInsensitive,
      text = listLiteral inner caseInsensitive → IsRunAmong inner values digits rest →
        (Digits.value digits < 2 ^ 63 →
          ∃ number : Int64,
            number.toInt = Digits.value digits ∧
              ∀ kind modified,
                ofLiteral text = .ok (kind, modified) ↔
                  '\n' ∉ inner ∧ modified = caseInsensitive ∧
                    ∃ later,
                      ContinuesList rest later ∧
                        kind = .inList (values ++ .integer number :: later)) ∧
        (2 ^ 63 ≤ Digits.value digits →
          ofLiteral text =
            .error
              (if '\n' ∈ inner then .unsupported text
              else .illegalElement (String.ofList digits) values.length))) ∧
    (∀ whole fraction,
      Digits.isRun whole = true → Digits.isRun fraction = true →
        text.toList = whole ++ '.' :: fraction →
          ofLiteral text = .ok (.float (Decimal.ofFixed whole fraction), false)) ∧
    (∀ kind modified number,
      ofLiteral text = .ok (kind, modified) → kind.HasFloat number →
        ∃ whole fraction,
          Digits.isRun whole = true ∧ Digits.isRun fraction = true ∧
            whole ++ '.' :: fraction <:+: text.toList ∧
            number = Decimal.ofFixed whole fraction ∧
            (number.isFinite = true ↔
              (Digits.value (whole ++ fraction) : ℚ) / 10 ^ fraction.length <
                Number.overflowBound)) := by
  refine ⟨?_, ?_, ?_, ?_⟩
  · intro isRun
    rw [ofLiteral_of_isRun isRun]
    constructor
    · intro bounded
      obtain ⟨number, isInteger, exactly⟩ := exists_integer?_eq isRun bounded
      exact ⟨number, exactly, by rw [isInteger]⟩
    · intro large
      rw [integer?_eq_none large]
  · rintro inner values digits rest caseInsensitive rfl among
    constructor
    · intro bounded
      obtain ⟨number, isInteger, exactly⟩ := exists_integer?_eq among.isRun bounded
      exact
        ⟨number, exactly, fun kind modified => ofLiteral_eq_ok_iff_of_isRunAmong among isInteger⟩
    · intro large
      exact ofLiteral_eq_error_of_isRunAmong among (integer?_eq_none large) caseInsensitive
  · intro whole fraction wholeIsRun fractionIsRun isText
    exact ofLiteral_decimal wholeIsRun fractionIsRun isText
  · intro kind modified number read hasFloat
    obtain ⟨whole, fraction, wholeIsRun, fractionIsRun, stands, rfl⟩ :=
      exists_decimal_of_hasFloat read hasFloat
    exact
      ⟨whole, fraction, wholeIsRun, fractionIsRun, stands, rfl,
        Number.isFinite_ofFixed_iff whole fractionIsRun⟩

/-- A list whose second element denotes `2 ^ 63` is refused. -/
theorem ofLiteral_limits_integers_second :
    IsRunAmong "null, 9223372036854775808, 1".toList [.null] "9223372036854775808".toList
        ", 1".toList ∧
      2 ^ 63 ≤ Digits.value "9223372036854775808".toList ∧
      ofLiteral "[null, 9223372036854775808, 1]/i" =
        .error (.illegalElement "9223372036854775808" 1) := by
  have isNull : IsPart "null".toList .null :=
    ⟨[], "null".toList, [], rfl, rfl, ⟨.null, rfl, by decide, rfl⟩, rfl⟩
  have among :
      IsRunAmong "null, 9223372036854775808, 1".toList [.null] "9223372036854775808".toList
        ", 1".toList :=
    ⟨["null".toList], [' '], [], .cons isNull .nil, rfl, rfl, by decide,
      endsElement_comma _, rfl⟩
  have large : 2 ^ 63 ≤ Digits.value "9223372036854775808".toList := by decide
  exact
    ⟨among, large, ((ofLiteral_limits_integers _).2.1 _ _ _ _ true rfl among).2 large⟩

/-- A decimal of 311 digits. -/
def largeDecimal : List Char := '1' :: List.replicate 309 '0' ++ ['.', '0']

/-- The decimal is read as infinity, alone and as an element of a list. -/
theorem ofLiteral_infinite :
    ∃ number : Float,
      number.isFinite = false ∧
        ofLiteral (String.ofList largeDecimal) = .ok (.float number, false) ∧
        ofLiteral (listLiteral largeDecimal false) = .ok (.inList [.float number], false) := by
  have read :
      ofLiteral (String.ofList largeDecimal) =
        .ok (.float (Decimal.ofFixed ('1' :: List.replicate 309 '0') ['0']), false) :=
    ofLiteral_decimal (by decide +kernel) rfl String.toList_ofList
  have isPart :
      IsPart largeDecimal (.float (Decimal.ofFixed ('1' :: List.replicate 309 '0') ['0'])) :=
    ⟨[], largeDecimal, [], rfl, rfl, ⟨_, read, by simp [filterType], rfl⟩, by simp⟩
  refine ⟨_, ?_, read, ?_⟩
  · rw [← Bool.not_eq_true, Number.isFinite_ofFixed_iff _ rfl, not_lt]
    have value : Digits.value ('1' :: List.replicate 309 '0' ++ ['0']) = 10 ^ 309 * 10 := by
      decide +kernel
    have large : (2 : ℚ) ^ 1024 ≤ 10 ^ 309 := by
      have inNaturals : 2 ^ 1024 ≤ 10 ^ 309 := by decide +kernel
      exact_mod_cast inNaturals
    calc
      Number.overflowBound ≤ 2 ^ 1024 := Number.overflowBound_le
      _ ≤ 10 ^ 309 := large
      _ = _ := by
        rw [value, Nat.cast_mul, Nat.cast_pow, List.length_singleton, pow_one, Nat.cast_ofNat,
          mul_div_cancel_right₀ _ (by norm_num)]
  · have oneLine : isOneLine largeDecimal = true := by decide +kernel
    have isList :
        IsElementList largeDecimal
          [.float (Decimal.ofFixed ('1' :: List.replicate 309 '0') ['0'])] := by
      rw [← List.append_nil largeDecimal]
      exact isPart.isElementList (.inl rfl)
    rw [ofLiteral_listLiteral, if_pos oneLine,
      (elements_eq_ok_iff (isOneLine_iff.mp oneLine)).mpr isList]
    rfl

end Kind

end FilterQuery
