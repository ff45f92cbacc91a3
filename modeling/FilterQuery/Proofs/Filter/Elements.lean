import FilterQuery.Proofs.Filter.Reading
import FilterQuery.Proofs.Filter.Writing
import FilterQuery.Proofs.Text.Quoted
import Mathlib.Data.List.Forall2

/-!
# Elements of lists are literals

A list is read by a loop of its own, which looks for the closing quote of a text or for the next
comma.  Still its elements are exactly the literals that stand for a single value.

* `isElement_iff` says which literals these are: those that a list knows without quotes, and texts
  in quotes;
* `IsElement.element_append`: such a literal is read as an element, whatever blanks and commas
  follow it;
* `exists_isElement_of_element`: nothing else is read as an element.
-/

namespace FilterQuery

open FilterQuery.Text FilterQuery.Literal

namespace Literal

/-! ## One element -/

/-- The token is the literal of a single value, without a modifier. -/
def IsElement (token : List Char) (value : Value) : Prop :=
  ∃ kind,
    Kind.ofLiteral (String.ofList token) = .ok (kind, false) ∧
      kind.filterType ∈ [.null, .boolean, .integer, .float, .string] ∧ kind.value = value

/-- The token is a text in double quotes, without a modifier. -/
def IsQuoted (token : List Char) (value : Value) : Prop :=
  ∃ inner text,
    token = '"' :: (inner ++ ['"']) ∧ isOneLine inner = true ∧
      Quoted.unescape? inner = some text ∧ value = .string (String.ofList text)

variable {token characters : List Char} {value : Value}

theorem eq_append_of_decimal?
    {whole fraction : List Char} (found : decimal? characters = some (whole, fraction)) :
    characters = whole ++ '.' :: fraction ∧
      Digits.isRun whole = true ∧ Digits.isRun fraction = true := by
  have parts := Digits.spanDigits_append characters
  unfold decimal? at found
  simp only at found
  split at found
  · rename_i rest isRest
    split at found
    · rename_i areRuns
      cases found
      rw [isRest] at parts
      exact ⟨parts.symm, Bool.and_eq_true_iff.mp areRuns⟩
    · cases found
  · cases found

/-- Two runs of digits with a point between them are taken apart at the point. -/
theorem decimal?_append
    {whole fraction : List Char} (wholeIsRun : Digits.isRun whole = true)
    (fractionIsRun : Digits.isRun fraction = true) :
    decimal? (whole ++ '.' :: fraction) = some (whole, fraction) := by
  obtain ⟨_, _, _, areDigits⟩ := Digits.exists_digit_of_isRun wholeIsRun
  have ends : ∀ next ∈ ('.' :: fraction).head?, next.isDigit = false := by
    rintro _ ⟨⟩
    rfl
  obtain ⟨isWhole, isRest⟩ := Digits.takeWhile_isDigit_append areDigits ends
  simp only [decimal?, Digits.spanDigits, isWhole, isRest, wholeIsRun, fractionIsRun,
    Bool.and_self, if_true]

/-- What starts with a digit is no keyword. -/
theorem scalar?_of_isDigit
    {first : Char} {rest : List Char} (isDigit : first.isDigit = true) :
    scalar? (first :: rest) =
      if Digits.isRun (first :: rest) then (integer? (first :: rest)).map .integer
      else
        (decimal? (first :: rest)).map fun (whole, fraction) =>
          .float (Decimal.ofFixed whole fraction) := by
  have notKeyword :
      ∀ (letter : Char) (others : List Char),
        letter.isDigit = false → first :: rest ≠ letter :: others := by
    intro letter others notDigit same
    rw [(List.cons.inj same).1, notDigit] at isDigit
    cases isDigit
  rw [scalar?, if_neg (notKeyword 'n' _ rfl), if_neg (notKeyword 't' _ rfl),
    if_neg (notKeyword 'f' _ rfl)]

theorem scalar?_of_isRun (isRun : Digits.isRun token = true) :
    scalar? token = (integer? token).map .integer := by
  obtain ⟨first, rest, rfl, areDigits⟩ := Digits.exists_digit_of_isRun isRun
  rw [scalar?_of_isDigit (areDigits first List.mem_cons_self), if_pos isRun]

theorem scalar?_of_decimal?
    {whole fraction : List Char} (notRun : ¬Digits.isRun token = true)
    (found : decimal? token = some (whole, fraction)) :
    scalar? token = some (.float (Decimal.ofFixed whole fraction)) := by
  obtain ⟨rfl, wholeIsRun, _⟩ := eq_append_of_decimal? found
  obtain ⟨first, rest, rfl, areDigits⟩ := Digits.exists_digit_of_isRun wholeIsRun
  rw [List.cons_append] at notRun found ⊢
  rw [scalar?_of_isDigit (areDigits first List.mem_cons_self), if_neg notRun, found]
  rfl

/-- A literal that is no text has no blank, no comma and no quote in it. -/
theorem isPlain_of_scalar? (found : scalar? token = some value) :
    token ≠ [] ∧
      ∀ character ∈ token, isBlank character = false ∧ character ≠ ',' ∧ character ≠ '"' := by
  have ofDigit :
      ∀ digit : Char, digit.isDigit = true →
        isBlank digit = false ∧ digit ≠ ',' ∧ digit ≠ '"' := by
    intro digit isDigit
    refine ⟨isBlank_of_isDigit isDigit, ?_, ?_⟩
    · rintro rfl
      cases isDigit
    · rintro rfl
      cases isDigit
  unfold scalar? at found
  split at found
  · rename_i isNull
    subst isNull
    exact ⟨by decide, List.all_iff_forall_prop.mp (by decide)⟩
  split at found
  · rename_i isTrue
    subst isTrue
    exact ⟨by decide, List.all_iff_forall_prop.mp (by decide)⟩
  split at found
  · rename_i isFalse
    subst isFalse
    exact ⟨by decide, List.all_iff_forall_prop.mp (by decide)⟩
  split at found
  · rename_i isRun
    obtain ⟨first, rest, rfl, areDigits⟩ := Digits.exists_digit_of_isRun isRun
    exact ⟨List.cons_ne_nil _ _, fun digit member => ofDigit digit (areDigits digit member)⟩
  · obtain ⟨⟨whole, fraction⟩, isDecimal, _⟩ := Option.map_eq_some_iff.mp found
    obtain ⟨rfl, wholeIsRun, fractionIsRun⟩ := eq_append_of_decimal? isDecimal
    obtain ⟨_, _, _, wholeDigits⟩ := Digits.exists_digit_of_isRun wholeIsRun
    obtain ⟨_, _, _, fractionDigits⟩ := Digits.exists_digit_of_isRun fractionIsRun
    refine ⟨by simp, List.forall_mem_append.mpr ⟨?_, List.forall_mem_cons.mpr ⟨?_, ?_⟩⟩⟩
    · exact fun digit member => ofDigit digit (wholeDigits digit member)
    · decide
    · exact fun digit member => ofDigit digit (fractionDigits digit member)

theorem isElement_of_scalar? (found : scalar? token = some value) : IsElement token value := by
  unfold scalar? at found
  split at found
  · rename_i isNull
    cases found
    exact ⟨.null, by rw [isNull]; rfl, by decide, rfl⟩
  split at found
  · rename_i isTrue
    cases found
    exact ⟨.boolean true, by rw [isTrue]; rfl, by simp [Kind.filterType], rfl⟩
  split at found
  · rename_i isFalse
    cases found
    exact ⟨.boolean false, by rw [isFalse]; rfl, by simp [Kind.filterType], rfl⟩
  split at found
  · rename_i isRun
    obtain ⟨number, isNumber, rfl⟩ := Option.map_eq_some_iff.mp found
    refine ⟨.integer number, ?_, by simp [Kind.filterType], rfl⟩
    simp only [Kind.ofLiteral, String.toList_ofList, isRun, if_true, isNumber]
  · rename_i notRun
    obtain ⟨⟨whole, fraction⟩, isDecimal, rfl⟩ := Option.map_eq_some_iff.mp found
    refine ⟨.float (Decimal.ofFixed whole fraction), ?_, by simp [Kind.filterType], rfl⟩
    simp only [Kind.ofLiteral, String.toList_ofList, if_neg notRun, isDecimal]

theorem isElement_of_isQuoted (quoted : IsQuoted token value) : IsElement token value := by
  obtain ⟨inner, text, rfl, oneLine, read, rfl⟩ := quoted
  obtain ⟨notRun, notDecimal, notNull, notTrue, notFalse⟩ :
      IsMarked ('"' :: (inner ++ ['"'])) := isMarked_cons _ (by decide)
  have isShape : quoted? ('"' :: (inner ++ ['"'])) = some (inner, false) :=
    (enclosed?_eq_some_iff (by decide)).mpr ⟨oneLine, rfl⟩
  refine ⟨.string (String.ofList text), ?_, by simp [Kind.filterType], rfl⟩
  simp only [Kind.ofLiteral, String.toList_ofList, notRun, notDecimal, notNull, notTrue, notFalse,
    isShape, quotedText, read, Bool.false_eq_true, if_false]
  rfl

/-- The literals of single values are those that lists read, and the texts in quotes. -/
theorem isElement_iff :
    IsElement token value ↔ scalar? token = some value ∨ IsQuoted token value := by
  constructor
  · rintro ⟨kind, read, isSingle, rfl⟩
    have shape := Kind.isRead_of_ofLiteral read
    rw [String.toList_ofList] at shape
    generalize isModified : false = modified at shape
    cases shape with
    | integer isRun isNumber =>
        exact .inl (by rw [scalar?_of_isRun isRun, isNumber]; rfl)
    | float notRun isDecimal => exact .inl (scalar?_of_decimal? notRun isDecimal)
    | null isNull => exact .inl (by rw [isNull]; rfl)
    | boolean value isKeyword =>
        exact .inl (by rw [isKeyword]; cases value <;> rfl)
    | string isShape isText =>
        obtain ⟨oneLine, whole⟩ := (enclosed?_eq_some_iff (by decide)).mp isShape
        unfold quotedText at isText
        split at isText
        · cases isText
        · rename_i unescaped isUnescaped
          cases isText
          subst isModified
          exact .inr ⟨_, unescaped, whole, oneLine, isUnescaped, rfl⟩
    | inList | like | regexp => exact absurd isSingle (by simp [Kind.filterType])
  · rintro (isScalar | isQuoted)
    · exact isElement_of_scalar? isScalar
    · exact isElement_of_isQuoted isQuoted

theorem IsElement.isSolid (isElement : IsElement token value) : IsSolid token := by
  rcases isElement_iff.mp isElement with isScalar | ⟨inner, text, rfl, _, _, _⟩
  · obtain ⟨nonempty, plain⟩ := isPlain_of_scalar? isScalar
    exact IsSolid.of_forall nonempty fun character member => (plain character member).1
  · exact
      ⟨⟨'"', inner ++ ['"'], rfl, by decide⟩, ⟨'"' :: inner, '"', rfl, by decide⟩⟩

/-- What may follow an element: nothing, or a comma. -/
def EndsElement (rest : List Char) : Prop :=
  ∀ next ∈ rest.head?, next = ','

theorem EndsElement.trimStart_eq {rest : List Char} (ends : EndsElement rest) :
    trimStart rest = rest := by
  cases rest with
  | nil => rfl
  | cons next others =>
      obtain rfl := ends next rfl
      rfl

/-- What stands before a comma is the token, and the blanks behind it are dropped. -/
theorem trim_takeWhile_append
    {after rest : List Char} (isSolid : IsSolid token) (noComma : ∀ character ∈ token, character ≠ ',')
    (blanks : after.all isBlank = true) (ends : EndsElement rest) :
    trim ((token ++ (after ++ rest)).takeWhile (· != ',')) = token ∧
      (token ++ (after ++ rest)).dropWhile (· != ',') = rest := by
  have differs : ∀ character ∈ token ++ after, (character != ',') = true := by
    intro character member
    rw [bne_iff_ne]
    rcases List.mem_append.mp member with inToken | inAfter
    · exact noComma character inToken
    · rintro rfl
      exact absurd (List.all_eq_true.mp blanks _ inAfter) (by decide)
  have stops : rest.takeWhile (· != ',') = [] ∧ rest.dropWhile (· != ',') = rest := by
    cases rest with
    | nil => exact ⟨rfl, rfl⟩
    | cons next others =>
        obtain rfl := ends next rfl
        exact ⟨rfl, rfl⟩
  rw [← List.append_assoc, List.takeWhile_append_of_pos differs,
    List.dropWhile_append_of_pos differs, stops.1, stops.2, List.append_nil]
  exact ⟨by simpa using isSolid.trim_append List.all_nil blanks, rfl⟩

/-- What does not start with a quote is read up to the next comma. -/
theorem element_of_ne_quote
    (noQuote : ∀ rest, characters ≠ '"' :: rest) (index : Nat) :
    element index characters =
      match scalar? (trim (characters.takeWhile (· != ','))) with
      | none =>
          .error (.illegalElement (String.ofList (trim (characters.takeWhile (· != ',')))) index)
      | some value => .ok (value, characters.dropWhile (· != ',')) := by
  unfold element
  split
  · exact absurd rfl (noQuote _)
  · rfl

/-- The literal of a single value is read as an element, with the blanks behind it. -/
theorem IsElement.element_append
    (isElement : IsElement token value) {after rest : List Char}
    (blanks : after.all isBlank = true) (ends : EndsElement rest) (index : Nat) :
    ∃ following,
      element index (token ++ (after ++ rest)) = .ok (value, following) ∧
        trimStart following = rest := by
  rcases isElement_iff.mp isElement with isScalar | ⟨inner, text, rfl, _, read, rfl⟩
  · obtain ⟨nonempty, plain⟩ := isPlain_of_scalar? isScalar
    obtain ⟨isTrimmed, isRest⟩ :=
      trim_takeWhile_append isElement.isSolid
        (fun character member => (plain character member).2.1) blanks ends
    have noQuote : ∀ others, token ++ (after ++ rest) ≠ '"' :: others := by
      obtain ⟨first, later, rfl⟩ := List.exists_cons_of_ne_nil nonempty
      intro others same
      exact (plain first List.mem_cons_self).2.2 (List.cons.inj same).1
    refine ⟨rest, ?_, ends.trimStart_eq⟩
    rw [element_of_ne_quote noQuote, isTrimmed, isScalar, isRest]
  · have cut := Quoted.beforeClosingQuote?_append ⟨text, read⟩ (after ++ rest)
    refine ⟨after ++ rest, ?_, ?_⟩
    · simp only [List.cons_append, List.append_assoc, List.nil_append, element, cut, read]
    · rw [trimStart_append blanks, ends.trimStart_eq]

/-- What is read as an element is the literal of a single value, with blanks around it. -/
theorem exists_isElement_of_element
    {index : Nat} {following : List Char} (oneLine : '\n' ∉ characters)
    (read : element index characters = .ok (value, following)) :
    ∃ before token after,
      before.all isBlank = true ∧ after.all isBlank = true ∧ IsElement token value ∧
        characters = before ++ (token ++ (after ++ trimStart following)) := by
  unfold element at read
  split at read
  · rename_i rest
    split at read
    · cases read
    rename_i inner after isCut
    split at read
    · cases read
    rename_i text isRead
    cases read
    have whole := (Quoted.beforeClosingQuote?_eq_some_iff.mp isCut).1
    have innerOneLine : isOneLine inner = true := by
      rw [isOneLine_iff]
      intro member
      exact oneLine (by simp [whole, member])
    refine
      ⟨[], '"' :: (inner ++ ['"']), following.takeWhile isBlank, rfl, List.all_takeWhile,
        isElement_of_isQuoted ⟨inner, text, rfl, innerOneLine, isRead, rfl⟩, ?_⟩
    rw [trimStart, List.takeWhile_append_dropWhile, whole]
    simp
  · simp only at read
    split at read
    · cases read
    rename_i isScalar
    cases read
    obtain ⟨before, after, blanksBefore, blanksAfter, whole⟩ :=
      exists_blanks_trim (characters.takeWhile (· != ','))
    refine
      ⟨before, _, after, blanksBefore, blanksAfter, isElement_of_scalar? isScalar, ?_⟩
    have ends : EndsElement (characters.dropWhile (· != ',')) := by
      intro next isNext
      have stopped := List.head?_dropWhile_not (· != ',') characters
      rw [isNext] at stopped
      simpa using stopped
    rw [ends.trimStart_eq, ← List.append_assoc, ← List.append_assoc, List.append_assoc before,
      ← whole, List.takeWhile_append_dropWhile]

end Literal

end FilterQuery
