import FilterQuery.Proofs.Filter.Elements

/-!
# Lists are read element by element

`IsElementList` says what stands between the brackets of a list: elements with blanks around them
and commas between them, and perhaps one more comma at the end.  `ofLiteral_list_iff` says that
these are exactly the lists that are read, and that the values are those of the elements.
-/

namespace FilterQuery

open FilterQuery.Text FilterQuery.Literal

namespace Literal

/-- The text is an element with blanks around it. -/
def IsPart (part : List Char) (value : Value) : Prop :=
  ∃ before token after,
    before.all isBlank = true ∧ after.all isBlank = true ∧ IsElement token value ∧
      part = before ++ (token ++ after)

/-- What may follow the last element: nothing, or a comma and blanks. -/
def EndsList (ending : List Char) : Prop :=
  ending = [] ∨ ∃ blanks, blanks.all isBlank = true ∧ ending = ',' :: blanks

/-- The text consists of elements with these values, one at least, with commas between them and
perhaps another one at the end. -/
def IsElementList (inner : List Char) (values : List Value) : Prop :=
  ∃ parts ending,
    parts ≠ [] ∧ List.Forall₂ IsPart parts values ∧ EndsList ending ∧
      inner = [','].intercalate parts ++ ending

variable {characters part following rest ending : List Char} {value : Value}
  {values : List Value} {index : Nat}

/-! ## One element of a list -/

theorem IsPart.not_all_isBlank (isPart : IsPart part value) : ¬part.all isBlank = true := by
  obtain ⟨before, token, after, _, _, isElement, rfl⟩ := isPart
  obtain ⟨first, others, rfl, notBlank⟩ := isElement.isSolid.first
  intro blanks
  have isBlank := List.all_eq_true.mp blanks first (by simp)
  rw [notBlank] at isBlank
  cases isBlank

/-- A list with an element in it is not made of blanks. -/
theorem IsPart.not_all_isBlank_intercalate
    (isPart : IsPart part value) (others : List (List Char)) (ending : List Char) :
    ¬([','].intercalate (part :: others) ++ ending).all isBlank = true := by
  intro blanks
  rw [List.all_append, Bool.and_eq_true] at blanks
  cases others with
  | nil =>
      rw [List.intercalate_singleton] at blanks
      exact isPart.not_all_isBlank blanks.1
  | cons next later =>
      rw [List.intercalate_cons_cons, List.append_assoc, List.all_append, Bool.and_eq_true]
        at blanks
      exact isPart.not_all_isBlank blanks.1.1

theorem IsPart.element_append
    (isPart : IsPart part value) (ends : EndsElement rest) (index : Nat) :
    ∃ following,
      element index (trimStart (part ++ rest)) = .ok (value, following) ∧
        trimStart following = rest := by
  obtain ⟨before, token, after, blanksBefore, blanksAfter, isElement, rfl⟩ := isPart
  obtain ⟨following, read, isRest⟩ := isElement.element_append blanksAfter ends index
  refine ⟨following, ?_, isRest⟩
  rw [List.append_assoc, trimStart_append blanksBefore, List.append_assoc,
    isElement.isSolid.trimStart_append, read]

theorem exists_isPart_of_element
    (oneLine : '\n' ∉ characters)
    (read : element index (trimStart characters) = .ok (value, following)) :
    ∃ part, IsPart part value ∧ characters = part ++ trimStart following := by
  have startOneLine : '\n' ∉ trimStart characters :=
    fun member => oneLine ((List.dropWhile_sublist _).subset member)
  obtain ⟨before, token, after, blanksBefore, blanksAfter, isElement, whole⟩ :=
    exists_isElement_of_element startOneLine read
  refine
    ⟨characters.takeWhile isBlank ++ before ++ (token ++ after),
      ⟨_, token, after, ?_, blanksAfter, isElement, rfl⟩, ?_⟩
  · rw [List.all_append, List.all_takeWhile, blanksBefore]
    rfl
  · calc
      characters = characters.takeWhile isBlank ++ trimStart characters :=
        List.takeWhile_append_dropWhile.symm
      _ = _ := by rw [whole]; simp only [List.append_assoc]

/-! ## The loop -/

theorem elementsFrom_eq
    (read : element index (trimStart characters) = .ok (value, following)) :
    elementsFrom index characters =
      match trimStart following with
      | [] => .ok [value]
      | ',' :: rest =>
          if rest.all isBlank then .ok [value]
          else (elementsFrom (index + 1) rest).map (value :: ·)
      | other => .error (.illegalElement (String.ofList other) index) := by
  rw [elementsFrom]
  split
  · rename_i failed
    rw [read] at failed
    cases failed
  · rename_i done
    rw [read] at done
    cases done
    split <;> simp_all

theorem elementsFrom_of_element_eq_error
    {fault : ValueFault} (failed : element index (trimStart characters) = .error fault) :
    elementsFrom index characters = .error fault := by
  rw [elementsFrom]
  split
  · rename_i other
    rw [failed] at other
    cases other
    rfl
  · rename_i read
    rw [failed] at read
    cases read

theorem endsElement_comma (rest : List Char) : EndsElement (',' :: rest) := by
  intro next isNext
  cases isNext
  rfl

theorem EndsList.endsElement (ends : EndsList ending) : EndsElement ending := by
  rcases ends with rfl | ⟨blanks, _, rfl⟩
  · exact nofun
  · exact endsElement_comma blanks

/-- Elements with commas between them are read one after the other. -/
theorem elementsFrom_of_forall₂
    {parts : List (List Char)} (areParts : List.Forall₂ IsPart (part :: parts) (value :: values))
    (ends : EndsList ending) (index : Nat) :
    elementsFrom index ([','].intercalate (part :: parts) ++ ending) = .ok (value :: values) := by
  induction parts generalizing part value values index with
  | nil =>
      obtain ⟨isPart, others⟩ := List.forall₂_cons.mp areParts
      obtain rfl := List.forall₂_nil_left_iff.mp others
      obtain ⟨following, read, isRest⟩ := isPart.element_append ends.endsElement index
      rw [List.intercalate_singleton, elementsFrom_eq read, isRest]
      rcases ends with rfl | ⟨blanks, areBlanks, rfl⟩
      · rfl
      · simp only [areBlanks, if_true]
  | cons next others inductionHypothesis =>
      obtain ⟨isPart, areOthers⟩ := List.forall₂_cons.mp areParts
      obtain ⟨second, later, isNext, _, rfl⟩ := List.forall₂_cons_left_iff.mp areOthers
      have notBlank := isNext.not_all_isBlank_intercalate others ending
      obtain ⟨following, read, isRest⟩ :=
        isPart.element_append
          (endsElement_comma ([','].intercalate (next :: others) ++ ending)) index
      have whole :
          [','].intercalate (part :: next :: others) ++ ending =
            part ++ ',' :: ([','].intercalate (next :: others) ++ ending) := by
        simp only [List.intercalate_cons_cons, List.append_assoc, List.cons_append,
          List.nil_append]
      rw [whole, elementsFrom_eq read, isRest]
      simp only [notBlank, inductionHypothesis areOthers]
      rfl

theorem IsPart.isElementList (isPart : IsPart part value) (ends : EndsList ending) :
    IsElementList (part ++ ending) [value] :=
  ⟨[part], ending, List.cons_ne_nil _ _, .cons isPart .nil, ends,
    by rw [List.intercalate_singleton]⟩

theorem IsPart.isElementList_cons
    (isPart : IsPart part value) (isList : IsElementList rest values) :
    IsElementList (part ++ ',' :: rest) (value :: values) := by
  obtain ⟨parts, ending, nonempty, areParts, ends, rfl⟩ := isList
  refine
    ⟨part :: parts, ending, List.cons_ne_nil _ _, .cons isPart areParts, ends, ?_⟩
  rw [List.intercalate_cons_of_ne_nil nonempty]
  simp only [List.append_assoc, List.cons_append, List.nil_append]

/-- The loop reads nothing but lists of elements. -/
theorem isElementList_of_elementsFrom
    (oneLine : '\n' ∉ characters) (read : elementsFrom index characters = .ok values) :
    IsElementList characters values := by
  fun_induction elementsFrom index characters generalizing values with
  | case1 => cases read
  | case2 index characters value following isElement isEnd =>
      obtain ⟨part, isPart, whole⟩ := exists_isPart_of_element oneLine isElement
      cases read
      rw [whole, isEnd]
      exact isPart.isElementList (.inl rfl)
  | case3 index characters value following isElement rest isRest areBlanks =>
      obtain ⟨part, isPart, whole⟩ := exists_isPart_of_element oneLine isElement
      cases read
      rw [whole, isRest]
      exact isPart.isElementList (.inr ⟨rest, areBlanks, rfl⟩)
  | case4 index characters value following isElement rest isRest _ inductionHypothesis =>
      obtain ⟨part, isPart, whole⟩ := exists_isPart_of_element oneLine isElement
      obtain ⟨others, readOthers, rfl⟩ := Outcome.map_eq_ok_iff.mp read
      rw [whole, isRest] at oneLine ⊢
      have restOneLine : '\n' ∉ rest := fun member => oneLine (by simp [member])
      exact isPart.isElementList_cons (inductionHypothesis restOneLine readOthers)
  | case5 => cases read

theorem IsElementList.not_all_isBlank (isList : IsElementList characters values) :
    ¬characters.all isBlank = true := by
  obtain ⟨parts, ending, nonempty, areParts, _, rfl⟩ := isList
  obtain ⟨part, others, rfl⟩ := List.exists_cons_of_ne_nil nonempty
  obtain ⟨value, later, isPart, _, rfl⟩ := List.forall₂_cons_left_iff.mp areParts
  exact isPart.not_all_isBlank_intercalate others ending

theorem IsElementList.elementsFrom_eq
    (isList : IsElementList characters values) (index : Nat) :
    elementsFrom index characters = .ok values := by
  obtain ⟨parts, ending, nonempty, areParts, ends, rfl⟩ := isList
  obtain ⟨part, others, rfl⟩ := List.exists_cons_of_ne_nil nonempty
  obtain ⟨value, later, _, _, rfl⟩ := List.forall₂_cons_left_iff.mp areParts
  exact elementsFrom_of_forall₂ areParts ends index

/-- Lists of elements are read, and nothing else. -/
theorem elements_eq_ok_iff (oneLine : '\n' ∉ characters) :
    elements characters = .ok values ↔ IsElementList characters values := by
  rw [elements]
  constructor
  · intro read
    split at read
    · cases read
    · exact isElementList_of_elementsFrom oneLine read
  · intro isList
    rw [if_neg isList.not_all_isBlank, isList.elementsFrom_eq]

end Literal

/-- A text in brackets is read as a list exactly if it consists of literals of single values, with
blanks around them, commas between them and perhaps one more comma at the end.  The list has the
values of these literals, in their order and as often as they stand there. -/
theorem Kind.ofLiteral_list_iff
    {inner : String} (oneLine : '\n' ∉ inner.toList) (caseInsensitive : Bool)
    (values : List Value) :
    ofLiteral ("[" ++ inner ++ "]" ++ if caseInsensitive then "/i" else "") =
        .ok (.inList values, caseInsensitive) ↔
      IsElementList inner.toList values := by
  have whole :
      ("[" ++ inner ++ "]" ++ if caseInsensitive then "/i" else "").toList =
        '[' :: (inner.toList ++ ']' :: slashModifier caseInsensitive) := by
    cases caseInsensitive <;> simp [modifier]
  obtain ⟨notRun, notDecimal, notNull, notTrue, notFalse⟩ :
      IsMarked ('[' :: (inner.toList ++ ']' :: slashModifier caseInsensitive)) :=
    isMarked_of_first _ rfl (by decide)
  rw [← whole] at notRun notDecimal notNull notTrue notFalse
  rw [String.ofList_toList] at notNull notTrue notFalse
  have notText :
      quoted? ("[" ++ inner ++ "]" ++ if caseInsensitive then "/i" else "").toList = none := by
    rw [whole]
    exact enclosed?_eq_none_of_first (by decide)
  have isShape :
      bracketed? ("[" ++ inner ++ "]" ++ if caseInsensitive then "/i" else "").toList =
        some (inner.toList, caseInsensitive) :=
    (enclosed?_eq_some_iff (by decide)).mpr ⟨isOneLine_iff.mpr oneLine, whole⟩
  have reads :
      ofLiteral ("[" ++ inner ++ "]" ++ if caseInsensitive then "/i" else "") =
        (elements inner.toList).map fun items => (.inList items, caseInsensitive) := by
    simp only [ofLiteral, notRun, notDecimal, notNull, notTrue, notFalse, notText, isShape,
      Bool.false_eq_true, if_false]
  rw [reads, Outcome.map_eq_ok_iff, ← elements_eq_ok_iff oneLine]
  constructor
  · rintro ⟨items, read, same⟩
    cases same
    exact read
  · intro read
    exact ⟨values, read, rfl⟩

/-- A text with a comma, a bracket and escapes in it, a number with zeros in front, an element that
stands twice, and a comma at the end. -/
def Kind.mixedElements : String := " \"a, \\\"b\\\"]\\\\\" ,007,null ,7, "

theorem Kind.ofLiteral_list_iff_mixed :
    '\n' ∉ mixedElements.toList ∧
      ofLiteral ("[" ++ mixedElements ++ "]" ++ "/i") =
        .ok
          (.inList [.string "a, \"b\"]\\", .integer 7, .null, .integer 7], true) := by
  have oneLine : '\n' ∉ mixedElements.toList := by decide
  have text : IsElement "\"a, \\\"b\\\"]\\\\\"".toList (.string "a, \"b\"]\\") :=
    ⟨.string "a, \"b\"]\\", rfl, by decide, rfl⟩
  have number : IsElement "007".toList (.integer 7) := ⟨.integer 7, rfl, by decide, rfl⟩
  have null : IsElement "null".toList .null := ⟨.null, rfl, by decide, rfl⟩
  have again : IsElement "7".toList (.integer 7) := ⟨.integer 7, rfl, by decide, rfl⟩
  refine ⟨oneLine, (ofLiteral_list_iff oneLine true _).mpr ?_⟩
  refine
    ⟨[" \"a, \\\"b\\\"]\\\\\" ".toList, "007".toList, "null ".toList, "7".toList], ", ".toList,
      by simp, ?_, .inr ⟨[' '], rfl, rfl⟩, rfl⟩
  refine .cons ⟨[' '], _, [' '], rfl, rfl, text, rfl⟩ ?_
  refine .cons ⟨[], _, [], rfl, rfl, number, rfl⟩ ?_
  refine .cons ⟨[], _, [' '], rfl, rfl, null, rfl⟩ ?_
  exact .cons ⟨[], _, [], rfl, rfl, again, rfl⟩ .nil

end FilterQuery
