import FilterQuery.Proofs.Sql.Meaning

/-!
# Where clauses stand in one pair of parentheses

`enclose` counts parentheses in a finished text, where those that group operations mix with
those of functions and lists.

* `ClosesBefore` says which parenthesis closes the one that a text starts with, and
  `enclosed?` finds it exactly if it is the last character (`enclosed?_eq_some_iff`);
* taking off blanks and enclosing parentheses keeps a text balanced (`isBalanced_strip`), so
  what `enclose` makes of a balanced text stands in exactly one pair of parentheses
  (`isEnclosedOnce_of_enclose`);
* the combined conditions of a query are balanced, so this holds of every where clause.
-/

namespace FilterQuery.Sql

open FilterQuery.Text (IsSolid)

/-! ## Closing parentheses -/

/-- The text starts with a parenthesis that is closed right before `rest`; `inner` stands
between the two. -/
structure ClosesBefore (characters inner rest : List Char) : Prop where
  whole : characters = '(' :: (inner ++ ')' :: rest)
  balanced : IsBalanced inner

section Closing

variable {characters inner rest : List Char}

/-- Only one parenthesis closes the first one. -/
theorem ClosesBefore.unique
    {otherInner otherRest : List Char} (closes : ClosesBefore characters inner rest)
    (otherCloses : ClosesBefore characters otherInner otherRest) :
    inner = otherInner ∧ rest = otherRest := by
  have same : inner ++ ')' :: rest = otherInner ++ ')' :: otherRest :=
    (List.cons.inj (closes.whole.symm.trans otherCloses.whole)).2
  have sameInner :=
    IsBalanced.eq_of_append_closing closes.balanced otherCloses.balanced same
  subst sameInner
  exact ⟨rfl, (List.cons.inj (List.append_cancel_left same)).2⟩

/-- What stands before the closing parenthesis closes all that is open. -/
theorem openAfter_of_upToClosing?
    {depth : Nat} (closed : upToClosing? depth characters = some inner) :
    openAfter depth inner = some 0 := by
  induction characters generalizing depth inner with
  | nil => cases closed
  | cons character others inductionHypothesis =>
      simp only [upToClosing?] at closed
      split at closed
      · rename_i isOpening
        obtain ⟨shorter, found, rfl⟩ := Option.map_eq_some_iff.mp closed
        simp only [openAfter, if_pos isOpening]
        exact inductionHypothesis found
      · rename_i notOpening
        split at closed
        · rename_i isClosing
          split at closed
          · split at closed
            · cases closed
              rfl
            · cases closed
          · obtain ⟨shorter, found, rfl⟩ := Option.map_eq_some_iff.mp closed
            simp only [openAfter, if_neg notOpening, if_pos isClosing]
            exact inductionHypothesis found
        · rename_i notClosing
          obtain ⟨shorter, found, rfl⟩ := Option.map_eq_some_iff.mp closed
          simp only [openAfter, if_neg notOpening, if_neg notClosing]
          exact inductionHypothesis found

/-- The parentheses around a text are found, whatever is between them. -/
theorem enclosed?_eq_some_iff :
    enclosed? characters = some inner ↔ ClosesBefore characters inner [] := by
  constructor
  · intro found
    unfold enclosed? at found
    split at found
    · exact ⟨by rw [upToClosing?_eq_some found], openAfter_of_upToClosing? found⟩
    · cases found
  · rintro ⟨rfl, balanced⟩
    exact enclosed?_enclosed balanced

theorem enclosed?_eq_none_iff :
    enclosed? characters = none ↔ ∀ inner, ¬ClosesBefore characters inner [] := by
  rw [Option.eq_none_iff_forall_ne_some]
  exact forall_congr' fun _ => not_congr enclosed?_eq_some_iff

end Closing

/-! ## One pair of parentheses -/

/-- The text is one pair of parentheses around an inner text.  This neither starts nor ends
with a blank, and is not in parentheses again. -/
structure IsEnclosedOnce (characters inner : List Char) : Prop where
  closes : ClosesBefore characters inner []
  solid : IsSolid inner
  bare : ∀ core, ¬ClosesBefore inner core []

namespace IsEnclosedOnce

variable {characters inner : List Char}

theorem isBalanced (isEnclosed : IsEnclosedOnce characters inner) :
    IsBalanced characters := by
  rw [isEnclosed.closes.whole]
  exact isEnclosed.closes.balanced.enclosed

/-- The first parenthesis is closed by the last character. -/
theorem closesAtEnd
    (isEnclosed : IsEnclosedOnce characters inner) {between rest : List Char}
    (closes : ClosesBefore characters between rest) : rest = [] :=
  (closes.unique isEnclosed.closes).2

/-- There is nothing left for `enclose` to do. -/
theorem enclose_eq
    {text : String} (isEnclosed : IsEnclosedOnce text.toList inner) :
    enclose text = some text :=
  enclose_of_enclosed isEnclosed.closes.whole isEnclosed.solid
    isEnclosed.closes.balanced (enclosed?_eq_none_iff.mpr isEnclosed.bare)

end IsEnclosedOnce

/-! ## Stripping keeps the balance -/

theorem isBalanced_blanks
    {blanks : List Char} (areBlank : blanks.all Text.isBlank = true) :
    IsBalanced blanks := by
  apply IsBalanced.of_forall
  intro character member
  have isBlank := List.all_eq_true.mp areBlank character member
  constructor <;>
    · rintro rfl
      revert isBlank
      decide

theorem isBalanced_trim
    {characters : List Char} (balanced : IsBalanced characters) :
    IsBalanced (Text.trim characters) := by
  obtain ⟨before, after, areBefore, areAfter, whole⟩ :=
    Text.exists_blanks_trim characters
  unfold IsBalanced at balanced
  rw [whole, openAfter_append, isBalanced_blanks areBefore, Option.bind_some,
    openAfter_append] at balanced
  obtain ⟨depth, counted, counts⟩ := Option.bind_eq_some_iff.mp balanced
  rw [openAfter_of_isBalanced (isBalanced_blanks areAfter)] at counts
  rw [IsBalanced, counted, counts]

theorem isBalanced_strip
    {characters : List Char} (balanced : IsBalanced characters) :
    IsBalanced (strip characters) := by
  induction characters using strip.induct with
  | case1 characters trimmed bare =>
      rw [strip_of_bare bare]
      exact isBalanced_trim balanced
  | case2 characters trimmed inner found inductionHypothesis =>
      rw [strip_of_found found]
      exact inductionHypothesis (enclosed?_eq_some_iff.mp found).balanced

/-- Stripping goes on until no parentheses stand around the text. -/
theorem enclosed?_strip (characters : List Char) :
    enclosed? (strip characters) = none := by
  induction characters using strip.induct with
  | case1 characters trimmed bare =>
      rw [strip_of_bare bare]
      exact bare
  | case2 characters trimmed inner found inductionHypothesis =>
      rw [strip_of_found found]
      exact inductionHypothesis

theorem isSolid_strip
    {characters : List Char} (nonempty : strip characters ≠ []) :
    IsSolid (strip characters) := by
  induction characters using strip.induct with
  | case1 characters trimmed bare =>
      rw [strip_of_bare bare] at nonempty ⊢
      exact Text.isSolid_trim nonempty
  | case2 characters trimmed inner found inductionHypothesis =>
      rw [strip_of_found found] at nonempty ⊢
      exact inductionHypothesis nonempty

/-- A balanced text is put into one pair of parentheses, if there is anything in it. -/
theorem isEnclosedOnce_of_enclose
    {text enclosed : String} (balanced : IsBalanced text.toList)
    (encloses : enclose text = some enclosed) :
    IsEnclosedOnce enclosed.toList (strip text.toList) := by
  unfold enclose at encloses
  split at encloses
  · cases encloses
  · rename_i inner nonempty
    cases encloses
    refine ⟨⟨?_, isBalanced_strip balanced⟩, isSolid_strip nonempty, ?_⟩
    · rw [toList_enclosed, String.toList_ofList]
    · exact enclosed?_eq_none_iff.mp (enclosed?_strip text.toList)

/-! ## Combined conditions -/

namespace Fragment

/-- Conditions are balanced, and stay so when they are combined. -/
theorem isBalanced_of_combineConditions
    {dialect : Dialect} {entries : List (Nat × String)} {expression : Option Expression}
    {text : String} (family : IsFamily entries) (nonempty : entries ≠ [])
    (combined : combineConditions dialect entries expression = .ok text) :
    IsBalanced text.toList := by
  cases expression with
  | none =>
      cases combined
      exact (isPiece_all family nonempty).balanced
  | some given =>
      obtain ⟨clause, isBuilt, rfl⟩ := combineConditions_some_eq_ok_iff.mp combined
      have isOver : clause.IsOver entries := Clause.isOver_of_ofTree isBuilt
      exact (Clause.isPiece_text family isOver (Nat.le_refl _)).balanced

theorem exists_isEnclosedOnce_of_whereClauseOf
    {dialect : Dialect} {entries : List (Nat × String)} {expression : Option Expression}
    {text : String} (family : IsFamily entries)
    (done : whereClauseOf dialect entries expression = .ok (some text)) :
    ∃ inner, IsEnclosedOnce text.toList inner := by
  unfold whereClauseOf at done
  split at done
  · cases done
  · rename_i notEmpty
    have nonempty : entries ≠ [] := by
      rintro rfl
      exact notEmpty rfl
    obtain ⟨combination, combined, encloses⟩ := Outcome.map_eq_ok_iff.mp done
    exact
      ⟨_, isEnclosedOnce_of_enclose
        (isBalanced_of_combineConditions family nonempty combined) encloses⟩

variable {declaration : Declaration} {mapping : Mapping} {query : Query}

/-- A query that was read and accepted has a where clause unless there are no filters.  The
where clause is balanced, the parenthesis at its start is closed by its last character, and
what is between the two is not in parentheses again.  So enclosing it changes nothing. -/
theorem whereClause_enclosed_once
    (built : declaration.build = .ok mapping)
    (isDefault :
      declaration.columnPattern.getD Declaration.defaultColumnPattern =
        Declaration.defaultColumnPattern)
    {input : QueryInput} (parsed : Query.parse input = .ok query)
    (valid : mapping.validate query = .ok ()) (dialect : Dialect) :
    ∃ fragment,
      ofQuery dialect mapping query = .ok fragment ∧
        (fragment.whereClause = none ↔ query.filters.entries = []) ∧
        ∀ text,
          fragment.whereClause = some text →
            IsBalanced text.toList ∧
              (∃ inner, IsEnclosedOnce text.toList inner) ∧
              (∀ between rest,
                ClosesBefore text.toList between rest → rest = []) ∧
              enclose text = some text := by
  have isParsed := Query.parsed_of_parse parsed
  have passed := Declaration.passed_of_build built
  obtain ⟨resolution⟩ := nonempty_resolution passed isParsed valid
  have family := resolution.isFamily passed isDefault isParsed dialect
  obtain ⟨fragment, done, isNone, _⟩ :=
    exists_evaluatesTo built isDefault isParsed valid dialect
  refine ⟨fragment, done, isNone, ?_⟩
  intro text isText
  have isClause :
      whereClauseOf dialect (resolution.conditions dialect) query.expression =
        .ok (some text) := by
    rw [resolution.ofQuery_eq valid, Outcome.map_eq_ok_iff] at done
    obtain ⟨whereClause, written, rfl⟩ := done
    rw [written, ← isText]
  obtain ⟨inner, isEnclosed⟩ := exists_isEnclosedOnce_of_whereClauseOf family isClause
  exact
    ⟨isEnclosed.isBalanced, ⟨inner, isEnclosed⟩, fun _ _ => isEnclosed.closesAtEnd,
      isEnclosed.enclose_eq⟩

/-- Two filters whose conditions stand in parentheses of their own. -/
def absentCitiesInput : QueryInput :=
  .ofPairs [("filter[]", "city=[null]"), ("filter[]", "city!=[null]")]

/-- The combination starts and ends with a parenthesis, but not with a pair of them. -/
theorem whereClause_enclosed_once_cities :
    ∃ mapping query fragment,
      citiesDeclaration.build = .ok mapping ∧
        Query.parse absentCitiesInput = .ok query ∧
        mapping.validate query = .ok () ∧
        ofQuery .sqlite mapping query = .ok fragment ∧
        fragment.whereClause =
          some "((users.city IS NULL) AND (users.city IS NOT NULL))" ∧
        ∀ between rest,
          ClosesBefore "((users.city IS NULL) AND (users.city IS NOT NULL))".toList
            between rest → rest = [] := by
  have computed :
      (citiesDeclaration.build.toOption.bind fun mapping =>
        (Query.parse absentCitiesInput).toOption.bind fun query =>
          (mapping.validate query).toOption.bind fun _ =>
            (ofQuery .sqlite mapping query).toOption.bind Fragment.whereClause) =
        some "((users.city IS NULL) AND (users.city IS NOT NULL))" := by
    decide +kernel
  obtain ⟨mapping, builds, computed⟩ := Option.bind_eq_some_iff.mp computed
  obtain ⟨query, parses, computed⟩ := Option.bind_eq_some_iff.mp computed
  obtain ⟨_, accepts, computed⟩ := Option.bind_eq_some_iff.mp computed
  obtain ⟨fragment, writes, isText⟩ := Option.bind_eq_some_iff.mp computed
  have built := Outcome.eq_ok_of_toOption builds
  have parsed := Outcome.eq_ok_of_toOption parses
  have valid := Outcome.eq_ok_of_toOption accepts
  have done := Outcome.eq_ok_of_toOption writes
  obtain ⟨other, isOther, _, enclosed⟩ :=
    whereClause_enclosed_once built rfl parsed valid .sqlite
  rw [done] at isOther
  cases isOther
  obtain ⟨_, _, closes, _⟩ := enclosed _ isText
  exact ⟨mapping, query, fragment, built, parsed, valid, done, isText, closes⟩

end Fragment

end FilterQuery.Sql
