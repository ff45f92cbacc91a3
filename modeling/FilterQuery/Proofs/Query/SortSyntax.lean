import FilterQuery.Proofs.Outcome
import FilterQuery.Proofs.Query.Accumulation
import FilterQuery.Proofs.Query.Form
import FilterQuery.Query.Basic

/-!
# Sorting through a query string

A sort is documented as a key that a plus or a minus sign may precede.  Its text comes out of a
query string, so three readers have a say: the one of forms, the one of lists in brackets, and the
one of sorts.

A key alone and a key after a minus sign pass all three.  A plus sign does not: as it is written in
the documentation, the reader of forms makes a blank of it, and the sort is malformed; only `%2B`
reaches the reader of sorts as a plus sign.
-/

namespace FilterQuery

namespace SortClause

/-- The text is made of word characters, at least one. -/
def IsWord (text : List Char) : Prop :=
  text ≠ [] ∧ ∀ character ∈ text, isWordCharacter character = true

/-- The text consists of words with points between them. -/
inductive IsKey : List Char → Prop
  | word {text : List Char} : IsWord text → IsKey text
  | point {text rest : List Char} : IsWord text → IsKey rest → IsKey (text ++ '.' :: rest)

/-! ## Keys -/

theorem isDotted_append
    {text : List Char} (isWord : ∀ character ∈ text, isWordCharacter character = true)
    (rest : List Char) : isDotted true (text ++ rest) = isDotted true rest := by
  induction text with
  | nil => rfl
  | cons first others inductionHypothesis =>
      obtain ⟨firstIsWord, othersAreWord⟩ := List.forall_mem_cons.mp isWord
      rw [List.cons_append, isDotted, if_pos firstIsWord, inductionHypothesis othersAreWord]

theorem IsWord.isDotted_append {text : List Char} (isWord : IsWord text) (rest : List Char) :
    isDotted false (text ++ rest) = isDotted true rest := by
  obtain ⟨notEmpty, characters⟩ := isWord
  cases text with
  | nil => exact absurd rfl notEmpty
  | cons first others =>
      obtain ⟨firstIsWord, othersAreWord⟩ := List.forall_mem_cons.mp characters
      rw [List.cons_append, isDotted, if_pos firstIsWord, SortClause.isDotted_append othersAreWord]

theorem IsKey.isDotted {key : List Char} (isKey : IsKey key) : isDotted false key = true := by
  induction isKey with
  | @word text isWord =>
      have whole := isWord.isDotted_append []
      rwa [List.append_nil] at whole
  | @point text rest isWord _ inductionHypothesis =>
      rw [isWord.isDotted_append, SortClause.isDotted, if_neg (by decide)]
      exact inductionHypothesis

/-- What is left of a text after the beginning of a word, once the reader of keys is past it. -/
theorem isKey_append_of_isDotted
    (begun : List Char) {text : List Char}
    (isWord : ∀ character ∈ begun, isWordCharacter character = true)
    (isDotted : isDotted (!begun.isEmpty) text = true) : IsKey (begun ++ text) := by
  induction text generalizing begun with
  | nil =>
      rw [List.append_nil]
      have notEmpty : begun ≠ [] := by simpa [SortClause.isDotted] using isDotted
      exact IsKey.word ⟨notEmpty, isWord⟩
  | cons first rest inductionHypothesis =>
      rw [SortClause.isDotted] at isDotted
      by_cases isFirst : isWordCharacter first = true
      · rw [if_pos isFirst] at isDotted
        have longer : IsKey ((begun ++ [first]) ++ rest) := by
          apply inductionHypothesis
          · exact List.forall_mem_append.mpr ⟨isWord, List.forall_mem_singleton.mpr isFirst⟩
          · have hasBegun : (!(begun ++ [first]).isEmpty) = true := by simp
            rw [hasBegun]
            exact isDotted
        rwa [List.append_assoc] at longer
      · rw [if_neg isFirst] at isDotted
        simp only [Bool.and_eq_true, decide_eq_true_eq] at isDotted
        obtain ⟨⟨hasBegun, rfl⟩, restIsDotted⟩ := isDotted
        have notEmpty : begun ≠ [] := by simpa using hasBegun
        exact IsKey.point ⟨notEmpty, isWord⟩ (inductionHypothesis [] (by simp) restIsDotted)

/-- The reader of keys accepts words with points between them, and nothing else. -/
theorem isDotted_iff_isKey {text : List Char} : isDotted false text = true ↔ IsKey text :=
  ⟨fun isDotted => isKey_append_of_isDotted [] (by simp) isDotted, IsKey.isDotted⟩

theorem isPlain_of_isWordCharacter
    {character : Char} (isWord : isWordCharacter character = true) : Form.IsPlain character := by
  have isAscii : character.toNat < 128 := by
    rcases Bool.or_eq_true_iff.mp isWord with isAlphanum | isLowLine
    · have bounds := toNat_bounds_of_isAlphanum isAlphanum
      omega
    · rw [of_decide_eq_true isLowLine]
      decide
  refine ⟨isAscii, ?_, ?_, ?_, ?_⟩
  all_goals
    rintro rfl
    exact absurd isWord (by decide)

theorem IsKey.isPlain {key : List Char} (isKey : IsKey key) :
    ∀ character ∈ key, Form.IsPlain character := by
  induction isKey with
  | word isWord => exact fun character member => isPlain_of_isWordCharacter (isWord.2 _ member)
  | point isWord _ inductionHypothesis =>
      refine List.forall_mem_append.mpr ⟨?_, ?_⟩
      · exact fun character member => isPlain_of_isWordCharacter (isWord.2 _ member)
      · exact List.forall_mem_cons.mpr ⟨by decide, inductionHypothesis⟩

/-- A key starts with no sign. -/
theorem IsKey.splitSign {key : List Char} (isKey : IsKey key) :
    splitSign key = (.ascending, key) := by
  have isDotted := isKey.isDotted
  unfold SortClause.splitSign
  split
  · exact absurd isDotted (by simp [SortClause.isDotted, isWordCharacter])
  · exact absurd isDotted (by simp [SortClause.isDotted, isWordCharacter])
  · rfl

theorem parse_of_splitSign
    {key text : String} {order : SortOrder} (isKey : IsKey key.toList)
    (isSplit : SortClause.splitSign text.toList = (order, key.toList)) :
    parse text = .ok ⟨text, key, order⟩ := by
  rw [parse, isSplit]
  simp only [isKey.isDotted, if_true, String.ofList_toList]

/-- Blanks before a sort are not skipped. -/
theorem parse_blank (text : List Char) :
    parse (String.ofList (' ' :: text)) = .error .malformed := by
  have isSplit :
      SortClause.splitSign (String.ofList (' ' :: text)).toList = (.ascending, ' ' :: text) := by
    rw [String.toList_ofList]
    rfl
  rw [parse, isSplit]
  simp [SortClause.isDotted, isWordCharacter]

end SortClause

namespace Query

/-- The query that asks for a single sort and nothing else. -/
def sortedBy (clause : SortClause) : Query :=
  { sorts := Slots.empty.insert 0 clause }

/-! ## A list of one sort -/

theorem collect_sort_entry (text : String) :
    Entries.collect SortClause.parse (OrderedMap.empty.insert "0" text) =
      match SortClause.parse text with
      | .ok clause => .ok (Slots.empty.insert 0 clause)
      | .error fault => .error (.entry 0 text fault) := by
  have isIndex : Entries.readIndex "0" = .ok 0 := by decide
  have notHeld : (Slots.empty : Slots SortClause).contains 0 = false := rfl
  have alone :
      Entries.distinct [] ((OrderedMap.empty : OrderedMap String String).insert "0" text).entries =
        [("0", text)] := rfl
  rw [Entries.collect, alone, Entries.collectInto, isIndex]
  simp only [notHeld, Bool.false_eq_true, if_false]
  cases SortClause.parse text with
  | ok clause => rfl
  | error fault => rfl

theorem get?_ofPairs_sort (text : String) :
    (QueryInput.ofPairs [("sort[]", text)]).get? "sort" =
      some (.list (OrderedMap.empty.insert "0" text)) := by
  have split : QueryInput.splitBrackets? "sort[]" = some ("sort", "") := by decide
  have appended : QueryInput.ofPairs [("sort[]", text)] = QueryInput.empty.push "sort" text := by
    simp [QueryInput.ofPairs, QueryInput.insertPair, split]
  have isFirst :
      toString (QueryInput.nextKey (QueryInput.empty.entriesOf "sort").keys) = "0" := by
    decide
  rw [appended, QueryInput.push, isFirst, QueryInput.get?_insertItem_self]
  rfl

/-- A text in the list of sorts, and nothing else. -/
theorem parse_ofPairs_sort (text : String) :
    parse (.ofPairs [("sort[]", text)]) =
      match SortClause.parse text with
      | .ok clause => .ok (sortedBy clause)
      | .error fault => .error (.sorts (.entry 0 text fault)) := by
  have isAbsent :
      ∀ parameter : String,
        QueryInput.baseName "sort[]" ≠ parameter →
          (QueryInput.ofPairs [("sort[]", text)]).get? parameter = none :=
    fun _ different => QueryInput.get?_insertPair_of_ne different
  have noFilters : (QueryInput.ofPairs [("sort[]", text)]).get? "filter" = none :=
    isAbsent "filter" (by decide)
  have noExpression : (QueryInput.ofPairs [("sort[]", text)]).get? "filterExpression" = none :=
    isAbsent "filterExpression" (by decide)
  simp only [parse, collectParameter, Entries.Parameter.name, readExpression, expressionParameter,
    noFilters, noExpression, get?_ofPairs_sort, collect_sort_entry]
  cases SortClause.parse text with
  | ok clause => rfl
  | error fault => rfl

/-! ## Query strings -/

section QueryStrings

variable {query : String} {written text : List Char}

theorem ofQueryString_sort
    (isSort : query.toList = "sort[]=".toList ++ written) (spells : Form.Spells written text) :
    QueryInput.ofQueryString query = .ofPairs [("sort[]", String.ofList text)] := by
  have isName : Form.Spells "sort[]".toList "sort[]".toList :=
    Form.spells_of_isPlain (by simp [Form.IsPlain])
  have isPair : query.toList = "sort[]".toList ++ '=' :: written := by
    rw [isSort]
    rfl
  have decoded := Form.decode_of_spells isName spells
  rw [QueryInput.ofQueryString, isPair]
  exact congrArg QueryInput.ofPairs decoded

/-- The query string spells the text of a sort on a key. -/
theorem parse_sort_of_spells
    {key : String} {order : SortOrder}
    (isSort : query.toList = "sort[]=".toList ++ written) (spells : Form.Spells written text)
    (isKey : SortClause.IsKey key.toList)
    (isSplit : SortClause.splitSign text = (order, key.toList)) :
    parse (.ofQueryString query) = .ok (sortedBy ⟨String.ofList text, key, order⟩) := by
  have isClause :
      SortClause.parse (String.ofList text) = .ok ⟨String.ofList text, key, order⟩ := by
    apply SortClause.parse_of_splitSign isKey
    rw [String.toList_ofList, isSplit]
  rw [ofQueryString_sort isSort spells, parse_ofPairs_sort, isClause]

/-- A plus sign that is not spelled `%2B` is read as a blank, which starts no sort. -/
theorem parse_plus_sort
    (isSort : query.toList = "sort[]=".toList ++ '+' :: written)
    (spells : Form.Spells written text) :
    parse (.ofQueryString query) =
      .error (.sorts (.entry 0 (String.ofList (' ' :: text)) .malformed)) := by
  rw [ofQueryString_sort isSort (Form.Spells.plus spells), parse_ofPairs_sort,
    SortClause.parse_blank]

end QueryStrings

/-- What a query string with a single sort asks for.  The order is ascending for a key alone and
descending for a key after a minus sign.  A plus sign has to be spelled `%2B`: written as it is, it
makes the sort malformed. -/
theorem parse_signed_sorts {key : String} (isKey : SortClause.IsKey key.toList) :
    parse (.ofQueryString ("sort[]=" ++ key)) = .ok (sortedBy ⟨key, key, .ascending⟩) ∧
      parse (.ofQueryString ("sort[]=-" ++ key)) =
        .ok (sortedBy ⟨"-" ++ key, key, .descending⟩) ∧
      parse (.ofQueryString ("sort[]=%2B" ++ key)) =
        .ok (sortedBy ⟨"+" ++ key, key, .ascending⟩) ∧
      parse (.ofQueryString ("sort[]=+" ++ key)) =
        .error (.sorts (.entry 0 (" " ++ key) .malformed)) := by
  have spellsKey : Form.Spells key.toList key.toList := Form.spells_of_isPlain isKey.isPlain
  have keyText : String.ofList key.toList = key := String.ofList_toList
  have withFirst :
      ∀ (first : Char) (sign : String), sign.toList = [first] →
        String.ofList (first :: key.toList) = sign ++ key := by
    intro first sign isSign
    rw [← String.toList_inj, String.toList_ofList, String.toList_append, isSign]
    rfl
  refine ⟨?_, ?_, ?_, ?_⟩
  · have sorted := parse_sort_of_spells String.toList_append spellsKey isKey isKey.splitSign
    rwa [keyText] at sorted
  · have isMinus : Form.Spells ('-' :: key.toList) ('-' :: key.toList) :=
      Form.Spells.plain (by decide) spellsKey
    rw [← withFirst '-' "-" rfl]
    exact parse_sort_of_spells String.toList_append isMinus isKey rfl
  · rw [← withFirst '+' "+" rfl]
    exact
      parse_sort_of_spells String.toList_append (Form.spells_percentPlus spellsKey) isKey rfl
  · rw [← withFirst ' ' " " rfl]
    exact parse_plus_sort String.toList_append spellsKey

theorem isKey_author : SortClause.IsKey "author.created_at".toList :=
  SortClause.isDotted_iff_isKey.mp (by decide)

theorem parse_signed_sorts_author :
    SortClause.IsKey "author.created_at".toList ∧
      parse (.ofQueryString "sort[]=author.created_at") =
          .ok (sortedBy ⟨"author.created_at", "author.created_at", .ascending⟩) ∧
        parse (.ofQueryString "sort[]=-author.created_at") =
          .ok (sortedBy ⟨"-author.created_at", "author.created_at", .descending⟩) ∧
        parse (.ofQueryString "sort[]=%2Bauthor.created_at") =
          .ok (sortedBy ⟨"+author.created_at", "author.created_at", .ascending⟩) ∧
        parse (.ofQueryString "sort[]=+author.created_at") =
          .error (.sorts (.entry 0 " author.created_at" .malformed)) :=
  ⟨isKey_author, parse_signed_sorts isKey_author⟩

/-- A sort that is refused although the failure itself says how to write it so. -/
theorem parse_plus_sort_name :
    SortClause.IsKey "name".toList ∧
      parse (.ofQueryString "sort[]=+name") =
          .error (.sorts (.entry 0 " name" .malformed)) ∧
        (Fault.sorts (.entry 0 " name" .malformed)).failure.help =
          some "Use [+|-]key, e.g. sort[]=-createdAt" := by
  have isKey : SortClause.IsKey "name".toList := SortClause.isDotted_iff_isKey.mp (by decide)
  refine ⟨isKey, ?_, rfl⟩
  exact parse_plus_sort rfl (Form.spells_of_isPlain isKey.isPlain)

end Query

end FilterQuery
