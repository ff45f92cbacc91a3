import FilterQuery.Text.Quoted

/-!
# The closing quote of a text

The search for a closing quote goes from character to character and keeps a flag, while the text
between two quotes is read by taking a backslash together with the character behind it.  They agree:

* `closingQuote?_eq_some_iff`: a quote closes a text exactly if what precedes it can be read;
* `beforeClosingQuote?_eq_some_iff`: the text is cut at this quote.
-/

namespace FilterQuery.Text.Quoted

variable {characters inner after : List Char} {character : Char} {offset found : Nat}

/-! ## What can be read -/

/-- The text can stand between two quotes. -/
def IsReadable (inner : List Char) : Prop :=
  ∃ text, unescape? inner = some text

theorem isReadable_nil : IsReadable [] :=
  ⟨[], rfl⟩

theorem not_isReadable_of_none (unread : unescape? inner = none) : ¬IsReadable inner := by
  rintro ⟨text, read⟩
  rw [unread] at read
  cases read

theorem isReadable_iff_of_map {rest : List Char} {add : List Char → List Char}
    (step : unescape? inner = (unescape? rest).map add) :
    IsReadable inner ↔ IsReadable rest := by
  simp only [IsReadable, step, Option.map_eq_some_iff]
  constructor
  · rintro ⟨_, text, read, _⟩
    exact ⟨text, read⟩
  · rintro ⟨text, read⟩
    exact ⟨add text, text, read, rfl⟩

theorem isReadable_escaped_iff :
    IsReadable ('\\' :: character :: inner) ↔ IsReadable inner := by
  by_cases quote : character = '"'
  · subst quote
    exact isReadable_iff_of_map rfl
  by_cases backslash : character = '\\'
  · subst backslash
    exact isReadable_iff_of_map rfl
  apply isReadable_iff_of_map
  rw [unescape?]
  · exact quote
  · exact backslash

theorem isReadable_cons_iff (notBackslash : character ≠ '\\') :
    IsReadable (character :: inner) ↔ character ≠ '"' ∧ IsReadable inner := by
  have step :
      unescape? (character :: inner) =
        if character = '"' then none else (unescape? inner).map (character :: ·) := by
    rw [unescape?] <;> intros <;> contradiction
  by_cases quote : character = '"'
  · rw [if_pos quote] at step
    exact iff_of_false (not_isReadable_of_none step) fun both => both.1 quote
  · rw [if_neg quote] at step
    rw [isReadable_iff_of_map step, and_iff_right quote]

/-! ## What the search finds -/

/-- The text with the backslash that the flag of the search stands for. -/
def withEscape (escaped : Bool) (inner : List Char) : List Char :=
  if escaped then '\\' :: inner else inner

theorem isReadable_withEscape_nil_iff {escaped : Bool} :
    IsReadable (withEscape escaped []) ↔ escaped = false := by
  cases escaped with
  | false => exact iff_of_true isReadable_nil rfl
  | true => exact iff_of_false (not_isReadable_of_none rfl) Bool.true_eq_false.mp

/-- A quote stands behind a text that can be read, at an offset in bytes. -/
def Closes (escaped : Bool) (offset : Nat) (characters : List Char) (found : Nat) : Prop :=
  ∃ inner after,
    characters = inner ++ '"' :: after ∧ offset + (Utf8.encode inner).length = found ∧
      IsReadable (withEscape escaped inner)

variable {escaped : Bool} {rest : List Char}

theorem not_closes_nil : ¬Closes escaped offset [] found := by
  rintro ⟨inner, after, whole, _⟩
  exact List.append_ne_nil_of_right_ne_nil inner (List.cons_ne_nil _ _) whole.symm

/-- The first character is the quote itself, or it is read before the quote. -/
theorem closes_cons_iff :
    Closes escaped offset (character :: rest) found ↔
      character = '"' ∧ escaped = false ∧ offset = found ∨
        ∃ inner after,
          rest = inner ++ '"' :: after ∧
            offset + character.utf8Size + (Utf8.encode inner).length = found ∧
              IsReadable (withEscape escaped (character :: inner)) := by
  constructor
  · rintro ⟨inner, after, whole, size, readable⟩
    cases inner with
    | nil =>
        obtain ⟨rfl, _⟩ := List.cons.inj whole
        exact .inl ⟨rfl, isReadable_withEscape_nil_iff.mp readable, size⟩
    | cons first inner =>
        obtain ⟨rfl, isRest⟩ := List.cons.inj whole
        rw [Utf8.length_encode_cons, ← Nat.add_assoc] at size
        exact .inr ⟨inner, after, isRest, size, readable⟩
  · rintro (⟨rfl, notEscaped, rfl⟩ | ⟨inner, after, rfl, size, readable⟩)
    · exact ⟨[], rest, rfl, rfl, isReadable_withEscape_nil_iff.mpr notEscaped⟩
    · refine ⟨character :: inner, after, rfl, ?_, readable⟩
      rw [Utf8.length_encode_cons, ← Nat.add_assoc, size]

theorem closes_escaped_iff :
    Closes true offset (character :: rest) found ↔
      Closes false (offset + character.utf8Size) rest found := by
  rw [closes_cons_iff]
  simp only [withEscape, if_true, isReadable_escaped_iff, Bool.true_eq_false, false_and, and_false,
    false_or, Closes, Bool.false_eq_true, if_false]

theorem closes_backslash_iff :
    Closes false offset ('\\' :: rest) found ↔
      Closes true (offset + Char.utf8Size '\\') rest found := by
  rw [closes_cons_iff]
  have differs : ('\\' : Char) ≠ '"' := by decide
  simp only [differs, false_and, false_or]
  rfl

theorem closes_quote_iff : Closes false offset ('"' :: rest) found ↔ offset = found := by
  rw [closes_cons_iff]
  constructor
  · rintro (⟨_, _, here⟩ | ⟨inner, after, _, _, readable⟩)
    · exact here
    · exact absurd readable (not_isReadable_of_none rfl)
  · exact fun here => .inl ⟨rfl, rfl, here⟩

theorem closes_other_iff (notBackslash : character ≠ '\\') (notQuote : character ≠ '"') :
    Closes false offset (character :: rest) found ↔
      Closes false (offset + character.utf8Size) rest found := by
  rw [closes_cons_iff]
  simp only [withEscape, Bool.false_eq_true, if_false, isReadable_cons_iff notBackslash, notQuote,
    ne_eq, not_false_iff, true_and, false_and, false_or, Closes]

/-- The search finds the quotes behind texts that can be read, and no others. -/
theorem closingQuoteFrom?_eq_some_iff :
    closingQuoteFrom? escaped offset characters = some found ↔
      Closes escaped offset characters found := by
  -- The flag stands for a backslash that the search has passed already, and every character can
  -- change it, so the induction is for both flags and all offsets.
  induction characters generalizing escaped offset with
  | nil => exact iff_of_false (Option.some_ne_none found).symm not_closes_nil
  | cons character rest inductionHypothesis =>
      rw [closingQuoteFrom?]
      cases escaped with
      | true => rw [if_pos rfl, inductionHypothesis, closes_escaped_iff]
      | false =>
          rw [if_neg Bool.false_ne_true]
          by_cases backslash : character = '\\'
          · rw [if_pos backslash, inductionHypothesis, backslash, closes_backslash_iff]
          rw [if_neg backslash]
          by_cases quote : character = '"'
          · rw [if_pos quote, quote, closes_quote_iff, Option.some_inj]
          · rw [if_neg quote, inductionHypothesis, closes_other_iff backslash quote]

/-- A quote closes a text exactly if what precedes it can be read. -/
theorem closingQuote?_eq_some_iff :
    closingQuote? characters = some offset ↔
      ∃ inner after,
        characters = inner ++ '"' :: after ∧ (Utf8.encode inner).length = offset ∧
          IsReadable inner := by
  rw [closingQuote?, closingQuoteFrom?_eq_some_iff]
  simp only [Closes, Nat.zero_add, withEscape, Bool.false_eq_true, if_false]

theorem closingQuote?_append (readable : IsReadable inner) (after : List Char) :
    closingQuote? (inner ++ '"' :: after) = some (Utf8.encode inner).length :=
  closingQuote?_eq_some_iff.mpr ⟨inner, after, rfl, rfl, readable⟩

theorem not_isReadable_of_closingQuote?_eq_none
    (notFound : closingQuote? (inner ++ '"' :: after) = none) : ¬IsReadable inner := by
  intro readable
  rw [closingQuote?_append readable] at notFound
  cases notFound

/-! ## Where the text is cut -/

theorem length_encode_quote (inner : List Char) :
    (Utf8.encode (inner ++ ['"'])).length = (Utf8.encode inner).length + 1 := by
  rw [Utf8.encode_append, List.length_append]
  rfl

/-- A text that can be read has no closing quote in it. -/
theorem beforeClosingQuote?_append (readable : IsReadable inner) (after : List Char) :
    beforeClosingQuote? (inner ++ '"' :: after) = some (inner, after) := by
  have behind := Utf8.splitAt?_append (inner ++ ['"']) after
  rw [length_encode_quote, List.append_assoc, List.singleton_append] at behind
  rw [beforeClosingQuote?, closingQuote?_append readable, Option.bind_some,
    Utf8.splitAt?_append, Option.bind_some, behind, Option.map_some]

theorem beforeClosingQuote?_eq_some_iff :
    beforeClosingQuote? characters = some (inner, after) ↔
      characters = inner ++ '"' :: after ∧ IsReadable inner := by
  constructor
  · intro cut
    obtain ⟨offset, closing, _⟩ := Option.bind_eq_some_iff.mp cut
    obtain ⟨before, rest, rfl, _, readable⟩ := closingQuote?_eq_some_iff.mp closing
    rw [beforeClosingQuote?_append readable] at cut
    cases cut
    exact ⟨rfl, readable⟩
  · rintro ⟨rfl, readable⟩
    exact beforeClosingQuote?_append readable after

end FilterQuery.Text.Quoted
