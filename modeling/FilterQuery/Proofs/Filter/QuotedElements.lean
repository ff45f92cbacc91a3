import FilterQuery.Proofs.Filter.Writing
import FilterQuery.Proofs.Text.Quoted

/-!
# Texts in lists

A text in a list is cut off at its closing quote before it is read.  Both steps follow the
backslashes on their own, but a text that is cut off can always be read:

* `element_of_isReadable`: behind a text that can be read, the closing quote is the one that is
  found, and the text is an element;
* `quotes_close_readable_texts` relates the search and the reader, with offsets in bytes.
-/

namespace FilterQuery.Literal

open FilterQuery.Text

variable {inner : List Char}

/-! ## The text between two quotes -/

theorem quotedText_eq_error_iff :
    quotedText inner = .error (.invalidString (String.ofList inner)) ↔
      ¬Quoted.IsReadable inner := by
  unfold quotedText
  split
  · rename_i unread
    exact iff_of_true rfl (Quoted.not_isReadable_of_none unread)
  · rename_i text read
    refine iff_of_false ?_ (not_not_intro ⟨text, read⟩)
    intro failed
    cases failed

theorem element_of_isReadable (readable : Quoted.IsReadable inner) (after : List Char) :
    ∃ value,
      quotedText inner = .ok value ∧
        ∀ index, element index ('"' :: (inner ++ '"' :: after)) = .ok (.string value, after) := by
  obtain ⟨text, read⟩ := readable
  refine ⟨String.ofList text, ?_, ?_⟩
  · simp only [quotedText, read]
  · intro index
    simp only [element, Quoted.beforeClosingQuote?_append ⟨text, read⟩, read]

/-! ## Offsets -/

/-- A double quote stands at an offset in bytes of a text, with `before` and `after` around it. -/
structure QuoteAt (text : String) (offset : Nat) (before after : String) : Prop where
  text_eq : text = before ++ "\"" ++ after
  utf8ByteSize_eq : before.utf8ByteSize = offset

namespace QuoteAt

variable {text before after : String} {offset : Nat}

theorem toList_eq (quote : QuoteAt text offset before after) :
    text.toList = before.toList ++ '"' :: after.toList := by
  rw [quote.text_eq, String.toList_append, String.toList_append, List.append_assoc]
  rfl

theorem of_toList_eq {inner rest : List Char} (whole : text.toList = inner ++ '"' :: rest) :
    QuoteAt text (Utf8.encode inner).length (String.ofList inner) (String.ofList rest) where
  text_eq := by
    simp only [← String.toList_inj, whole, String.toList_append, String.toList_ofList,
      List.append_assoc]
    rfl
  utf8ByteSize_eq := by rw [Utf8.utf8ByteSize_eq, String.toList_ofList]

/-- A character starts where the quote is. -/
theorem isValid (quote : QuoteAt text offset before after) :
    (⟨offset⟩ : String.Pos.Raw).IsValid text := by
  rw [String.Pos.Raw.isValid_iff_exists_append]
  refine ⟨before, "\"" ++ after, ?_, ?_⟩
  · rw [quote.text_eq, String.append_assoc]
  · rw [← quote.utf8ByteSize_eq]
    rfl

end QuoteAt

/-- The search for a closing quote and the reader of the text between two quotes agree.  A quote
that is found starts a character, and what precedes it is read, so that an element of a list that
starts with a quote is read if its closing quote is found.  If no quote is found, what precedes a
quote cannot be read.  An escaped text is read as the text, and the quote behind it is found. -/
theorem quotes_close_readable_texts (text : String) :
    (∀ offset, Quoted.closingQuote? text.toList = some offset →
      (⟨offset⟩ : String.Pos.Raw).IsValid text ∧
        ∃ before after value,
          QuoteAt text offset before after ∧ quotedText before.toList = .ok value ∧
            ∀ index, element index ('"' :: text.toList) = .ok (.string value, after.toList)) ∧
      (Quoted.closingQuote? text.toList = none →
        ∀ offset before after, QuoteAt text offset before after →
          quotedText before.toList = .error (.invalidString before)) ∧
      ∀ value after : String,
        quotedText (Quoted.escape value.toList) = .ok value ∧
          Quoted.closingQuote? (Quoted.escape value.toList ++ '"' :: after.toList) =
            some (String.ofList (Quoted.escape value.toList)).utf8ByteSize := by
  refine ⟨?_, ?_, ?_⟩
  · intro offset isFound
    obtain ⟨inner, rest, whole, rfl, readable⟩ := Quoted.closingQuote?_eq_some_iff.mp isFound
    have quote := QuoteAt.of_toList_eq whole
    obtain ⟨value, read, isElement⟩ := element_of_isReadable readable rest
    refine ⟨quote.isValid, _, _, value, quote, ?_, ?_⟩
    · rw [String.toList_ofList, read]
    · intro index
      rw [whole, isElement, String.toList_ofList]
  · intro notFound offset before after quote
    rw [quote.toList_eq] at notFound
    have unread := Quoted.not_isReadable_of_closingQuote?_eq_none notFound
    rw [← quotedText_eq_error_iff, String.ofList_toList] at unread
    exact unread
  · intro value after
    have readable : Quoted.IsReadable (Quoted.escape value.toList) :=
      ⟨_, Quoted.unescape?_escape value.toList⟩
    refine ⟨quotedText_escape value, ?_⟩
    rw [Quoted.closingQuote?_append readable, Utf8.utf8ByteSize_eq, String.toList_ofList]

/-- An even run of backslashes leaves the quote behind it a closing one, an odd run escapes it. -/
theorem quotes_close_readable_texts_backslashes :
    Quoted.closingQuote? "ü\\\\\",7".toList = some 4 ∧
      (∃ before after value,
        QuoteAt "ü\\\\\",7" 4 before after ∧ quotedText before.toList = .ok value ∧
          element 0 ('"' :: "ü\\\\\",7".toList) = .ok (.string value, after.toList)) ∧
      Quoted.closingQuote? "ü\\\\\\\",7".toList = none ∧
        quotedText "ü\\\\\\".toList = .error (.invalidString "ü\\\\\\") := by
  have isFound : Quoted.closingQuote? "ü\\\\\",7".toList = some 4 := by decide
  have notFound : Quoted.closingQuote? "ü\\\\\\\",7".toList = none := by decide
  have escapedQuote : QuoteAt "ü\\\\\\\",7" 5 "ü\\\\\\" ",7" := ⟨by decide, by decide⟩
  obtain ⟨_, before, after, value, quote, read, isElement⟩ :=
    (quotes_close_readable_texts "ü\\\\\",7").1 4 isFound
  refine ⟨isFound, ⟨before, after, value, quote, read, isElement 0⟩, notFound, ?_⟩
  exact (quotes_close_readable_texts "ü\\\\\\\",7").2.1 notFound 5 _ _ escapedQuote

end FilterQuery.Literal
