import FilterQuery.Text.Utf8

/-!
# Quoted text

Strings are written between double quotes.  Inside, a backslash stands before
a double quote or a backslash that is meant literally; a backslash before any
other character is an ordinary character, and so is that other character.

* `escape` writes a text, putting a backslash before every backslash and every
  double quote;
* `unescape?` reads the text between the quotes and refuses a double quote
  without a backslash, or a backslash that ends the text;
* `closingQuote?` finds the quote that closes a text that follows an opening
  quote, and `beforeClosingQuote?` cuts the text there.
-/

namespace FilterQuery.Text.Quoted

/-- Put a backslash before every double quote and every backslash. -/
def escape : List Char → List Char
  | [] => []
  | character :: rest =>
      if character = '"' ∨ character = '\\' then
        '\\' :: character :: escape rest
      else
        character :: escape rest

/-- Read the text between two double quotes. -/
def unescape? : List Char → Option (List Char)
  | [] => some []
  | '\\' :: '"' :: rest => (unescape? rest).map ('"' :: ·)
  | '\\' :: '\\' :: rest => (unescape? rest).map ('\\' :: ·)
  | '\\' :: other :: rest =>
      (unescape? rest).map fun text => '\\' :: other :: text
  | ['\\'] => none
  | character :: rest =>
      if character = '"' then none
      else (unescape? rest).map (character :: ·)

/-- The offset in bytes of the first double quote that is not escaped, in a text
that starts at the given offset.  The first character is escaped if a backslash
stands before it that is not escaped itself. -/
def closingQuoteFrom? (escaped : Bool) (offset : Nat) : List Char → Option Nat
  | [] => none
  | character :: rest =>
      if escaped then
        closingQuoteFrom? false (offset + character.utf8Size) rest
      else if character = '\\' then
        closingQuoteFrom? true (offset + character.utf8Size) rest
      else if character = '"' then some offset
      else closingQuoteFrom? false (offset + character.utf8Size) rest

/-- The offset in bytes of the quote that closes a text after an opening one. -/
def closingQuote? (characters : List Char) : Option Nat :=
  closingQuoteFrom? false 0 characters

/-- Cut a text after an opening double quote at the closing one: the text
between the quotes, and what follows the closing quote, which is one byte. -/
def beforeClosingQuote? (characters : List Char) : Option (List Char × List Char) :=
  (closingQuote? characters).bind fun offset =>
    (Utf8.splitAt? offset characters).bind fun atQuote =>
      (Utf8.splitAt? (offset + 1) characters).map fun behindQuote =>
        (atQuote.1, behindQuote.2)

theorem unescape?_escape (text : List Char) :
    unescape? (escape text) = some text := by
  induction text with
  | nil => rfl
  | cons character rest inductionHypothesis =>
      by_cases quote : character = '"'
      · subst quote
        simp [escape, unescape?, inductionHypothesis]
      · by_cases backslash : character = '\\'
        · subst backslash
          simp [escape, unescape?, inductionHypothesis]
        · simp [escape, unescape?, quote, backslash, inductionHypothesis]

/-- The closing quote lies inside the text, so what follows it is shorter. -/
theorem length_after_lt {characters inner after : List Char}
    (found : beforeClosingQuote? characters = some (inner, after)) :
    after.length < characters.length := by
  obtain ⟨offset, _, found⟩ := Option.bind_eq_some_iff.mp found
  obtain ⟨_, _, found⟩ := Option.bind_eq_some_iff.mp found
  obtain ⟨⟨before, _⟩, cut, same⟩ := Option.map_eq_some_iff.mp found
  cases same
  obtain ⟨whole, size⟩ := Utf8.eq_append_of_splitAt? cut
  rw [whole, List.length_append]
  cases before with
  | nil => cases size
  | cons => exact Nat.lt_add_of_pos_left (Nat.succ_pos _)

end FilterQuery.Text.Quoted
