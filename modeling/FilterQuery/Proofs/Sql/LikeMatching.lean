import FilterQuery.Proofs.Text.Lowercase
import FilterQuery.Sql.Condition
import Mathlib.Data.List.Infix

/-!
# Like patterns match what they are meant to

`likeMatches` is how a database compares a text with a like pattern, where the backslash is the
escape character.  The pattern that is bound for a filter matches exactly the texts that have the
text of the filter at the place that its wildcards leave open (`likeMatches_likeValue_iff`): the
escaped text matches itself only, whatever stands in it and whatever follows it
(`likeMatches_escapeLike_append_iff`).  If letter case is disregarded, that is the text in lower
case, and a text of ASCII can be given in any case (`likeValue_congr_letterCase`).
-/

namespace FilterQuery.Sql

open FilterQuery.Text

/-- Whether the text matches the pattern.  A percent sign stands for any run of characters and an
underscore for any one of them; after a backslash a character stands for itself.  A backslash that
ends a pattern escapes nothing, and matches nothing. -/
def likeMatches : List Char → List Char → Bool
  | [], text => text.isEmpty
  | '%' :: pattern, text => text.tails.any fun rest => likeMatches pattern rest
  | '_' :: pattern, text =>
      match text with
      | [] => false
      | _ :: rest => likeMatches pattern rest
  | ['\\'], _ => false
  | '\\' :: literal :: pattern, text =>
      match text with
      | [] => false
      | first :: rest => first == literal && likeMatches pattern rest
  | literal :: pattern, text =>
      match text with
      | [] => false
      | first :: rest => first == literal && likeMatches pattern rest

example : likeMatches "%5\\%\\_".toList "now 5%_".toList = true := by decide

/-- The text has the literal in it, as far as the ends are closed at the end of the text. -/
def HasLiteral (openLeft openRight : Bool) (literal text : List Char) : Prop :=
  match openLeft, openRight with
  | true, true => literal <:+: text
  | true, false => literal <:+ text
  | false, true => literal <+: text
  | false, false => text = literal

section

variable {pattern text literal : List Char}

theorem likeMatches_percent_iff :
    likeMatches ('%' :: pattern) text = true ↔
      ∃ rest, rest <:+ text ∧ likeMatches pattern rest = true := by
  simp only [likeMatches, List.any_eq_true, List.mem_tails]

/-- A character that has no meaning in patterns matches itself. -/
theorem likeMatches_plain_iff
    {character : Char} (plain : character ∉ ['%', '_', '\\']) :
    likeMatches (character :: pattern) text = true ↔
      ∃ rest, text = character :: rest ∧ likeMatches pattern rest = true := by
  simp only [List.mem_cons, List.not_mem_nil, or_false, not_or] at plain
  cases text with
  | nil => simp [likeMatches, plain]
  | cons first rest =>
      simp [likeMatches, plain]

theorem likeMatches_backslash_iff {character : Char} :
    likeMatches ('\\' :: character :: pattern) text = true ↔
      ∃ rest, text = character :: rest ∧ likeMatches pattern rest = true := by
  cases text with
  | nil => simp [likeMatches]
  | cons first rest => simp [likeMatches]

/-- An escaped text matches itself, whatever pattern follows. -/
theorem likeMatches_escapeLike_append_iff :
    likeMatches (escapeLike literal ++ pattern) text = true ↔
      ∃ rest, text = literal ++ rest ∧ likeMatches pattern rest = true := by
  -- The pattern that follows stays arbitrary: no escape may reach into the wildcard after it.
  induction literal generalizing text with
  | nil => simp [escapeLike]
  | cons character others inductionHypothesis =>
      have first :
          likeMatches (escapeLike (character :: others) ++ pattern) text = true ↔
            ∃ rest, text = character :: rest ∧
              likeMatches (escapeLike others ++ pattern) rest = true := by
        rw [escapeLike, List.flatMap_cons, ← escapeLike, List.append_assoc]
        by_cases special : character = '%' || character = '_' || character = '\\'
        · rw [if_pos special]
          exact likeMatches_backslash_iff
        · rw [if_neg special]
          exact likeMatches_plain_iff (by simpa [and_assoc] using special)
      simp only [first, inductionHypothesis]
      constructor
      · rintro ⟨_, rfl, rest, rfl, isMatch⟩
        exact ⟨rest, rfl, isMatch⟩
      · rintro ⟨rest, rfl, isMatch⟩
        exact ⟨others ++ rest, rfl, rest, rfl, isMatch⟩

/-- A wildcard at the end matches any rest, and no wildcard only the empty one. -/
theorem likeMatches_wildcard_iff {isOpen : Bool} :
    likeMatches (wildcard isOpen) text = true ↔ isOpen = true ∨ text = [] := by
  cases isOpen with
  | false => simp [wildcard, likeMatches]
  | true =>
      have all : [] <:+ text := List.nil_suffix
      simp only [wildcard, if_true, true_or, iff_true]
      exact likeMatches_percent_iff.mpr ⟨[], all, rfl⟩

/-- Where a pattern is open on the left, anything may stand before what it matches. -/
theorem likeMatches_wildcard_append_iff {isOpen : Bool} :
    likeMatches (wildcard isOpen ++ pattern) text = true ↔
      ∃ before rest, text = before ++ rest ∧ (isOpen = true ∨ before = []) ∧
        likeMatches pattern rest = true := by
  cases isOpen with
  | false => simp [wildcard]
  | true =>
      have start : wildcard true ++ pattern = '%' :: pattern := rfl
      rw [start, likeMatches_percent_iff]
      constructor
      · rintro ⟨rest, ⟨before, rfl⟩, isMatch⟩
        exact ⟨before, rest, rfl, .inl rfl, isMatch⟩
      · rintro ⟨before, rest, rfl, _, isMatch⟩
        exact ⟨rest, ⟨before, rfl⟩, isMatch⟩

theorem hasLiteral_iff {openLeft openRight : Bool} :
    HasLiteral openLeft openRight literal text ↔
      ∃ before after, text = before ++ literal ++ after ∧
        (openLeft = true ∨ before = []) ∧ (openRight = true ∨ after = []) := by
  cases openLeft <;> cases openRight
  · simp [HasLiteral]
  · simp [HasLiteral, List.IsPrefix, eq_comm]
  · simp [HasLiteral, List.IsSuffix, eq_comm]
  · simp [HasLiteral, List.IsInfix, eq_comm]

end

/-- Where letter case is disregarded, texts that differ in it only are bound as one pattern. -/
theorem likeValue_congr_letterCase
    {text other : String} (isAscii : IsAscii text.toList) (otherIsAscii : IsAscii other.toList)
    (sameLetters : text.toList.map Char.toLower = other.toList.map Char.toLower)
    (openLeft openRight : Bool) :
    likeValue ⟨text, openLeft, openRight⟩ true = likeValue ⟨other, openLeft, openRight⟩ true := by
  have sameText : foldCase true text = foldCase true other :=
    (lowercase_eq_lowercase_iff isAscii otherIsAscii).mpr sameLetters
  rw [likeValue, likeValue, sameText]

/-- The pattern that is bound for a filter matches exactly the texts that have its text at the
place that the wildcards leave open. -/
theorem likeMatches_likeValue_iff
    (pattern : LikePattern) (caseInsensitive : Bool) (column : String) :
    likeMatches (likeValue pattern caseInsensitive).toList column.toList = true ↔
      HasLiteral pattern.wildcardLeft pattern.wildcardRight
        (if caseInsensitive then lowercase pattern.text else pattern.text).toList
        column.toList := by
  rw [likeValue, foldCase, String.toList_ofList, List.append_assoc,
    likeMatches_wildcard_append_iff, hasLiteral_iff]
  simp only [likeMatches_escapeLike_append_iff, likeMatches_wildcard_iff]
  constructor
  · rintro ⟨before, _, whole, atStart, after, rfl, atEnd⟩
    exact ⟨before, after, by rw [whole, List.append_assoc], atStart, atEnd⟩
  · rintro ⟨before, after, whole, atStart, atEnd⟩
    exact ⟨before, _, by rw [whole, List.append_assoc], atStart, after, rfl, atEnd⟩

example : likeMatches (likeValue ⟨"50%_Ä", true, true⟩ true).toList "+50%_äb".toList = true := by
  decide

example : likeMatches (likeValue ⟨"50%_Ä", true, true⟩ false).toList "+50%_äb".toList = false := by
  decide

end FilterQuery.Sql
