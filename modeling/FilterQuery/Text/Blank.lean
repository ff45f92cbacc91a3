/-!
# Blank characters

Blank characters are those with the Unicode property `White_Space`.  Keys,
values and expressions are trimmed of them on both sides; a text made of
blanks only counts as empty.

* `isBlank` is the property itself, written as its ranges of code points;
* `trimStart`, `trimEnd` and `trim` act on lists of characters;
* `trimBlanks` and `isBlankText` are the same on texts.
-/

namespace FilterQuery.Text

/-- Whether a character has the Unicode property `White_Space`. -/
def isBlank (character : Char) : Bool :=
  let code := character.toNat
  (0x09 ≤ code && code ≤ 0x0D) || code == 0x20 || code == 0x85 ||
    code == 0xA0 || code == 0x1680 || (0x2000 ≤ code && code ≤ 0x200A) ||
    code == 0x2028 || code == 0x2029 || code == 0x202F || code == 0x205F ||
    code == 0x3000

/-- Drop the leading blanks. -/
def trimStart (characters : List Char) : List Char :=
  characters.dropWhile isBlank

/-- Drop the trailing blanks. -/
def trimEnd (characters : List Char) : List Char :=
  (characters.reverse.dropWhile isBlank).reverse

/-- Drop the blanks on both sides. -/
def trim (characters : List Char) : List Char :=
  trimEnd (trimStart characters)

/-- The text without the blanks on both sides. -/
def trimBlanks (text : String) : String :=
  String.ofList (trim text.toList)

/-- Whether a text holds no character but blanks. -/
def isBlankText (text : String) : Bool :=
  text.toList.all isBlank

@[simp]
theorem trimStart_nil : trimStart [] = [] := rfl

@[simp]
theorem trimEnd_nil : trimEnd [] = [] := rfl

@[simp]
theorem trim_nil : trim [] = [] := rfl

theorem length_trimStart_le (characters : List Char) :
    (trimStart characters).length ≤ characters.length := by
  induction characters with
  | nil => simp
  | cons first rest inductionHypothesis =>
      unfold trimStart at *
      rw [List.dropWhile_cons]
      split
      · exact Nat.le_succ_of_le inductionHypothesis
      · exact Nat.le_refl _

theorem length_trimEnd_le (characters : List Char) :
    (trimEnd characters).length ≤ characters.length := by
  simpa [trimEnd, trimStart] using length_trimStart_le characters.reverse

theorem length_trim_le (characters : List Char) :
    (trim characters).length ≤ characters.length :=
  Nat.le_trans (length_trimEnd_le _) (length_trimStart_le characters)

end FilterQuery.Text
