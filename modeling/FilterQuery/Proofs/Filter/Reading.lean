import FilterQuery.Filter.Literal
import FilterQuery.Proofs.Outcome

/-!
# What literals are read as

The shapes of literals are tried one after the other, and the one that fits decides the kind of
value.

* `Kind.IsRead` has a case for every shape, with what the reader of that shape returned;
* `Kind.isRead_of_ofLiteral`: a literal that is read falls under one of the cases;
* `Literal.integer?_eq_some_iff`: integers are read exactly.
-/

namespace FilterQuery

open FilterQuery.Text FilterQuery.Literal

namespace Literal

/-- A run of digits is read as the number that it denotes, if that is below `2 ^ 63`. -/
theorem integer?_eq_some_iff {digits : List Char} {value : Int64} :
    integer? digits = some value ↔
      Digits.isRun digits = true ∧ Digits.value digits < Digits.integerBound ∧
        value.toInt = Digits.value digits := by
  have exactly :
      ∀ number, number < Digits.integerBound → (Int64.ofNat number).toInt = number :=
    fun _ bounded => Int64.toInt_ofNat_of_lt bounded
  simp only [integer?, Digits.readBelow?, Digits.read?, Option.map_eq_some_iff,
    Option.filter_eq_some_iff, decide_eq_true_eq]
  constructor
  · rintro ⟨number, ⟨isNumber, bounded⟩, rfl⟩
    split at isNumber
    · rename_i isRun
      cases isNumber
      exact ⟨isRun, bounded, exactly _ bounded⟩
    · cases isNumber
  · rintro ⟨isRun, bounded, same⟩
    refine ⟨Digits.value digits, ⟨if_pos isRun, bounded⟩, ?_⟩
    rw [← Int64.toInt_inj, exactly _ bounded, same]

end Literal

/-- The kind of value that a literal stands for, and whether letter case is disregarded, by the
shape of the literal. -/
inductive Kind.IsRead (characters : List Char) : Kind → Bool → Prop
  | integer {value : Int64} :
      Digits.isRun characters = true → integer? characters = some value →
      IsRead characters (.integer value) false
  | float {whole fraction : List Char} :
      ¬Digits.isRun characters = true → decimal? characters = some (whole, fraction) →
      IsRead characters (.float (Decimal.ofFixed whole fraction)) false
  | null : characters = "null".toList → IsRead characters .null false
  | boolean (value : Bool) :
      characters = (if value then "true" else "false").toList →
      IsRead characters (.boolean value) false
  | string {inner : List Char} {text : String} {modified : Bool} :
      quoted? characters = some (inner, modified) → quotedText inner = .ok text →
      IsRead characters (.string text) modified
  | inList {inner : List Char} {items : List Value} {modified : Bool} :
      bracketed? characters = some (inner, modified) → elements inner = .ok items →
      IsRead characters (.inList items) modified
  | like {shape : LikeShape} {pattern : LikePattern} :
      like? characters = some shape → likePattern shape = .ok pattern →
      IsRead characters (.like pattern) shape.caseInsensitive
  | regexp {inner : List Char} {pattern : String} {modified : Bool} :
      slashed? characters = some (inner, modified) → regexpText inner = .ok pattern →
      IsRead characters (.regexp pattern) modified

namespace Kind

variable {text : String} {kind : Kind} {modified : Bool}

/-- A literal is read by the reader of its shape. -/
theorem isRead_of_ofLiteral (read : ofLiteral text = .ok (kind, modified)) :
    IsRead text.toList kind modified := by
  unfold ofLiteral at read
  simp only at read
  split at read
  · rename_i isRun
    split at read
    · cases read
    · rename_i isInteger
      cases read
      exact .integer isRun isInteger
  rename_i notRun
  split at read
  · rename_i isDecimal
    cases read
    exact .float notRun isDecimal
  split at read
  · rename_i isNull
    cases read
    exact .null (congrArg String.toList isNull)
  split at read
  · rename_i isTrue
    cases read
    exact .boolean true (congrArg String.toList isTrue)
  split at read
  · rename_i isFalse
    cases read
    exact .boolean false (congrArg String.toList isFalse)
  split at read
  · rename_i isShape
    obtain ⟨_, isText, same⟩ := Outcome.map_eq_ok_iff.mp read
    cases same
    exact .string isShape isText
  split at read
  · rename_i isShape
    obtain ⟨_, areElements, same⟩ := Outcome.map_eq_ok_iff.mp read
    cases same
    exact .inList isShape areElements
  split at read
  · rename_i isShape
    obtain ⟨_, isPattern, same⟩ := Outcome.map_eq_ok_iff.mp read
    obtain ⟨rfl, rfl⟩ := Prod.mk.inj same
    exact .like isShape isPattern
  split at read
  · rename_i isShape
    obtain ⟨_, isPattern, same⟩ := Outcome.map_eq_ok_iff.mp read
    cases same
    exact .regexp isShape isPattern
  cases read

/-- Only texts and what is made of texts have letter case. -/
theorem IsRead.modified_imp_supports
    {characters : List Char} (read : IsRead characters kind modified) (isModified : modified = true) :
    kind.filterType.supportsCaseInsensitivity = true := by
  cases read with
  | integer | float | null | boolean => cases isModified
  | string | inList | like | regexp => rfl

end Kind

end FilterQuery
