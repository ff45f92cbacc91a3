import FilterQuery.Proofs.Text.Ascii
import FilterQuery.Proofs.Text.Split
import FilterQuery.Query.Form

/-!
# What a form spells

A text of ASCII is spelled in a query string with plain characters, which stand for themselves,
with plus signs, which stand for blanks, and with percent signs and two hexadecimal digits.  What
spells a text is read as that text, and a name and a value that are spelled so are read as the only
pair of the query string.

In particular a plus sign has to be spelled `%2B`: written as it is, it is a blank.
-/

namespace FilterQuery

namespace Text

theorem toNat_toUInt8_of_lt {character : Char} (isAscii : character.toNat < 128) :
    character.toUInt8.toNat = character.toNat := by
  have sameCode : character.toUInt8.toNat = character.toNat % 2 ^ 8 :=
    UInt32.toNat_toUInt8 character.val
  omega

/-- Characters of ASCII are told apart by their bytes. -/
theorem toUInt8_ne_of_ne
    {first second : Char} (isFirst : first.toNat < 128) (isSecond : second.toNat < 128)
    (different : first ≠ second) : first.toUInt8 ≠ second.toUInt8 := by
  intro sameByte
  apply different
  apply Char.toNat_inj.mp
  rw [← toNat_toUInt8_of_lt isFirst, ← toNat_toUInt8_of_lt isSecond, sameByte]

namespace Utf8

variable {first : Char}

theorem encode_cons (isAscii : first.toNat < 128) (rest : List Char) :
    encode (first :: rest) = first.toUInt8 :: encode rest := by
  rw [encode, List.flatMap_cons, String.utf8EncodeChar_eq_singleton (utf8Size_of_lt isAscii)]
  rfl

theorem toUInt8_not_mem_encode
    {characters : List Char} (isAscii : IsAscii characters) (firstIsAscii : first.toNat < 128)
    (absent : first ∉ characters) : first.toUInt8 ∉ encode characters := by
  induction characters with
  | nil => simp [encode]
  | cons character rest inductionHypothesis =>
      obtain ⟨characterIsAscii, restIsAscii⟩ := List.forall_mem_cons.mp isAscii
      rw [List.mem_cons, not_or] at absent
      rw [encode_cons characterIsAscii, List.mem_cons, not_or]
      exact
        ⟨toUInt8_ne_of_ne firstIsAscii characterIsAscii absent.1,
          inductionHypothesis restIsAscii absent.2⟩

theorem decode_cons (isAscii : first.toNat < 128) (rest : List UInt8) :
    decode (first.toUInt8 :: rest) = first :: decode rest := by
  have isLow : first.toUInt8 < 0x80 := by
    rw [UInt8.lt_iff_toNat_lt, toNat_toUInt8_of_lt isAscii]
    exact isAscii
  rw [decode, if_pos isLow, toNat_toUInt8_of_lt isAscii, Char.ofNat_toNat]

end Utf8

theorem Percent.decode_cons_of_ne {byte : UInt8} (different : byte ≠ 0x25) (rest : List UInt8) :
    decode (byte :: rest) = byte :: decode rest := by
  rw [decode.eq_2]
  intro _ _ _ same
  exact absurd same different

end Text

namespace Form

open FilterQuery.Text

/-- The character stands for itself in a name and in a value. -/
def IsPlain (character : Char) : Prop :=
  character.toNat < 128 ∧
    character ≠ '%' ∧ character ≠ '+' ∧ character ≠ '&' ∧ character ≠ '='

instance (character : Char) : Decidable (IsPlain character) :=
  inferInstanceAs (Decidable (_ ∧ _))

/-- What is written in a name or a value of a query string, and the text of ASCII it stands for. -/
inductive Spells : List Char → List Char → Prop
  | nil : Spells [] []
  | plain {character : Char} {written text : List Char} :
      IsPlain character → Spells written text →
        Spells (character :: written) (character :: text)
  | plus {written text : List Char} :
      Spells written text → Spells ('+' :: written) (' ' :: text)
  | percent {high low meant : Char} {first second : UInt8} {written text : List Char} :
      IsPlain high → IsPlain low →
      Percent.hexDigit? high.toUInt8 = some first →
      Percent.hexDigit? low.toUInt8 = some second →
      meant.toNat < 128 → 16 * first + second = meant.toUInt8 →
      Spells written text → Spells ('%' :: high :: low :: written) (meant :: text)

variable {written text : List Char}

theorem spells_of_isPlain (plain : ∀ character ∈ text, IsPlain character) : Spells text text := by
  induction text with
  | nil => exact Spells.nil
  | cons first rest inductionHypothesis =>
      obtain ⟨firstIsPlain, restIsPlain⟩ := List.forall_mem_cons.mp plain
      exact Spells.plain firstIsPlain (inductionHypothesis restIsPlain)

theorem spells_percentPlus (spells : Spells written text) :
    Spells ('%' :: '2' :: 'B' :: written) ('+' :: text) :=
  Spells.percent (by decide) (by decide) rfl rfl (by decide) (by decide) spells

theorem plusToBlank_encode_cons
    {first : Char} (isAscii : first.toNat < 128) (notPlus : first ≠ '+') (rest : List Char) :
    plusToBlank (Utf8.encode (first :: rest)) =
      first.toUInt8 :: plusToBlank (Utf8.encode rest) := by
  have differs : first.toUInt8 ≠ 0x2B := toUInt8_ne_of_ne isAscii (by decide) notPlus
  rw [Utf8.encode_cons isAscii, plusToBlank, List.map_cons, if_neg differs]
  rfl

theorem Spells.decode (spells : Spells written text) :
    Utf8.decode (Percent.decode (plusToBlank (Utf8.encode written))) = text := by
  induction spells with
  | nil => simp [Utf8.encode, plusToBlank, Percent.decode, Utf8.decode]
  | @plain character written text isPlain _ inductionHypothesis =>
      obtain ⟨isAscii, notPercent, notPlus, _⟩ := isPlain
      have differs : character.toUInt8 ≠ 0x25 := toUInt8_ne_of_ne isAscii (by decide) notPercent
      rw [plusToBlank_encode_cons isAscii notPlus, Percent.decode_cons_of_ne differs,
        Utf8.decode_cons isAscii, inductionHypothesis]
  | @plus written text _ inductionHypothesis =>
      have isBlank :
          plusToBlank (Utf8.encode ('+' :: written)) =
            ' '.toUInt8 :: plusToBlank (Utf8.encode written) := by
        rw [Utf8.encode_cons (by decide)]
        rfl
      rw [isBlank, Percent.decode_cons_of_ne (by decide), Utf8.decode_cons (by decide),
        inductionHypothesis]
  | @percent high low meant first second written text highIsPlain lowIsPlain highIsDigit
      lowIsDigit isAscii sameByte _ inductionHypothesis =>
      have isSign :
          plusToBlank (Utf8.encode ('%' :: high :: low :: written)) =
            0x25 :: high.toUInt8 :: low.toUInt8 :: plusToBlank (Utf8.encode written) := by
        rw [plusToBlank_encode_cons (by decide) (by decide),
          plusToBlank_encode_cons highIsPlain.1 highIsPlain.2.2.1,
          plusToBlank_encode_cons lowIsPlain.1 lowIsPlain.2.2.1]
        rfl
      rw [isSign, Percent.decode, highIsDigit, lowIsDigit]
      simp only
      rw [sameByte, Utf8.decode_cons isAscii, inductionHypothesis]

theorem Spells.decodeComponent (spells : Spells written text) :
    decodeComponent (Utf8.encode written) = String.ofList text := by
  rw [Form.decodeComponent, spells.decode]

/-- What spells a text is of ASCII and has no separator in it. -/
theorem Spells.separates_nothing (spells : Spells written text) :
    ∀ character ∈ written, character.toNat < 128 ∧ character ≠ '&' ∧ character ≠ '=' := by
  induction spells with
  | nil => simp
  | plain isPlain _ inductionHypothesis =>
      exact List.forall_mem_cons.mpr ⟨⟨isPlain.1, isPlain.2.2.2⟩, inductionHypothesis⟩
  | plus _ inductionHypothesis =>
      exact List.forall_mem_cons.mpr ⟨by decide, inductionHypothesis⟩
  | percent highIsPlain lowIsPlain _ _ _ _ _ inductionHypothesis =>
      refine List.forall_mem_cons.mpr ⟨by decide, ?_⟩
      refine List.forall_mem_cons.mpr ⟨⟨highIsPlain.1, highIsPlain.2.2.2⟩, ?_⟩
      exact List.forall_mem_cons.mpr ⟨⟨lowIsPlain.1, lowIsPlain.2.2.2⟩, inductionHypothesis⟩

theorem Spells.separators_not_mem_encode (spells : Spells written text) :
    '&'.toUInt8 ∉ Utf8.encode written ∧ '='.toUInt8 ∉ Utf8.encode written := by
  have separates := spells.separates_nothing
  have isAscii : IsAscii written := fun character member => (separates character member).1
  constructor
  · exact
      Utf8.toUInt8_not_mem_encode isAscii (by decide) fun member => (separates '&' member).2.1 rfl
  · exact
      Utf8.toUInt8_not_mem_encode isAscii (by decide) fun member => (separates '=' member).2.2 rfl

theorem decodePair_of_spells
    {name nameText value valueText : List Char}
    (isName : Spells name nameText) (isValue : Spells value valueText) :
    decodePair (Utf8.encode (name ++ '=' :: value)) =
      (String.ofList nameText, String.ofList valueText) := by
  have isCut :
      Split.splitOnce 0x3D (Utf8.encode (name ++ '=' :: value)) =
        (Utf8.encode name, Utf8.encode value) := by
    rw [Utf8.encode_append, Utf8.encode_cons (by decide)]
    exact Split.splitOnce_append isName.separators_not_mem_encode.2 (Utf8.encode value)
  simp only [decodePair, isCut, isName.decodeComponent, isValue.decodeComponent]

/-- A name and a value that are spelled are the only pair of the query string. -/
theorem decode_of_spells
    {name nameText value valueText : List Char}
    (isName : Spells name nameText) (isValue : Spells value valueText) :
    decode (name ++ '=' :: value) = [(String.ofList nameText, String.ofList valueText)] := by
  have bytes :
      Utf8.encode (name ++ '=' :: value) =
        Utf8.encode name ++ '='.toUInt8 :: Utf8.encode value := by
    rw [Utf8.encode_append, Utf8.encode_cons (by decide)]
  have onePiece :
      Split.splitAt 0x26 (Utf8.encode (name ++ '=' :: value)) =
        [Utf8.encode (name ++ '=' :: value)] := by
    apply Split.splitAt_of_not_mem
    rw [bytes, List.mem_append, List.mem_cons]
    rintro (inName | isEqualsSign | inValue)
    · exact isName.separators_not_mem_encode.1 inName
    · exact absurd isEqualsSign (by decide)
    · exact isValue.separators_not_mem_encode.1 inValue
  have notEmpty : (Utf8.encode (name ++ '=' :: value)).isEmpty = false := by simp [bytes]
  simp [decode, onePiece, notEmpty, decodePair_of_spells isName isValue]

end Form

end FilterQuery
