/-!
# Characters and bytes

Texts are sent as bytes in UTF-8.

* `encode` writes characters as bytes;
* `decode` reads bytes as characters.  The longest start of a character that is
  broken off is read as one replacement character, and so is a byte that can
  start no character; reading goes on with the byte after it;
* `splitAt?` cuts a text at an offset in bytes.
-/

namespace FilterQuery.Text.Utf8

def encode (characters : List Char) : List UInt8 :=
  characters.flatMap String.utf8EncodeChar

/-- What stands for bytes that form no character. -/
def replacement : Char := Char.ofNat 0xFFFD

/-- Whether a byte continues a character. -/
def isContinuation (byte : UInt8) : Bool :=
  0x80 ≤ byte && byte ≤ 0xBF

/-- The number of bytes of the character that a byte starts, the bits that the
byte contributes, and the range of the byte after it. -/
def lead? (byte : UInt8) : Option (Nat × Nat × UInt8 × UInt8) :=
  let value := byte.toNat
  if 0xC2 ≤ byte && byte ≤ 0xDF then some (2, value - 0xC0, 0x80, 0xBF)
  else if byte = 0xE0 then some (3, value - 0xE0, 0xA0, 0xBF)
  else if byte = 0xED then some (3, value - 0xE0, 0x80, 0x9F)
  else if 0xE1 ≤ byte && byte ≤ 0xEF then some (3, value - 0xE0, 0x80, 0xBF)
  else if byte = 0xF0 then some (4, value - 0xF0, 0x90, 0xBF)
  else if 0xF1 ≤ byte && byte ≤ 0xF3 then some (4, value - 0xF0, 0x80, 0xBF)
  else if byte = 0xF4 then some (4, value - 0xF0, 0x80, 0x8F)
  else none

/-- Append the six bits of a continuation byte. -/
def extend (code : Nat) (byte : UInt8) : Nat :=
  64 * code + (byte.toNat - 0x80)

/-- Read bytes as characters. -/
def decode (bytes : List UInt8) : List Char :=
  match bytes with
  | [] => []
  | byte :: rest =>
      if byte < 0x80 then Char.ofNat byte.toNat :: decode rest
      else
        match lead? byte with
        | none => replacement :: decode rest
        | some (count, bits, least, greatest) =>
            match rest with
            | [] => [replacement]
            | second :: rest =>
                if least ≤ second && second ≤ greatest then
                  let code := extend bits second
                  if count = 2 then Char.ofNat code :: decode rest
                  else
                    match rest with
                    | [] => [replacement]
                    | third :: rest =>
                        if isContinuation third then
                          let code := extend code third
                          if count = 3 then Char.ofNat code :: decode rest
                          else
                            match rest with
                            | [] => [replacement]
                            | fourth :: rest =>
                                if isContinuation fourth then
                                  Char.ofNat (extend code fourth) ::
                                    decode rest
                                else replacement :: decode (fourth :: rest)
                        else replacement :: decode (third :: rest)
                else replacement :: decode (second :: rest)
termination_by bytes.length

/-! ## Offsets -/

/-- Cut a text at an offset in bytes.  There is nothing to cut at an offset
inside a character or behind the end. -/
def splitAt? : Nat → List Char → Option (List Char × List Char)
  | 0, characters => some ([], characters)
  | _ + 1, [] => none
  | offset + 1, character :: rest =>
      if character.utf8Size ≤ offset + 1 then
        (splitAt? (offset + 1 - character.utf8Size) rest).map fun parts =>
          (character :: parts.1, parts.2)
      else none

theorem length_encode_cons (character : Char) (rest : List Char) :
    (encode (character :: rest)).length =
      character.utf8Size + (encode rest).length := by
  rw [encode, List.flatMap_cons, List.length_append,
    String.length_utf8EncodeChar, encode]

theorem encode_append (before after : List Char) :
    encode (before ++ after) = encode before ++ encode after :=
  List.flatMap_append

theorem utf8ByteSize_eq (text : String) :
    text.utf8ByteSize = (encode text.toList).length := by
  rw [← String.size_toByteArray, ← String.utf8Encode_toList, List.utf8Encode,
    encode, List.size_toByteArray]

theorem splitAt?_append (before after : List Char) :
    splitAt? (encode before).length (before ++ after) = some (before, after) := by
  induction before with
  | nil => simp [encode, splitAt?]
  | cons character rest inductionHypothesis =>
      have positive := character.utf8Size_pos
      obtain ⟨offset, isNext⟩ :
          ∃ offset, (encode (character :: rest)).length = offset + 1 :=
        Nat.exists_eq_add_one.mpr (by rw [length_encode_cons]; omega)
      have isRest :
          offset + 1 - character.utf8Size = (encode rest).length := by
        rw [← isNext, length_encode_cons, Nat.add_sub_cancel_left]
      have fits : character.utf8Size ≤ offset + 1 := by
        rw [← isNext, length_encode_cons]
        exact Nat.le_add_right _ _
      rw [isNext, List.cons_append, splitAt?, if_pos fits, isRest,
        inductionHypothesis, Option.map_some]

theorem eq_append_of_splitAt?
    {offset : Nat} {characters before after : List Char}
    (cut : splitAt? offset characters = some (before, after)) :
    characters = before ++ after ∧ (encode before).length = offset := by
  fun_induction splitAt? offset characters generalizing before with
  | case1 characters =>
      cases cut
      exact ⟨rfl, rfl⟩
  | case2 => cases cut
  | case3 offset character rest fits inductionHypothesis =>
      obtain ⟨⟨_, _⟩, cutRest, same⟩ := Option.map_eq_some_iff.mp cut
      cases same
      obtain ⟨whole, size⟩ := inductionHypothesis cutRest
      refine ⟨by rw [whole, List.cons_append], ?_⟩
      rw [length_encode_cons, size]
      omega
  | case4 => cases cut

end FilterQuery.Text.Utf8
