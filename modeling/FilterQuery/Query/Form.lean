import FilterQuery.Text.Percent
import FilterQuery.Text.Split
import FilterQuery.Text.Utf8

/-!
# Form-encoded pairs

A query string is a sequence of pairs, separated by ampersands; the first equals
sign of a pair separates its name from its value, and a pair without one has an
empty value.  Empty pairs are skipped.

In names and values a plus sign stands for a blank, and a percent sign with two
hexadecimal digits for a byte; any other percent sign stands for itself.  The
bytes are read as UTF-8.
-/

namespace FilterQuery.Form

open FilterQuery.Text

/-- Replace plus signs by blanks. -/
def plusToBlank (bytes : List UInt8) : List UInt8 :=
  bytes.map fun byte => if byte = 0x2B then 0x20 else byte

/-- The text of a name or a value. -/
def decodeComponent (bytes : List UInt8) : String :=
  String.ofList (Utf8.decode (Percent.decode (plusToBlank bytes)))

/-- The pair of a piece between ampersands. -/
def decodePair (piece : List UInt8) : String × String :=
  let (name, value) := Split.splitOnce 0x3D piece
  (decodeComponent name, decodeComponent value)

def decode (query : List Char) : List (String × String) :=
  ((Split.splitAt 0x26 (Utf8.encode query)).filter (!·.isEmpty)).map decodePair

end FilterQuery.Form
