/-!
# Percent encoding

In addresses and forms a percent sign with two hexadecimal digits stands for a
byte; any other percent sign stands for itself.
-/

namespace FilterQuery.Text.Percent

/-- The number denoted by the byte of a hexadecimal digit. -/
def hexDigit? (byte : UInt8) : Option UInt8 :=
  if 0x30 ≤ byte && byte ≤ 0x39 then some (byte - 0x30)
  else if 0x41 ≤ byte && byte ≤ 0x46 then some (byte - 0x41 + 10)
  else if 0x61 ≤ byte && byte ≤ 0x66 then some (byte - 0x61 + 10)
  else none

/-- Replace a percent sign and two hexadecimal digits by the byte they
denote. -/
def decode : List UInt8 → List UInt8
  | 0x25 :: high :: low :: rest =>
      match hexDigit? high, hexDigit? low with
      | some first, some second => (16 * first + second) :: decode rest
      | _, _ => 0x25 :: decode (high :: low :: rest)
  | byte :: rest => byte :: decode rest
  | [] => []

end FilterQuery.Text.Percent
