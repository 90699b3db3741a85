import SessionRelay.Encoding.Base64

/-!
# Percent coding

A `%` with two hexadecimal digits stands for the byte they name. Reading leaves every other `%` as
it is.
-/

namespace SessionRelay.Url

def hexDigitValue? (b : UInt8) : Option Nat :=
  let n := b.toNat
  if 48 ≤ n ∧ n ≤ 57 then some (n - 48)
  else if 97 ≤ n ∧ n ≤ 102 then some (n - 87)
  else if 65 ≤ n ∧ n ≤ 70 then some (n - 55)
  else none

/-- Replaces every `%` with two hexadecimal digits by the byte they name. -/
def percentDecode : Bytes → Bytes
  | 0x25 :: x :: y :: rest =>
    match hexDigitValue? x, hexDigitValue? y with
    | some h, some l => UInt8.ofNat (16 * h + l) :: percentDecode rest
    | _, _ => 0x25 :: percentDecode (x :: y :: rest)
  | b :: rest => b :: percentDecode rest
  | [] => []

/-- A hexadecimal digit in upper case. -/
def upperHexDigit (n : Nat) : Char := if n < 10 then Char.ofNat (48 + n) else Char.ofNat (55 + n)

/-- A byte as a percent code. -/
def percentEncode (b : UInt8) : List Char :=
  ['%', upperHexDigit (b.toNat / 16), upperHexDigit (b.toNat % 16)]

end SessionRelay.Url
