/-!
# Base 64

Three bytes become four characters of an alphabet. The standard form pads the last group with `=`;
the URL form uses `-` and `_`, has no padding, and is read strictly: a text is accepted only if it
is the written form of some bytes.
-/

namespace SessionRelay

/-- A string of bytes. -/
abbrev Bytes := List UInt8

namespace Base64

/-- The two alphabets differ in their last two characters. -/
inductive Alphabet
  | standard
  | url
  deriving DecidableEq

/-- The character for a number below 64. -/
def char (a : Alphabet) (n : Nat) : Char :=
  if n < 26 then Char.ofNat (65 + n)
  else if n < 52 then Char.ofNat (71 + n)
  else if n < 62 then Char.ofNat (n - 4)
  else if n = 62 then (match a with | .standard => '+' | .url => '-')
  else (match a with | .standard => '/' | .url => '_')

/-- The number of a character of the URL alphabet. -/
def value? (c : Char) : Option Nat :=
  if 'A' ≤ c ∧ c ≤ 'Z' then some (c.toNat - 65)
  else if 'a' ≤ c ∧ c ≤ 'z' then some (c.toNat - 71)
  else if '0' ≤ c ∧ c ≤ '9' then some (c.toNat + 4)
  else if c = '-' then some 62
  else if c = '_' then some 63
  else none

/-- Characters without padding. -/
def encodeChars (a : Alphabet) : Bytes → List Char
  | [] => []
  | [x] =>
    let x := x.toNat
    [char a (x / 4), char a (x % 4 * 16)]
  | [x, y] =>
    let x := x.toNat
    let y := y.toNat
    [char a (x / 4), char a (x % 4 * 16 + y / 16), char a (y % 16 * 4)]
  | x :: y :: z :: rest =>
    let x := x.toNat
    let y := y.toNat
    let z := z.toNat
    char a (x / 4) :: char a (x % 4 * 16 + y / 16) :: char a (y % 16 * 4 + z / 64)
      :: char a (z % 64) :: encodeChars a rest

/-- The padding after a text of bytes. -/
def padding (bytes : Bytes) : List Char :=
  match bytes.length % 3 with
  | 1 => ['=', '=']
  | 2 => ['=']
  | _ => []

/-- The standard form, padded. -/
def encode (bytes : Bytes) : String :=
  String.ofList (encodeChars .standard bytes ++ padding bytes)

/-- The URL form, unpadded. -/
def encodeUrl (bytes : Bytes) : String := String.ofList (encodeChars .url bytes)

/-- Reads the URL form. A last group of two or three characters must leave no bits over. -/
def decodeChars? : List Char → Option Bytes
  | [] => some []
  | [_] => none
  | [a, b] => do
    let a ← value? a
    let b ← value? b
    if b % 16 = 0 then some [UInt8.ofNat (a * 4 + b / 16)] else none
  | [a, b, c] => do
    let a ← value? a
    let b ← value? b
    let c ← value? c
    if c % 4 = 0 then
      some [UInt8.ofNat (a * 4 + b / 16), UInt8.ofNat (b % 16 * 16 + c / 4)]
    else none
  | a :: b :: c :: d :: rest => do
    let a ← value? a
    let b ← value? b
    let c ← value? c
    let d ← value? d
    let bytes ← decodeChars? rest
    return UInt8.ofNat (a * 4 + b / 16) :: UInt8.ofNat (b % 16 * 16 + c / 4)
      :: UInt8.ofNat (c % 4 * 64 + d) :: bytes

def decodeUrl? (text : String) : Option Bytes := decodeChars? text.toList

end Base64

end SessionRelay
