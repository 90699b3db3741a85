import SessionRelay.Encoding.Base64

/-!
# UTF-8

Characters as bytes and back. Reading stops at the first byte that cannot continue a character, so
a broken text has a definite place and length of its first fault, and a lossy reading replaces each
fault by one U+FFFD.
-/

namespace SessionRelay.Utf8

/-- The bytes of a code point. -/
def encodeCode (n : Nat) : Bytes :=
  if n < 0x80 then [UInt8.ofNat n]
  else if n < 0x800 then [UInt8.ofNat (0xC0 + n / 64), UInt8.ofNat (0x80 + n % 64)]
  else if n < 0x10000 then
    [UInt8.ofNat (0xE0 + n / 4096), UInt8.ofNat (0x80 + n / 64 % 64), UInt8.ofNat (0x80 + n % 64)]
  else
    [UInt8.ofNat (0xF0 + n / 262144), UInt8.ofNat (0x80 + n / 4096 % 64),
      UInt8.ofNat (0x80 + n / 64 % 64), UInt8.ofNat (0x80 + n % 64)]

def encode (s : String) : Bytes := s.toList.flatMap fun c => encodeCode c.toNat

/-- What stands at the start of a text: a character, a fault of some bytes, or a character that the
end of the text cuts off. -/
inductive Head
  | char (c : Char) (rest : Bytes)
  | fault (length : Nat) (rest : Bytes)
  | cut
  deriving DecidableEq

def isTail (b : UInt8) : Bool := 0x80 ≤ b.toNat && b.toNat < 0xC0

/-- How a leading byte goes on: how many bytes follow, and between which bounds the first of them
lies. -/
def lead? (b : Nat) : Option (Nat × Nat × Nat) :=
  if 0xC2 ≤ b ∧ b < 0xE0 then some (1, 0x80, 0xC0)
  else if b = 0xE0 then some (2, 0xA0, 0xC0)
  else if b = 0xED then some (2, 0x80, 0xA0)
  else if 0xE1 ≤ b ∧ b < 0xF0 then some (2, 0x80, 0xC0)
  else if b = 0xF0 then some (3, 0x90, 0xC0)
  else if 0xF1 ≤ b ∧ b < 0xF4 then some (3, 0x80, 0xC0)
  else if b = 0xF4 then some (3, 0x80, 0x90)
  else none

/-- Reads the start of a text whose first byte is given. -/
def head (first : UInt8) (rest : Bytes) : Head :=
  let b := first.toNat
  if b < 0x80 then .char (Char.ofNat b) rest
  else
    match lead? b with
    | none => .fault 1 rest
    | some (count, low, high) =>
      match rest with
      | [] => .cut
      | x :: rest₁ =>
        if x.toNat < low ∨ high ≤ x.toNat then .fault 1 rest
        else if count = 1 then .char (Char.ofNat ((b - 0xC0) * 64 + (x.toNat - 0x80))) rest₁
        else
          match rest₁ with
          | [] => .cut
          | y :: rest₂ =>
            if !isTail y then .fault 2 rest₁
            else if count = 2 then
              .char (Char.ofNat
                ((b - 0xE0) * 4096 + (x.toNat - 0x80) * 64 + (y.toNat - 0x80))) rest₂
            else
              match rest₂ with
              | [] => .cut
              | z :: rest₃ =>
                if !isTail z then .fault 3 rest₂
                else
                  .char (Char.ofNat ((b - 0xF0) * 262144 + (x.toNat - 0x80) * 4096
                    + (y.toNat - 0x80) * 64 + (z.toNat - 0x80))) rest₃

/-- A text in pieces: characters and faults in order, and whether its end cuts a character off. -/
inductive Piece
  | char (c : Char)
  | fault (length : Nat)
  | cut
  deriving DecidableEq

/-- The pieces of a text; every piece takes at least one byte, so the number of bytes is fuel
enough. -/
def piecesFrom : Nat → Bytes → List Piece
  | 0, _ => []
  | _, [] => []
  | fuel + 1, b :: bs =>
    match head b bs with
    | .char c rest => .char c :: piecesFrom fuel rest
    | .fault length rest => .fault length :: piecesFrom fuel rest
    | .cut => [.cut]

def pieces (bytes : Bytes) : List Piece := piecesFrom bytes.length bytes

/-- The first fault of a text: where it starts and how long it is. A character cut off by the end
has no length. -/
structure Fault where
  index : Nat
  length : Option Nat
  deriving DecidableEq

def faultMessage (f : Fault) : String :=
  match f.length with
  | some n => s!"invalid utf-8 sequence of {n} bytes from index {f.index}"
  | none => s!"incomplete utf-8 byte sequence from index {f.index}"

/-- The characters up to the first fault, which starts after as many bytes as have been read. -/
def charsOf (read : Nat) : List Piece → Except Fault (List Char)
  | [] => .ok []
  | .char c :: rest => (charsOf (read + (encodeCode c.toNat).length) rest).map (c :: ·)
  | .fault length :: _ => .error ⟨read, some length⟩
  | .cut :: _ => .error ⟨read, none⟩

/-- Reads a text, or tells its first fault. -/
def decode (bytes : Bytes) : Except Fault String := (charsOf 0 (pieces bytes)).map String.ofList

/-- Reads a text without faults. -/
def decode? (bytes : Bytes) : Option String := (decode bytes).toOption

/-- Reads a text with every fault replaced. -/
def decodeLossy (bytes : Bytes) : String :=
  String.ofList ((pieces bytes).map fun
    | .char c => c
    | .fault _ | .cut => '\ufffd')

end SessionRelay.Utf8
