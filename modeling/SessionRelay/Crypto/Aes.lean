import SessionRelay.Encoding.Base64

/-!
# AES with a key of 256 bits

Encryption of one block of 16 bytes in 14 rounds. Bytes are polynomials over the field of two
elements, multiplied modulo `x^8 + x^4 + x^3 + x + 1`.
-/

namespace SessionRelay.Aes

/-- A byte times `x`. -/
def double (b : UInt8) : UInt8 := if b < 0x80 then b <<< 1 else (b <<< 1) ^^^ 0x1b

/-- A product, from the bits of the second factor, lowest first. -/
def multiply (a b : UInt8) : UInt8 :=
  ((List.range 8).foldl
    (fun (sum, factor) i => (if b.toNat.testBit i then sum ^^^ factor else sum, double factor))
    ((0 : UInt8), a)).1

/-- The inverse of a byte, its power 254; that of zero is zero. -/
def inverse (b : UInt8) : UInt8 :=
  let square (x : UInt8) : UInt8 := multiply x x
  let b2 := square b
  let b4 := square b2
  let b8 := square b4
  let b16 := square b8
  let b32 := square b16
  let b64 := square b32
  let b128 := square b64
  multiply b2 (multiply b4 (multiply b8 (multiply b16 (multiply b32 (multiply b64 b128)))))

def rotateLeft (b : UInt8) (n : UInt8) : UInt8 := (b <<< n) ||| (b >>> (8 - n))

def substituted (b : UInt8) : UInt8 :=
  let i := inverse b
  i ^^^ rotateLeft i 1 ^^^ rotateLeft i 2 ^^^ rotateLeft i 3 ^^^ rotateLeft i 4 ^^^ 0x63

/-- The substitution of every byte. -/
def substitutions : Array UInt8 := Array.ofFn fun i : Fin 256 => substituted (UInt8.ofNat i)

def substitute (b : UInt8) : UInt8 := substitutions.getD b.toNat 0

/-- A block or a round key: 16 bytes, column by column. -/
abbrev Block := Bytes

def xor (x y : Bytes) : Bytes := List.zipWith (· ^^^ ·) x y

/-- Every row is moved left by its number. -/
def shiftRows (b : Block) : Block := (List.range 16).map fun i => b.getD (5 * i % 16) 0

def mixColumn (a b c d : UInt8) : Bytes :=
  let all := a ^^^ b ^^^ c ^^^ d
  [a ^^^ all ^^^ double (a ^^^ b), b ^^^ all ^^^ double (b ^^^ c),
    c ^^^ all ^^^ double (c ^^^ d), d ^^^ all ^^^ double (d ^^^ a)]

def mixColumns : Block → Block
  | a :: b :: c :: d :: rest => mixColumn a b c d ++ mixColumns rest
  | _ => []

/-- A key as words of four bytes, the latest first, with the constant of the next group. -/
structure Expansion where
  words : List Bytes
  constant : UInt8

/-- The next word: every eighth is turned, substituted and marked with a constant, and the one in the
middle of a group is substituted. -/
def nextWord (e : Expansion) : Expansion :=
  let last := e.words.headD []
  let earlier := e.words.getD 7 []
  let position := e.words.length % 8
  if position = 0 then
    let turned := (last.drop 1 ++ last.take 1).map substitute
    ⟨xor earlier (xor turned [e.constant, 0, 0, 0]) :: e.words, double e.constant⟩
  else if position = 4 then ⟨xor earlier (last.map substitute) :: e.words, e.constant⟩
  else ⟨xor earlier last :: e.words, e.constant⟩

/-- Pieces of four. -/
def fours {α : Type} : List α → List (List α)
  | a :: b :: c :: d :: rest => [a, b, c, d] :: fours rest
  | _ => []

/-- The 15 round keys of a key of 32 bytes. -/
def roundKeys (key : Bytes) : List Block :=
  let words := (Nat.repeat nextWord 52 ⟨(fours key).reverse, 1⟩).words.reverse
  (fours words).map List.flatten

/-- The rounds after the first key; the last one does not mix columns. -/
def rounds : List Block → Block → Block
  | [], b => b
  | [key], b => xor key (shiftRows (b.map substitute))
  | key :: keys, b => rounds keys (xor key (mixColumns (shiftRows (b.map substitute))))

/-- Encrypts one block. -/
def encrypt (keys : List Block) (block : Block) : Block :=
  match keys with
  | [] => block
  | key :: keys => rounds keys (xor key block)

end SessionRelay.Aes
