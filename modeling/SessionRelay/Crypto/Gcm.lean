import SessionRelay.Crypto.Aes
import SessionRelay.Crypto.Sha256

/-!
# Authenticated encryption in Galois counter mode

Bytes are masked with encrypted counters, so the same masking takes them back; a tag over the masked
bytes shows that they have not been changed. Nonces have 12 bytes.
-/

namespace SessionRelay.Gcm

def nonceLength : Nat := 12

def tagLength : Nat := 16

/-- The number that bytes spell, highest first. -/
def natOfBytes (bytes : Bytes) : Nat := bytes.foldl (fun n b => n * 256 + b.toNat) 0

/-- A field element times `x`; the highest bit is the constant term. -/
def timesX (v : Nat) : Nat :=
  if v.testBit 0 then (v >>> 1) ^^^ (0xe1 <<< 120) else v >>> 1

/-- The product of two field elements of 128 bits. -/
def multiply (x y : Nat) : Nat :=
  ((List.range 128).foldl
    (fun (sum, v) i => (if x.testBit (127 - i) then sum ^^^ v else sum, timesX v)) (0, y)).1

/-- Adds each block in turn and multiplies by the key; a short last block is filled with zeros. -/
def hashBlocks (key : Nat) : Nat → Nat → Bytes → Nat
  | 0, sum, _ => sum
  | count + 1, sum, bytes =>
    let block := bytes.take 16
    let value := natOfBytes (block ++ List.replicate (16 - block.length) 0)
    hashBlocks key count (multiply (sum ^^^ value) key) (bytes.drop 16)

/-- The block that is encrypted for a counter. -/
def counterBlock (nonce : Bytes) (counter : Nat) : Bytes := nonce ++ Sha256.bytesOfNat 4 counter

/-- The masks of a text of some bytes; the first counter is 2. -/
def masks (keys : List Aes.Block) (nonce : Bytes) (length : Nat) : Bytes :=
  (List.range ((length + 15) / 16)).flatMap fun i => Aes.encrypt keys (counterBlock nonce (i + 2))

/-- Puts masks on bytes. -/
def mask : Bytes → Bytes → Bytes
  | [], _ => []
  | bytes, [] => bytes
  | b :: bytes, m :: masks => (b ^^^ m) :: mask bytes masks

/-- Encrypts a text, or decrypts an encrypted one. -/
def crypt (keys : List Aes.Block) (nonce text : Bytes) : Bytes :=
  mask text (masks keys nonce text.length)

/-- The tag of an encrypted text that comes with no other data. -/
def tag (keys : List Aes.Block) (nonce sealedText : Bytes) : Bytes :=
  let key := natOfBytes (Aes.encrypt keys (List.replicate 16 0))
  let sum := hashBlocks key ((sealedText.length + 15) / 16) 0 sealedText
  let total := multiply (sum ^^^ (8 * sealedText.length)) key
  Aes.xor (Sha256.bytesOfNat 16 total) (Aes.encrypt keys (counterBlock nonce 1))

/-- Encrypts a text and puts the tag behind it. -/
def encryptWithTag (keys : List Aes.Block) (nonce text : Bytes) : Bytes :=
  let sealedText := crypt keys nonce text
  sealedText ++ tag keys nonce sealedText

/-- Decrypts a text with a tag behind it, if the tag is right. -/
def decrypt? (keys : List Aes.Block) (nonce bytes : Bytes) : Option Bytes :=
  let sealedText := bytes.take (bytes.length - tagLength)
  if bytes.drop (bytes.length - tagLength) = tag keys nonce sealedText then
    some (crypt keys nonce sealedText)
  else none

end SessionRelay.Gcm
