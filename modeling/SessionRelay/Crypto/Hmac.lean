import SessionRelay.Crypto.Sha256

/-!
# HMAC

A keyed digest: SHA-256 over the message behind a block made of the key, and again over the result
behind another such block.
-/

namespace SessionRelay.Hmac

/-- The key as one block of 64 bytes; a longer key is digested first. -/
def keyBlock (key : Bytes) : Bytes :=
  let short := if 64 < key.length then Sha256.digest key else key
  short ++ List.replicate (64 - short.length) 0

/-- The signature of a message. -/
def sign (key message : Bytes) : Bytes :=
  let block := keyBlock key
  let inner := Sha256.digest (block.map (· ^^^ 0x36) ++ message)
  Sha256.digest (block.map (· ^^^ 0x5c) ++ inner)

theorem length_sign (key message : Bytes) : (sign key message).length = 32 := rfl

end SessionRelay.Hmac
