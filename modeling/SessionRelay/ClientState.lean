import SessionRelay.Crypto.Gcm
import SessionRelay.Crypto.Hmac
import SessionRelay.Encoding.Base64
import SessionRelay.Fault
import SessionRelay.Text.Blank
import SessionRelay.Text.Split
import SessionRelay.Text.Utf8

/-!
# Client state tokens

A token names a session and the instance that owns it. It goes to the client with the stream and
comes back with every message. A plain token spells the two ids; an encrypted one hides them and is
signed, and its signature is checked before anything is decrypted.
-/

namespace SessionRelay

/-- What a token says: a session by its client id, and the instance that owns it. -/
structure ClientState where
  clientId : String
  instanceId : String
  deriving DecidableEq

namespace ClientState

/-- Stands between the two ids. -/
def separator : Char := '|'

/-- The two ids of a state. -/
inductive Field
  | clientId
  | instanceId
  deriving DecidableEq

/-- Why there is no token for a state. -/
inductive FormatError
  | empty (field : Field)
  | separatorIn (field : Field)
  | noKey
  deriving DecidableEq

def Field.name : Field → String
  | .clientId => "client id"
  | .instanceId => "instance id"

def FormatError.message : FormatError → String
  | .empty field => field.name ++ " is empty"
  | .separatorIn field => field.name ++ " must not contain '" ++ String.singleton separator ++ "'"
  | .noKey => "no client state key configured"

instance : ToFault FormatError := ⟨fun e => .clientState e.message⟩

def checkField (field : Field) (value : String) : Except FormatError Unit :=
  if value = "" then .error (.empty field)
  else if separator ∈ value.toList then .error (.separatorIn field)
  else .ok ()

/-- Whether the session lives in the instance. -/
def isLocal (state : ClientState) (instanceId : String) : Bool := state.instanceId = instanceId

/-- The bytes of the two ids. -/
def spell (state : ClientState) : Bytes :=
  Utf8.encode (state.clientId ++ String.singleton separator ++ state.instanceId)

/-- The state that bytes spell: exactly two ids, both given. -/
def ofSpelling? (bytes : Bytes) : Option ClientState := do
  let text ← Utf8.decode? bytes
  match Text.splitOn separator text.toList with
  | [clientId, instanceId] =>
    if clientId.isEmpty || instanceId.isEmpty then none
    else some ⟨String.ofList clientId, String.ofList instanceId⟩
  | _ => none

/-- The keys drawn from a secret. -/
structure Keys where
  encryption : List Aes.Block
  signing : Bytes

def Keys.ofSecret (secret : String) : Keys :=
  let secret := Utf8.encode secret
  { encryption := Aes.roundKeys (Hmac.sign secret (Utf8.encode "mcp-relay/client-state/encryption"))
    signing := Hmac.sign secret (Utf8.encode "mcp-relay/client-state/signing") }

/-- Writes and reads tokens. Without keys there are only plain ones. -/
structure Codec where
  keys : Option Keys

namespace Codec

def plain : Codec := ⟨none⟩

/-- An empty secret counts as none. -/
def ofSecret (secret : Option String) : Codec :=
  match secret with
  | some s => if s = "" then plain else ⟨some (.ofSecret s)⟩
  | none => plain

def encrypts (c : Codec) : Bool := c.keys.isSome

def signatureLength : Nat := 32

/-- Nonce, encrypted text with its tag, and the signature of both. -/
def sealBytes (keys : Keys) (nonce text : Bytes) : Bytes :=
  let payload := nonce ++ Gcm.encryptWithTag keys.encryption nonce text
  payload ++ Hmac.sign keys.signing payload

/-- The text inside, if the signature and the tag are right. -/
def openBytes? (keys : Keys) (bytes : Bytes) : Option Bytes :=
  if bytes.length < Gcm.nonceLength + Gcm.tagLength + signatureLength then none
  else
    let payload := bytes.take (bytes.length - signatureLength)
    let signature := bytes.drop (bytes.length - signatureLength)
    if Hmac.sign keys.signing payload = signature then
      Gcm.decrypt? keys.encryption (payload.take Gcm.nonceLength) (payload.drop Gcm.nonceLength)
    else none

/-- The token of a state; an encrypted one uses the nonce. -/
def format (c : Codec) (nonce : Bytes) (state : ClientState) (encrypt : Bool) :
    Except FormatError String := do
  checkField .clientId state.clientId
  checkField .instanceId state.instanceId
  if encrypt then
    match c.keys with
    | some keys => return Base64.encodeUrl (sealBytes keys nonce state.spell)
    | none => throw .noKey
  else return Base64.encodeUrl state.spell

/-- The state a token names. White space around it is ignored. -/
def parse? (c : Codec) (token : String) (encrypted : Bool) : Option ClientState := do
  let bytes ← Base64.decodeUrl? (Text.trim token)
  if encrypted then
    let keys ← c.keys
    let text ← openBytes? keys bytes
    ofSpelling? text
  else ofSpelling? bytes

end Codec

end ClientState

end SessionRelay
