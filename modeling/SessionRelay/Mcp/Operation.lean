import SessionRelay.Mcp.Definition
import SessionRelay.Rpc.Decode

/-!
# Operations and signals

A request asks for an operation, told by its method and parameters; a notification carries a
signal. Absent parameters count as an empty object.
-/

namespace SessionRelay.Mcp

/-- The parameters of a handshake. All are optional. -/
structure HandshakeParams where
  protocolVersion : Option String
  capabilities : Json
  clientInfo : Option Implementation

/-- The parameters of a listing. -/
structure ListParams where
  cursor : Option String

structure CallParams where
  name : String
  arguments : Json
  extra : Option Json

structure ReadParams where
  uri : String

inductive Operation
  | handshake (params : HandshakeParams)
  | ping
  | listTools (params : ListParams)
  | callTool (params : CallParams)
  | listResources (params : ListParams)
  | readResource (params : ReadParams)
  | unknown (method : String) (params : Option Json)

/-- The request a cancellation names, and why it is cancelled. -/
structure CancelParams where
  requestId : Rpc.Id
  reason : Option String

inductive Signal
  | initialized
  | cancelled (params : CancelParams)
  | unknown (method : String) (params : Option Json)

/-- The method of the handshake. -/
def handshakeMethod : String := "initialize"

namespace HandshakeParams

def rules : List FieldRule :=
  [.optionalOf "protocolVersion" Decode.text, .defaulted "capabilities" Decode.any,
    .optionalOf "clientInfo" Implementation.ofJson]

def ofJson : Decoder HandshakeParams := fun v => do
  let fields ← Record.read "struct InitializeParams" rules .document v
  return {
    protocolVersion := ← fields.get? "protocolVersion" Decode.text
    capabilities := ← fields.getD "capabilities" Decode.any .null
    clientInfo := ← fields.get? "clientInfo" Implementation.ofJson }

end HandshakeParams

namespace ListParams

def rules : List FieldRule := [.optionalOf "cursor" Decode.text]

/-- Parameters that do not decode count as none. -/
def ofJson (type : String) (v : Json) : ListParams :=
  let decoded : Except DecodeError ListParams := do
    let fields ← Record.read type rules .document v
    return { cursor := ← fields.get? "cursor" Decode.text }
  match decoded with
  | .ok params => params
  | .error _ => ⟨none⟩

end ListParams

namespace CallParams

def rules : List FieldRule :=
  [.required "name" Decode.text, .defaulted "arguments" Decode.any,
    .optionalOf "_meta" Decode.any]

def ofJson : Decoder CallParams := fun v => do
  let fields ← Record.read "struct CallToolParams" rules .document v
  return {
    name := ← fields.get "name" Decode.text
    arguments := ← fields.getD "arguments" Decode.any .null
    extra := ← fields.get? "_meta" Decode.any }

end CallParams

namespace ReadParams

def rules : List FieldRule := [.required "uri" Decode.text]

def ofJson : Decoder ReadParams := fun v => do
  let fields ← Record.read "struct ReadResourceParams" rules .document v
  return { uri := ← fields.get "uri" Decode.text }

end ReadParams

namespace CancelParams

def rules : List FieldRule :=
  [.required "requestId" Rpc.Id.ofJson, .optionalOf "reason" Decode.text]

def ofJson : Decoder CancelParams := fun v => do
  let fields ← Record.read "struct CancelledParams" rules .document v
  return {
    requestId := ← fields.get "requestId" Rpc.Id.ofJson
    reason := ← fields.get? "reason" Decode.text }

def toJson (p : CancelParams) : Json :=
  .object ([("requestId", p.requestId.toJson)] ++ memberOf "reason" .string p.reason)

end CancelParams

namespace Operation

def ofRequest (r : Rpc.Request) : Except DecodeError Operation :=
  let params := r.params.getD (.object [])
  if r.method = handshakeMethod then (HandshakeParams.ofJson params).map .handshake
  else if r.method = "ping" then .ok .ping
  else if r.method = "tools/list" then
    .ok (.listTools (.ofJson "struct ListToolsParams" params))
  else if r.method = "tools/call" then (CallParams.ofJson params).map .callTool
  else if r.method = "resources/list" then
    .ok (.listResources (.ofJson "struct ListResourcesParams" params))
  else if r.method = "resources/read" then (ReadParams.ofJson params).map .readResource
  else .ok (.unknown r.method r.params)

def method : Operation → String
  | .handshake _ => handshakeMethod
  | .ping => "ping"
  | .listTools _ => "tools/list"
  | .callTool _ => "tools/call"
  | .listResources _ => "resources/list"
  | .readResource _ => "resources/read"
  | .unknown method _ => method

end Operation

def Signal.ofNotification (n : Rpc.Notification) : Except DecodeError Signal :=
  let params := n.params.getD (.object [])
  if n.method = "notifications/initialized" then .ok .initialized
  else if n.method = "notifications/cancelled" then (CancelParams.ofJson params).map .cancelled
  else .ok (.unknown n.method n.params)

end SessionRelay.Mcp
