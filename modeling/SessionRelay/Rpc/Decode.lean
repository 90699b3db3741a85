import SessionRelay.Rpc.Message
import SessionRelay.Json.Parser

/-!
# Reading JSON-RPC messages

A message is told by its shape: `method` with an id is a request, `method` alone a notification,
`error` an error response, `result` with an id a success. An id of `null` counts as absent.
-/

namespace SessionRelay.Rpc

namespace ErrorObject

def rules : List FieldRule :=
  [.required "code" Decode.int32, .required "message" Decode.text, .optionalOf "data" Decode.any]

def ofJson : Decoder ErrorObject := fun v => do
  let fields ← Record.read "struct JsonRpcError" rules .document v
  return {
    code := ← fields.get "code" Decode.int32
    message := ← fields.get "message" Decode.text
    data := ← fields.get? "data" Decode.any }

end ErrorObject

namespace Request

def rules : List FieldRule :=
  [.required "jsonrpc" Decode.text, .required "id" Id.ofJson, .required "method" Decode.text,
    .optionalOf "params" Decode.any]

def ofJson : Decoder Request := fun v => do
  let fields ← Record.read "struct JsonRpcRequest" rules .document v
  return {
    version := ← fields.get "jsonrpc" Decode.text
    id := ← fields.get "id" Id.ofJson
    method := ← fields.get "method" Decode.text
    params := ← fields.get? "params" Decode.any }

end Request

namespace Notification

def rules : List FieldRule :=
  [.required "jsonrpc" Decode.text, .required "method" Decode.text,
    .optionalOf "params" Decode.any]

def ofJson : Decoder Notification := fun v => do
  let fields ← Record.read "struct JsonRpcNotification" rules .document v
  return {
    version := ← fields.get "jsonrpc" Decode.text
    method := ← fields.get "method" Decode.text
    params := ← fields.get? "params" Decode.any }

end Notification

namespace Success

def rules : List FieldRule :=
  [.required "jsonrpc" Decode.text, .required "id" Id.ofJson, .required "result" Decode.any]

def ofJson : Decoder Success := fun v => do
  let fields ← Record.read "struct JsonRpcResultResponse" rules .document v
  return {
    version := ← fields.get "jsonrpc" Decode.text
    id := ← fields.get "id" Id.ofJson
    result := ← fields.get "result" Decode.any }

end Success

namespace Failure

def rules : List FieldRule :=
  [.required "jsonrpc" Decode.text, .optionalOf "id" Id.ofJson,
    .required "error" ErrorObject.ofJson]

def ofJson : Decoder Failure := fun v => do
  let fields ← Record.read "struct JsonRpcErrorResponse" rules .document v
  return {
    version := ← fields.get "jsonrpc" Decode.text
    id := ← fields.get? "id" Id.ofJson
    error := ← fields.get "error" ErrorObject.ofJson }

end Failure

/-- Tries a success first, then an error response. -/
def Response.ofJson : Decoder Response := fun v =>
  match Success.ofJson v with
  | .ok r => .ok (.success r)
  | .error _ =>
    match Failure.ofJson v with
    | .ok r => .ok (.failure r)
    | .error _ => .error (.noVariant "JsonRpcResponse")

namespace Message

/-- A message read by its shape. Everything else is an invalid request. -/
def ofJson (v : Json) : Except ErrorObject Message :=
  match v with
  | .object members =>
    let hasId :=
      match Json.Members.get? "id" members with
      | some id => !id.isNull
      | none => false
    let has (key : String) : Bool := (Json.Members.get? key members).isSome
    let decoded : Except DecodeError (Option Message) :=
      if has "method" then
        if hasId then (Request.ofJson v).map fun r => some (.request r)
        else (Notification.ofJson v).map fun n => some (.notification n)
      else if has "error" then (Failure.ofJson v).map fun r => some (.failure r)
      else if hasId && has "result" then (Success.ofJson v).map fun r => some (.success r)
      else .ok none
    match decoded with
    | .ok (some m) => .ok m
    | .ok none =>
      .error (.invalidRequest "Message is neither a request, notification nor response")
    | .error e => .error (.invalidRequest ("Invalid message: " ++ e.message))
  | _ => .error (.invalidRequest "JSON-RPC message must be an object")

/-- A message as part of a larger value. -/
def decoder : Decoder Message := fun v => (ofJson v).mapError fun e => .refused e.message

/-- What the sender of a body that is not JSON is told. -/
def notJson : String := "Invalid JSON: syntax error"

/-- The messages of an HTTP body: one message, or a batch that is not empty. -/
def ofBody (body : String) : Except ErrorObject (List Message) :=
  match Json.parse? body with
  | none => .error (.parseError notJson)
  | some (.array []) => .error (.invalidRequest "Empty batch request")
  | some (.array items) => items.mapM ofJson
  | some v => (ofJson v).map fun m => [m]

end Message

end SessionRelay.Rpc
