import SessionRelay.Json.Decode
import SessionRelay.Number.Width

/-!
# JSON-RPC messages

Requests, notifications and the two kinds of response, with their wire form. On the wire the
members stand in the order in which the fields are declared here, and absent optional members are
left out; only the id of an error response is always written.
-/

namespace SessionRelay.Rpc

/-- The version every message has to name. -/
def version : String := "2.0"

/-- The id of a request, which its response repeats. -/
inductive Id
  | text (s : String)
  | number (n : Int)
  deriving DecidableEq, Inhabited

/-- The error member of an error response. -/
structure ErrorObject where
  code : Int
  message : String
  data : Option Json := none

structure Request where
  version : String := Rpc.version
  id : Id
  method : String
  params : Option Json := none

/-- A message that expects no response. -/
structure Notification where
  version : String := Rpc.version
  method : String
  params : Option Json := none

structure Success where
  version : String := Rpc.version
  id : Id
  result : Json

/-- An error response. It has no id when the request's id could not be told. -/
structure Failure where
  version : String := Rpc.version
  id : Option Id
  error : ErrorObject

inductive Response
  | success (r : Success)
  | failure (r : Failure)

inductive Message
  | request (r : Request)
  | notification (n : Notification)
  | success (r : Success)
  | failure (r : Failure)

/-- The codes of JSON-RPC errors. -/
inductive ErrorCode
  | parseError
  | invalidRequest
  | methodNotFound
  | invalidParams
  | internalError
  deriving DecidableEq

def ErrorCode.code : ErrorCode → Int
  | .parseError => -32700
  | .invalidRequest => -32600
  | .methodNotFound => -32601
  | .invalidParams => -32602
  | .internalError => -32603

namespace ErrorObject

def ofCode (code : ErrorCode) (message : String) : ErrorObject := { code := code.code, message }

def withData (e : ErrorObject) (data : Json) : ErrorObject := { e with data := some data }

def parseError (message : String) : ErrorObject := ofCode .parseError message

def invalidRequest (message : String) : ErrorObject := ofCode .invalidRequest message

def invalidParams (message : String) : ErrorObject := ofCode .invalidParams message

def internalError (message : String) : ErrorObject := ofCode .internalError message

def methodNotFound (method : String) : ErrorObject :=
  ofCode .methodNotFound ("Method not found: " ++ method)

/-- An unknown tool shares the code of an unknown method. -/
def toolNotFound (name : String) : ErrorObject :=
  ofCode .methodNotFound ("Tool not found: " ++ name)

/-- An unknown resource shares the code too; the data names its URI. -/
def resourceNotFound (uri : String) : ErrorObject :=
  (ofCode .methodNotFound ("Resource not found: " ++ uri)).withData
    (.ofMembers [("uri", .string uri)])

end ErrorObject

/-- A member that is left out when there is no value. -/
def optionalMember (key : String) : Option Json → List (String × Json)
  | none => []
  | some v => [(key, v)]

namespace Id

/-- The id as plain text. -/
def shown : Id → String
  | .text s => s
  | .number n => String.ofList (Number.intChars n)

def toJson : Id → Json
  | .text s => .string s
  | .number n => .int n

def ofJson : Decoder Id
  | .string s => .ok (.text s)
  | .number (.int n) =>
    if Width.isInt64 n then .ok (.number n) else .error (.noVariant "RequestId")
  | _ => .error (.noVariant "RequestId")

end Id

def ErrorObject.toJson (e : ErrorObject) : Json :=
  .object ([("code", .int e.code), ("message", .string e.message)] ++ optionalMember "data" e.data)

def Request.toJson (r : Request) : Json :=
  .object ([("jsonrpc", .string r.version), ("id", r.id.toJson), ("method", .string r.method)]
    ++ optionalMember "params" r.params)

def Notification.toJson (n : Notification) : Json :=
  .object ([("jsonrpc", .string n.version), ("method", .string n.method)]
    ++ optionalMember "params" n.params)

def Success.toJson (r : Success) : Json :=
  .object [("jsonrpc", .string r.version), ("id", r.id.toJson), ("result", r.result)]

def Failure.toJson (r : Failure) : Json :=
  .object [("jsonrpc", .string r.version), ("id", (r.id.map Id.toJson).getD .null),
    ("error", r.error.toJson)]

namespace Response

def toJson : Response → Json
  | .success r => r.toJson
  | .failure r => r.toJson

def id? : Response → Option Id
  | .success r => some r.id
  | .failure r => r.id

def toMessage : Response → Message
  | .success r => .success r
  | .failure r => .failure r

/-- The response that answers a request with a result. -/
def result (id : Id) (result : Json) : Response := .success { id, result }

def error (id : Option Id) (error : ErrorObject) : Response := .failure { id, error }

end Response

namespace Message

def toJson : Message → Json
  | .request r => r.toJson
  | .notification n => n.toJson
  | .success r => r.toJson
  | .failure r => r.toJson

/-- The name of a message's kind. -/
def kind : Message → String
  | .request _ => "request"
  | .notification _ => "notification"
  | .success _ => "response"
  | .failure _ => "error"

/-- The text of a message on the wire. -/
def wire (m : Message) : String := m.toJson.compact

def method? : Message → Option String
  | .request r => some r.method
  | .notification n => some n.method
  | _ => none

def id? : Message → Option Id
  | .request r => some r.id
  | .notification _ => none
  | .success r => some r.id
  | .failure r => r.id

def isRequest : Message → Bool
  | .request _ => true
  | _ => false

/-- Whether a message answers a request. -/
def isResponse : Message → Bool
  | .success _ | .failure _ => true
  | _ => false

end Message

namespace Request

/-- A request has to name the right version. -/
def validate (r : Request) : Except ErrorObject Unit :=
  if r.version = Rpc.version then .ok ()
  else .error (.invalidRequest
    ("Invalid JSON-RPC version: expected '" ++ Rpc.version ++ "', got '" ++ r.version ++ "'"))

end Request

end SessionRelay.Rpc
