import SessionRelay.Router

/-!
# Layers around the method table

A service answers decoded requests and says what is to be logged of them. The method table is one,
and a layer makes a service of another. The tracing layer opens a span for every request and logs
how it ended; the outermost one reads and writes JSON-RPC.
-/

namespace SessionRelay

/-- A decoded request. -/
structure RoutedRequest where
  id : Rpc.Id
  operation : Mcp.Operation
  clientId : String
  cancelled : Bool

structure RoutedResponse where
  id : Rpc.Id
  outcome : Except Rpc.ErrorObject Json

def RoutedResponse.toRpc : RoutedResponse → Rpc.Response
  | ⟨id, .ok result⟩ => .result id result.canonical
  | ⟨id, .error e⟩ => .error (some id) e

inductive LogLevel
  | trace
  | debug
  | info
  | warn
  | error
  deriving DecidableEq

/-- What is known of a request while it runs. The target is the tool or the resource it asks for. -/
structure Span where
  level : LogLevel
  method : String
  requestId : String
  clientId : String
  target : Option String

/-- How a request ended. -/
inductive Ending
  | completed (level : LogLevel) (method : String)
  | failed (method : String) (code : Int) (message : String)

structure LogEntry where
  span : Span
  ending : Ending

abbrev RequestService := RoutedRequest → Activity (RoutedResponse × List LogEntry)

/-- The method table as a service. Its faults become errors here. -/
def Router.service (r : Router) : RequestService := fun request =>
  (r.perform ⟨request.id, request.clientId, request.cancelled⟩ request.operation).map fun result =>
    (⟨request.id, result.mapError Fault.toRpc⟩, [])

def Mcp.Operation.target? : Mcp.Operation → Option String
  | .callTool params => some params.name
  | .readResource params => some params.uri
  | _ => none

/-- Logs requests; those that succeed at its level. -/
structure TracingLayer where
  level : LogLevel := .info

namespace TracingLayer

def span (l : TracingLayer) (request : RoutedRequest) : Span :=
  { level := l.level
    method := request.operation.method
    requestId := request.id.shown
    clientId := request.clientId
    target := request.operation.target? }

def ending (l : TracingLayer) (method : String) : Except Rpc.ErrorObject Json → Ending
  | .ok _ => .completed l.level method
  | .error e => .failed method e.code e.message

def layer (l : TracingLayer) (inner : RequestService) : RequestService := fun request =>
  (inner request).map fun (response, entries) =>
    (response,
      entries ++ [⟨l.span request, l.ending request.operation.method response.outcome⟩])

end TracingLayer

/-- Checks and decodes a request for a service. One that fails does not reach it. -/
def RequestService.respond (inner : RequestService) (clientId : String) (cancelled : Bool)
    (request : Rpc.Request) : Activity (Rpc.Response × List LogEntry) :=
  match request.validate with
  | .error e => .done (.error (some request.id) e, [])
  | .ok () =>
    match Mcp.Operation.ofRequest request with
    | .error e =>
      .done (.error (some request.id) (.invalidParams (Fault.decoding e).message), [])
    | .ok operation =>
      (inner ⟨request.id, operation, clientId, cancelled⟩).map fun (response, entries) =>
        (response.toRpc, entries)

end SessionRelay
