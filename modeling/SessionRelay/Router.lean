import SessionRelay.Registry
import SessionRelay.Mcp.Operation

/-!
# The method table

A request is checked, decoded and carried out; whatever happens, the answer is one response with
the request's id. Only `tools/call` and `resources/read` run handlers.
-/

namespace SessionRelay

/-- The versions of the protocol this server speaks, newest first. -/
def supportedVersions : List String := ["2025-06-18", "2025-03-26", "2024-11-05"]

def latestVersion : String := "2025-06-18"

/-- The version a client asked for if it is supported, and the latest one otherwise. -/
def negotiate (requested : Option String) : String :=
  match requested with
  | some v => if v ∈ supportedVersions then v else latestVersion
  | none => latestVersion

structure Router where
  registry : Registry := {}
  serverName : String := "mcp-relay"
  serverVersion : String := "0.1.0"
  instructions : Option String := none

namespace Router

/-- The answer to a handshake. -/
def handshake (r : Router) (params : Mcp.HandshakeParams) : Mcp.HandshakeResult :=
  { protocolVersion := negotiate params.protocolVersion
    hasTools := r.registry.hasTools
    hasResources := r.registry.hasResources
    serverInfo := ⟨r.serverName, r.serverVersion⟩
    instructions := r.instructions }

/-- Carries out an operation. -/
def perform (r : Router) (context : ToolContext) : Mcp.Operation → Activity (Except Fault Json)
  | .handshake params => .done (.ok (r.handshake params).toJson)
  | .ping => .done (.ok (.object []))
  | .listTools _ =>
    .done (.ok (.object
      [("tools", .array (r.registry.toolDefinitions.map Mcp.ToolDefinition.toJson))]))
  | .listResources _ =>
    .done (.ok (.object
      [("resources", .array (r.registry.resourceDefinitions.map Mcp.ResourceDefinition.toJson))]))
  | .callTool params =>
    match r.registry.tool? params.name with
    | some tool =>
      (tool.call context params.arguments).map fun result => result.map Mcp.CallResult.toJson
    | none => .done (.error (.rpc (.toolNotFound params.name)))
  | .readResource params =>
    match r.registry.resource? params.uri with
    | some resource =>
      (resource.read context.clientId).map fun result => result.map Mcp.ReadResult.toJson
    | none => .done (.error (.rpc (.resourceNotFound params.uri)))
  | .unknown method _ => .done (.error (.rpc (.methodNotFound method)))

/-- The response that tells a result. -/
def responseTo (id : Rpc.Id) : Except Fault Json → Rpc.Response
  | .ok result => .result id result.canonical
  | .error fault => .error (some id) fault.toRpc

/-- Answers a request of a client. -/
def respond (r : Router) (clientId : String) (cancelled : Bool) (request : Rpc.Request) :
    Activity Rpc.Response :=
  match request.validate with
  | .error e => .done (.error (some request.id) e)
  | .ok () =>
    match Mcp.Operation.ofRequest request with
    | .error e =>
      .done (.error (some request.id) (.invalidParams (Fault.decoding e).message))
    | .ok operation =>
      (r.perform ⟨request.id, clientId, cancelled⟩ operation).map (responseTo request.id)

end Router

end SessionRelay
