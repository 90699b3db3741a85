import SessionRelay.Mcp.Content

/-!
# Definitions and results

What the listing methods show of a tool or a resource, and what calling a tool or reading a
resource answers. Free-form parts, such as schemas, are JSON values.
-/

namespace SessionRelay.Mcp

/-- A tool as it is listed. -/
structure ToolDefinition where
  name : String
  description : Option String := none
  inputSchema : Json
  outputSchema : Option Json := none
  extra : Option Json.Members := none

/-- A resource as it is listed. -/
structure ResourceDefinition where
  uri : String
  name : String
  description : Option String := none
  mimeType : Option String := none
  size : Option Nat := none
  extra : Option Json.Members := none

/-- The result of a tool call. An error result is one that the model should see. -/
structure CallResult where
  content : List Content
  isError : Bool := false
  structuredContent : Option Json := none

/-- The result of reading a resource. -/
structure ReadResult where
  contents : List ResourceContent

/-- A client or a server by name and version. -/
structure Implementation where
  name : String
  version : String
  deriving DecidableEq

/-- The result of a handshake. -/
structure HandshakeResult where
  protocolVersion : String
  hasTools : Bool
  hasResources : Bool
  serverInfo : Implementation
  instructions : Option String

namespace CallResult

def ofContent (content : List Content) : CallResult := { content }

def ofText (text : String) : CallResult := ofContent [.ofText text]

/-- A failure of the tool, told as text. -/
def ofError (message : String) : CallResult := { ofText message with isError := true }

/-- A value, structured and as text. -/
def ofJsonValue (value : Json) : CallResult :=
  { ofText value.pretty with structuredContent := some value }

/-- The text of all text blocks. -/
def allText (r : CallResult) : String :=
  String.join (r.content.filterMap fun
    | .text text _ => some text
    | _ => none)

end CallResult

/-! ### Writing -/

def ToolDefinition.toJson (d : ToolDefinition) : Json :=
  .object ([("name", .string d.name)] ++ memberOf "description" .string d.description
    ++ [("inputSchema", d.inputSchema)] ++ memberOf "outputSchema" id d.outputSchema
    ++ memberOf "_meta" .object d.extra)

def ResourceDefinition.toJson (d : ResourceDefinition) : Json :=
  .object ([("uri", .string d.uri), ("name", .string d.name)]
    ++ memberOf "description" .string d.description ++ memberOf "mimeType" .string d.mimeType
    ++ memberOf "size" Json.nat d.size ++ memberOf "_meta" .object d.extra)

def CallResult.toJson (r : CallResult) : Json :=
  .object ([("content", .array (r.content.map Content.toJson))]
    ++ (if r.isError then [("isError", .bool true)] else [])
    ++ memberOf "structuredContent" id r.structuredContent)

def ReadResult.toJson (r : ReadResult) : Json :=
  .object [("contents", .array (r.contents.map ResourceContent.toJson))]

def Implementation.toJson (i : Implementation) : Json :=
  .object [("name", .string i.name), ("version", .string i.version)]

namespace HandshakeResult

/-- What a server with tools, or with resources, declares. Neither list ever changes. -/
def capabilities (r : HandshakeResult) : Json :=
  .object ((if r.hasTools then [("tools", .object [("listChanged", .bool false)])] else [])
    ++ (if r.hasResources then
      [("resources", .object [("subscribe", .bool false), ("listChanged", .bool false)])] else []))

def toJson (r : HandshakeResult) : Json :=
  .object ([("protocolVersion", .string r.protocolVersion), ("capabilities", r.capabilities),
    ("serverInfo", r.serverInfo.toJson)] ++ memberOf "instructions" .string r.instructions)

end HandshakeResult

/-! ### Reading -/

namespace ToolDefinition

def rules : List FieldRule :=
  [.required "name" Decode.text, .placed "description" Decode.text,
    .required "inputSchema" Decode.any, .placed "outputSchema" Decode.any,
    .optionalOf "_meta" Decode.members]

def ofJson : Decoder ToolDefinition := fun v => do
  let fields ← Record.read "struct ToolDefinition" rules .document v
  return {
    name := ← fields.get "name" Decode.text
    description := ← fields.get? "description" Decode.text
    inputSchema := ← fields.get "inputSchema" Decode.any
    outputSchema := ← fields.get? "outputSchema" Decode.any
    extra := ← fields.get? "_meta" Decode.members }

end ToolDefinition

namespace ResourceDefinition

def rules : List FieldRule :=
  [.required "uri" Decode.text, .required "name" Decode.text, .placed "description" Decode.text,
    .placed "mimeType" Decode.text, .placed "size" Decode.nat64,
    .optionalOf "_meta" Decode.members]

def ofJson : Decoder ResourceDefinition := fun v => do
  let fields ← Record.read "struct ResourceDefinition" rules .document v
  return {
    uri := ← fields.get "uri" Decode.text
    name := ← fields.get "name" Decode.text
    description := ← fields.get? "description" Decode.text
    mimeType := ← fields.get? "mimeType" Decode.text
    size := ← fields.get? "size" Decode.nat64
    extra := ← fields.get? "_meta" Decode.members }

end ResourceDefinition

namespace CallResult

def rules : List FieldRule :=
  [.required "content" (Decode.sequence Content.ofJson), .defaulted "isError" Decode.boolean,
    .optionalOf "structuredContent" Decode.any]

def ofJson : Decoder CallResult := fun v => do
  let fields ← Record.read "struct CallToolResult" rules .document v
  return {
    content := ← fields.get "content" (Decode.sequence Content.ofJson)
    isError := ← fields.getD "isError" Decode.boolean false
    structuredContent := ← fields.get? "structuredContent" Decode.any }

end CallResult

namespace ReadResult

def rules : List FieldRule :=
  [.required "contents" (Decode.sequence (ResourceContent.ofJson .document))]

def ofJson : Decoder ReadResult := fun v => do
  let fields ← Record.read "struct ReadResourceResult" rules .document v
  return {
    contents := ← fields.get "contents" (Decode.sequence (ResourceContent.ofJson .document)) }

end ReadResult

namespace Implementation

def rules : List FieldRule := [.required "name" Decode.text, .required "version" Decode.text]

def ofJson : Decoder Implementation := fun v => do
  let fields ← Record.read "struct Implementation" rules .document v
  return { name := ← fields.get "name" Decode.text, version := ← fields.get "version" Decode.text }

end Implementation

end SessionRelay.Mcp
