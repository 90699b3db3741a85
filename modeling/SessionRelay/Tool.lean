import SessionRelay.Activity
import SessionRelay.Fault
import SessionRelay.Mcp.Definition

/-!
# Tools

A tool is what the listing shows of it together with a handler. A typed handler decodes its
arguments first; arguments that do not decode are invalid parameters.
-/

namespace SessionRelay

/-- What a tool handler learns about the call. -/
structure ToolContext where
  requestId : Rpc.Id
  clientId : String
  /-- Whether the call was cancelled before it began. -/
  cancelled : Bool

/-- What a tool produces. -/
inductive ToolOutput
  | text (text : String)
  | json (value : Json)
  | content (block : Mcp.Content)
  | contents (blocks : List Mcp.Content)
  | result (result : Mcp.CallResult)

def ToolOutput.toResult : ToolOutput → Mcp.CallResult
  | .text s => .ofText s
  | .json value => .ofJsonValue value
  | .content block => .ofContent [block]
  | .contents blocks => .ofContent blocks
  | .result r => r

/-- The work of one call. -/
abbrev ToolHandler := ToolContext → Json → Activity (Except Fault ToolOutput)

/-- What is wrong with a tool's name. -/
inductive ToolNameError
  | empty
  | tooLong (name : String)
  | badCharacter (name : String) (c : Char)
  deriving DecidableEq

namespace ToolName

def maxLength : Nat := 128

/-- ASCII letters and digits, `_`, `-` and `.`. -/
def allowed (c : Char) : Bool := c.isAlphanum || c == '_' || c == '-' || c == '.'

/-- A name has 1 to 128 bytes, all of them allowed characters. -/
def check (name : String) : Except ToolNameError Unit :=
  if name = "" then .error .empty
  else if maxLength < name.utf8ByteSize then .error (.tooLong name)
  else
    match name.toList.find? fun c => !allowed c with
    | some c => .error (.badCharacter name c)
    | none => .ok ()

end ToolName

def ToolNameError.message : ToolNameError → String
  | .empty => "name cannot be empty"
  | .tooLong name =>
    "'" ++ name ++ "' exceeds maximum length of 128 characters (got "
      ++ String.ofList (Decimal.digitChars name.utf8ByteSize) ++ ")"
  | .badCharacter name c =>
    "'" ++ name ++ "' contains invalid character '" ++ String.singleton c ++ "'"

instance : ToFault ToolNameError := ⟨fun e => .invalidToolName e.message⟩

/-- The schema of a handler that takes arguments as they come. -/
def objectSchema : Json := .ofMembers [("type", .string "object")]

def schemaDialect : String := "https://json-schema.org/draft/2020-12/schema"

/-- The schema of a record whose fields are all required. -/
def recordSchema (title : String) (properties : List (String × Json)) : Json :=
  .ofMembers [("$schema", .string schemaDialect), ("properties", .ofMembers properties),
    ("required", .array (properties.map fun (key, _) => .string key)), ("title", .string title),
    ("type", .string "object")]

structure Tool where
  name : String
  description : Option String := none
  inputSchema : Json := objectSchema
  outputSchema : Option Json := none
  extra : Option Json.Members := none
  handler : ToolHandler

namespace Tool

/-- The tool, if its name is valid. -/
def checked (t : Tool) : Except Fault Tool :=
  match ToolName.check t.name with
  | .ok () => .ok t
  | .error e => .error (toFault e)

def definition (t : Tool) : Mcp.ToolDefinition :=
  { name := t.name, description := t.description, inputSchema := t.inputSchema,
    outputSchema := t.outputSchema, extra := t.extra }

def call (t : Tool) (context : ToolContext) (arguments : Json) :
    Activity (Except Fault Mcp.CallResult) :=
  (t.handler context arguments).map fun output => output.map ToolOutput.toResult

end Tool

/-- Arguments of a type; clients may leave them out. -/
def decodeArguments {α : Type} (decoder : Decoder α) (arguments : Json) : Except Fault α :=
  let given := if arguments.isNull then .object [] else arguments
  (decoder given).mapError fun e => .rpc (.invalidParams ("Invalid input: " ++ e.message))

/-- A handler for arguments of a type. -/
def ToolHandler.typed {α : Type} (decoder : Decoder α)
    (work : ToolContext → α → Activity (Except Fault ToolOutput)) : ToolHandler :=
  fun context arguments =>
    match decodeArguments decoder arguments with
    | .ok input => work context input
    | .error fault => .done (.error fault)

/-- The arguments of a tool that takes none: nothing, or any object. -/
def noArguments : Decoder Unit
  | .null => .ok ()
  | .object _ => .ok ()
  | v => .error (.refused ("expected null or an object, got " ++ v.compact))

def noArgumentsSchema : Json :=
  .ofMembers [("$schema", .string schemaDialect), ("title", .string "NoParams"),
    ("type", .string "object")]

end SessionRelay
