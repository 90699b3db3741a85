import SessionRelay.Demo

/-!
# Sample handlers

Handlers that between them do everything a handler can do: answer, fail, crash, wait for their
cancellation and wait for a signal. The sample registry has one tool of each kind.
-/

namespace SessionRelay.Sample

/-! ### Handlers -/

/-- Gives the arguments back as they came. -/
def echo : ToolHandler := fun _ arguments => .done (.ok (.json arguments))

/-- Always ends in the same way. -/
def fixed (output : Except Fault ToolOutput) : ToolHandler := fun _ _ => .done output

def crashing (message : Option String) : ToolHandler := fun _ _ => .crash message

/-- Waits until its request is cancelled. -/
def waiting : ToolHandler :=
  .typed noArguments fun _ _ => .await .cancellation (.done (.ok (.text "cancelled")))

/-- Waits for the signal that its message names. -/
def gated : ToolHandler :=
  .typed Demo.echoInput fun _ message =>
    .await (.signal message) (.done (.ok (.text ("released " ++ message))))

/-- Gives its message back. -/
def say : ToolHandler := .typed Demo.echoInput fun _ message => .done (.ok (.text message))

def addRules : List FieldRule := [.required "a" Decode.int64, .required "b" Decode.int64]

def addInput : Decoder (Int × Int) := fun v => do
  let fields ← Record.read "struct AddInput" addRules .document v
  return (← fields.get "a" Decode.int64, ← fields.get "b" Decode.int64)

/-- Adds two 64-bit integers; the sum wraps. -/
def add : ToolHandler :=
  .typed addInput fun _ (a, b) =>
    .done (.ok (.text (String.ofList (Number.intChars (Int64.ofInt a + Int64.ofInt b).toInt))))

def nothing : ToolHandler := .typed noArguments fun _ _ => .done (.ok (.text "ok"))

/-- Tells what it knows of its call. -/
def who : ToolHandler :=
  .typed Demo.echoInput fun context message =>
    .done (.ok (.json (.ofMembers [("requestId", context.requestId.toJson),
      ("clientId", .string context.clientId), ("cancelled", .bool context.cancelled),
      ("message", .string message)])))

/-- Gives the arguments back with a note. -/
def wrapped : ToolHandler := fun _ arguments =>
  .done (.ok (.json (.ofMembers [("args", arguments), ("consistent", .bool true)])))

/-- Tells who reads what. -/
def reader : ReadHandler := fun context =>
  .done (.ok (.text (context.clientId ++ " reads " ++ context.uri)))

/-! ### Schemas -/

def echoSchema : Json := recordSchema "EchoInput" [("message", .ofMembers [("type", .string "string")])]

def addSchema : Json :=
  let number := Json.ofMembers [("format", .string "int64"), ("type", .string "integer")]
  recordSchema "AddInput" [("a", number), ("b", number)]

/-! ### The registry -/

def tools : List Tool :=
  [{ name := "echo", description := some "Echo arguments", handler := echo },
    { name := "say", inputSchema := echoSchema, handler := say },
    { name := "add", description := some "Add two numbers", inputSchema := addSchema, handler := add },
    { name := "none", inputSchema := noArgumentsSchema, handler := nothing },
    { name := "who", inputSchema := echoSchema, handler := who },
    { name := "fail", handler := fixed (.error (.tool "disk on fire")) },
    { name := "boom", handler := crashing (some "kaboom") },
    { name := "boom-static", handler := crashing (some "static kaboom") },
    { name := "boom-any", handler := crashing none },
    { name := "wait", inputSchema := noArgumentsSchema, handler := waiting },
    { name := "gate", inputSchema := echoSchema, handler := gated }]

def resources : List Resource :=
  [Resource.withText
      { uri := "file:///readme.md"
        name := "README"
        mimeType := some "text/markdown"
        handler := reader } "# Hello",
    { uri := "mem://bytes", handler := fun _ => .done (.ok (.blob [0, 255, 16])) },
    { uri := "mem://who", handler := reader },
    { uri := "mem://broken", handler := fun _ => .done (.error (.resource "bad sector")) }]

def registry : Registry := { tools, resources }

end SessionRelay.Sample
