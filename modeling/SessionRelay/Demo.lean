import SessionRelay.Config
import SessionRelay.Router

/-!
# The demo server

Three tools and one resource, so that a fresh instance has something to answer with.
-/

namespace SessionRelay.Demo

/-! ### Echo -/

def echoRules : List FieldRule := [.required "message" Decode.text]

def echoInput : Decoder String := fun v => do
  let fields ← Record.read "struct EchoInput" echoRules .document v
  fields.get "message" Decode.text

def echoSchema : Json :=
  recordSchema "EchoInput"
    [("message", .ofMembers [("description", .string "Text to send back"),
      ("type", .string "string")])]

def echo : Tool :=
  { name := "echo"
    description := some "Echo a message back"
    inputSchema := echoSchema
    handler := .typed echoInput fun _ message => .done (.ok (.text message)) }

/-! ### Addition -/

def addRules : List FieldRule := [.required "a" Decode.double, .required "b" Decode.double]

def addInput : Decoder (Double × Double) := fun v => do
  let fields ← Record.read "struct AddInput" addRules .document v
  return (← fields.get "a" Decode.double, ← fields.get "b" Decode.double)

def addSchema : Json :=
  let number := Json.ofMembers [("format", .string "double"), ("type", .string "number")]
  recordSchema "AddInput" [("a", number), ("b", number)]

/-- A sum that is not finite is no number. -/
def sum (a b : Double) : Json :=
  let total := a.add b
  if total.isFinite then .number (.real total) else .null

def add : Tool :=
  { name := "add"
    description := some "Add two numbers"
    inputSchema := addSchema
    handler := .typed addInput fun _ (a, b) =>
      .done (.ok (.json (.ofMembers [("sum", sum a b)]))) }

/-! ### Time and settings -/

/-- Tells the time, in seconds since 1970, and the instance. -/
def serverTime (instanceId : String) (now : Nat) : Tool :=
  { name := "server-time"
    description := some "Current server time and the instance that answered"
    inputSchema := noArgumentsSchema
    handler := .typed noArguments fun _ _ =>
      .done (.ok (.contents
        [.ofText ("unix time: " ++ String.ofList (Decimal.digitChars now)),
          .ofText ("instance: " ++ instanceId)])) }

/-- The settings that are no secret. -/
def settings (config : Config) (instanceId : String) : Json :=
  .ofMembers [("name", .string config.serverName), ("version", .string config.serverVersion),
    ("instanceId", .string instanceId), ("sse", .bool config.enableSse),
    ("streamableHttp", .bool config.enableStreamableHttp)]

def settingsResource (config : Config) (instanceId : String) : Resource :=
  Resource.withText
    { uri := "config://server"
      name := "Server configuration"
      description := some "Non-secret settings of this instance"
      mimeType := some "application/json"
      handler := fun _ => .done (.ok (.text "")) }
    (settings config instanceId).pretty

/-- The registry as it answers at a given time. -/
def registry (config : Config) (instanceId : String) (now : Nat) : Registry :=
  { tools := [echo, add, serverTime instanceId now]
    resources := [settingsResource config instanceId] }

/-- The demo server of a configuration. -/
def router (config : Config) (instanceId : String) (now : Nat) : Router :=
  { registry := registry config instanceId now
    serverName := config.serverName
    serverVersion := config.serverVersion
    instructions := config.instructions }

end SessionRelay.Demo
