import SessionRelay.Encoding.Base64
import SessionRelay.Number.Decimal
import SessionRelay.Text.Blank
import SessionRelay.Text.Utf8
import SessionRelay.Toml.Parser

/-!
# Configuration

Settings come from an optional TOML file and then from the environment. Every setting has a default,
so an empty file is a valid configuration.
-/

namespace SessionRelay

/-- How an instance polls its relay queue. Times are in milliseconds. -/
structure BackplaneConfig where
  /-- The wait after the first empty poll. -/
  minPollInterval : Nat := 100
  /-- The ceiling of the wait, which doubles with every empty poll. -/
  maxPollInterval : Nat := 1500
  /-- How many entries one poll takes at most. -/
  batchSize : Nat := 32
  /-- How long an entry that was taken stays hidden. -/
  visibilityTimeout : Nat := 30000
  deriving DecidableEq

structure Config where
  instanceId : Option String := none
  /-- The secret for encrypted tokens; without one tokens are plain. -/
  clientStateKey : Option String := none
  enableSse : Bool := true
  enableStreamableHttp : Bool := true
  basePath : String := ""
  serverName : String := "mcp-relay"
  serverVersion : String := "0.1.0"
  instructions : Option String := none
  inboundQueueCapacity : Nat := 64
  /-- Seconds between keep-alive comments; none are sent if it is zero. -/
  keepAliveSeconds : Nat := 30
  backplane : BackplaneConfig := {}
  deriving DecidableEq

/-- What is wrong with a configuration. -/
inductive ConfigError
  | notToml
  | notBoolean (key : String) (value : String)
  | noTransport
  | noInboundCapacity
  | noBatch
  | unreadable (path : String) (reason : String)
  | unusable (path : String) (error : ConfigError)

def ConfigError.message : ConfigError → String
  | .notToml => "TOML parse error"
  | .notBoolean key value => key ++ " must be a boolean, got '" ++ value ++ "'"
  | .noTransport => "at least one of enable_sse and enable_streamable_http must be set"
  | .noInboundCapacity => "inbound_queue_capacity must be greater than zero"
  | .noBatch => "backplane.batch_size must be greater than zero"
  | .unreadable path reason => "failed to read " ++ path ++ ": " ++ reason
  | .unusable path error =>
    "failed to parse " ++ path ++ ": Configuration error: " ++ error.message

namespace BackplaneConfig

/-- A ceiling below the first wait counts as the first wait. -/
def ceiling (c : BackplaneConfig) : Nat := max c.maxPollInterval c.minPollInterval

end BackplaneConfig

/-! ### Settings as TOML values -/

namespace Setting

def text? : Toml → Option String
  | .string s => some s
  | _ => none

def switch? : Toml → Option Bool
  | .boolean b => some b
  | _ => none

def count? : Toml → Option Nat
  | .integer n => if 0 ≤ n then some n.toNat else none
  | _ => none

end Setting

namespace BackplaneConfig

/-- Sets one setting by name. Unknown names are ignored. -/
def set? (c : BackplaneConfig) (key : String) (v : Toml) : Option BackplaneConfig :=
  if key = "min_poll_interval_ms" then
    (Setting.count? v).map fun n => { c with minPollInterval := n }
  else if key = "max_poll_interval_ms" then
    (Setting.count? v).map fun n => { c with maxPollInterval := n }
  else if key = "batch_size" then (Setting.count? v).map fun n => { c with batchSize := n }
  else if key = "visibility_timeout_ms" then
    (Setting.count? v).map fun n => { c with visibilityTimeout := n }
  else some c

/-- The settings in the order in which an array lists them. -/
def names : List String :=
  ["min_poll_interval_ms", "max_poll_interval_ms", "batch_size", "visibility_timeout_ms"]

/-- Settings from a table, or from an array that lists them; a date holds none. -/
def ofToml? : Toml → Option BackplaneConfig
  | .table members => members.foldlM (fun c (key, v) => c.set? key v) {}
  | .array items => (names.zip items).foldlM (fun c (key, v) => c.set? key v) {}
  | .datetime => some {}
  | _ => none

end BackplaneConfig

namespace Config

/-- Sets one setting by name. Unknown names are ignored. -/
def set? (c : Config) (key : String) (v : Toml) : Option Config :=
  if key = "instance_id" then (Setting.text? v).map fun s => { c with instanceId := some s }
  else if key = "client_state_key" then
    (Setting.text? v).map fun s => { c with clientStateKey := some s }
  else if key = "enable_sse" then (Setting.switch? v).map fun b => { c with enableSse := b }
  else if key = "enable_streamable_http" then
    (Setting.switch? v).map fun b => { c with enableStreamableHttp := b }
  else if key = "base_path" then (Setting.text? v).map fun s => { c with basePath := s }
  else if key = "server_name" then (Setting.text? v).map fun s => { c with serverName := s }
  else if key = "server_version" then (Setting.text? v).map fun s => { c with serverVersion := s }
  else if key = "instructions" then
    (Setting.text? v).map fun s => { c with instructions := some s }
  else if key = "inbound_queue_capacity" then
    (Setting.count? v).map fun n => { c with inboundQueueCapacity := n }
  else if key = "sse_keep_alive_secs" then
    (Setting.count? v).map fun n => { c with keepAliveSeconds := n }
  else if key = "backplane" then
    (BackplaneConfig.ofToml? v).map fun b => { c with backplane := b }
  else some c

/-- The configuration that a TOML text describes. -/
def ofText (text : String) : Except ConfigError Config :=
  let config := do
    let members ← Toml.parse? text
    members.foldlM (fun (c : Config) (key, v) => c.set? key v) {}
  match config with
  | some c => .ok c
  | none => .error .notToml

/-- What stands at a path. -/
inductive FileState
  | missing
  | directory
  | unreadable (reason : String)
  | content (bytes : Bytes)

/-- The configuration in a file; without a file all settings have their defaults. -/
def ofFile (path : String) : FileState → Except ConfigError Config
  | .missing => .ok {}
  | .directory => .error (.unreadable path "Is a directory (os error 21)")
  | .unreadable reason => .error (.unreadable path reason)
  | .content bytes =>
    match Utf8.decode? bytes with
    | none => .error (.unreadable path "stream did not contain valid UTF-8")
    | some text => (ofText text).mapError (.unusable path)

/-! ### The environment -/

def instanceIdVariable : String := "MCP_RELAY_INSTANCE_ID"

def clientStateKeyVariable : String := "MCP_RELAY_CLIENT_STATE_KEY"

def enableSseVariable : String := "MCP_RELAY_ENABLE_SSE"

def enableStreamableHttpVariable : String := "MCP_RELAY_ENABLE_STREAMABLE_HTTP"

def basePathVariable : String := "MCP_RELAY_BASE_PATH"

/-- The variables that are looked at. -/
def variableNames : List String :=
  [instanceIdVariable, clientStateKeyVariable, enableSseVariable, enableStreamableHttpVariable,
    basePathVariable]

/-- A switch spelled as a word, in any case and with white space around it. -/
def parseSwitch (key value : String) : Except ConfigError Bool :=
  let word := (Text.trim value).map Char.toLower
  if word = "1" ∨ word = "true" ∨ word = "yes" ∨ word = "on" then .ok true
  else if word = "0" ∨ word = "false" ∨ word = "no" ∨ word = "off" then .ok false
  else .error (.notBoolean key word)

/-- A variable that is not empty. -/
def nonEmpty (lookup : String → Option String) (key : String) : Option String :=
  (lookup key).filter fun v => v ≠ ""

/-- The configuration with the settings of the environment. An empty id or key does not count. -/
def override (c : Config) (lookup : String → Option String) : Except ConfigError Config := do
  let c := { c with instanceId := (nonEmpty lookup instanceIdVariable).or c.instanceId }
  let c := { c with clientStateKey := (nonEmpty lookup clientStateKeyVariable).or c.clientStateKey }
  let c ←
    match lookup enableSseVariable with
    | some v => (parseSwitch enableSseVariable v).map fun b => { c with enableSse := b }
    | none => pure c
  let c ←
    match lookup enableStreamableHttpVariable with
    | some v =>
      (parseSwitch enableStreamableHttpVariable v).map fun b => { c with enableStreamableHttp := b }
    | none => pure c
  return { c with basePath := (lookup basePathVariable).getD c.basePath }

/-! ### Use -/

/-- A configuration that can serve: one transport at least, and room in every queue. -/
def validate (c : Config) : Except ConfigError Unit :=
  if !c.enableSse && !c.enableStreamableHttp then .error .noTransport
  else if c.inboundQueueCapacity = 0 then .error .noInboundCapacity
  else if c.backplane.batchSize = 0 then .error .noBatch
  else .ok ()

/-- The configured id, or the one found for this process. -/
def resolveInstanceId (c : Config) (detected : String) : String := c.instanceId.getD detected

/-- A path between slashes, as the start of routes: a slash before it unless it is empty. -/
def routeBase (path : List Char) : String :=
  match Text.trimChars (· = '/') path with
  | [] => ""
  | cs => String.ofList ('/' :: cs)

/-- The base path without white space around it. -/
def normalizedBasePath (c : Config) : String := routeBase (Text.trimChars Text.isBlank c.basePath.toList)

/-- Milliseconds between keep-alive comments. -/
def keepAlive (c : Config) : Option Nat :=
  if c.keepAliveSeconds = 0 then none else some (1000 * c.keepAliveSeconds)

end Config

end SessionRelay
