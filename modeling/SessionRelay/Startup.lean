import SessionRelay.Address
import SessionRelay.ClientState
import SessionRelay.CommandLine
import SessionRelay.Demo

/-!
# Starting up

From the arguments, the configuration file and the environment to everything a server needs, or to
the reason why it does not start. The file comes before the environment, the arguments come last,
and the address is checked when all else is fine. The start is over when the program listens. Its
routes are made after that, and a base path that is no pattern of a route, like `/:a`, ends it
there.
-/

namespace SessionRelay.Startup

/-- Everything a server needs to run. -/
structure Plan where
  config : Config
  instanceId : String
  codec : ClientState.Codec
  address : String

instance : ToFault ConfigError := ⟨fun e => .config e.message⟩

/-- The server that the arguments, the file they name and the environment ask for. -/
def plan (arguments : CommandLine.Arguments) (file : Config.FileState)
    (lookup : String → Option String) (detected : String) : Except ConfigError Plan := do
  let config ← Config.ofFile arguments.config file
  let config ← config.override lookup
  let config := { config with instanceId := arguments.instanceId.or config.instanceId }
  config.validate
  return {
    config
    instanceId := config.resolveInstanceId detected
    codec := .ofSecret config.clientStateKey
    address := arguments.bind }

/-- An address that cannot be listened on. -/
def bindFault (address reason : String) : Fault :=
  .transport ("Failed to bind to " ++ address ++ ": " ++ reason)

/-- The port to listen on. -/
def listen (address : String) : Except Fault Nat :=
  (Address.check address).mapError fun e => bindFault address e.message

/-- The most messages that a queue within the program can be made to hold. -/
def maxQueueCapacity : Nat := 2305843009213693951

/-- What comes of starting the program. It dies over a queue that cannot be made, which no error
tells. -/
inductive Outcome
  | usage (error : CommandLine.UsageError)
  | failed (fault : Fault)
  | died
  /-- It listens, and goes on to make its routes. -/
  | ready (plan : Plan) (port : Nat)

/-- Starts with what the files hold, the values of the environment and the name to use for want of
one. -/
def start (arguments : List String) (file : String → Config.FileState)
    (lookup : String → Option String) (detected : String) : Outcome :=
  match CommandLine.parse arguments with
  | .error e => .usage e
  | .ok arguments =>
    match plan arguments (file arguments.config) lookup detected with
    | .error e => .failed (toFault e)
    | .ok plan =>
      if maxQueueCapacity < plan.config.inboundQueueCapacity then .died
      else
        match listen plan.address with
        | .error f => .failed f
        | .ok port => .ready plan port

/-- A fault in one line: its kind with its words, or its message if there is more to it. -/
def shownFault (f : Fault) : String :=
  match f.words? with
  | some words => f.kind ++ "(" ++ Text.quoted words ++ ")"
  | none => f.message

namespace Outcome

/-- Help was asked for. -/
def isHelp : Outcome → Bool
  | .usage e => e = .displayHelp
  | _ => false

def exitCode : Outcome → Nat
  | .usage .displayHelp | .ready _ _ => 0
  | .usage _ => 2
  | .failed _ => 1
  | .died => 101

/-- The line that tells why the program stopped. -/
def errorLine? : Outcome → Option String
  | .failed f => some ("Error: " ++ shownFault f)
  | _ => none

end Outcome

end SessionRelay.Startup
