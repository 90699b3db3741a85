/-!
# Command-line arguments

Every option takes a value and may be given once. A value stands in the next argument, or in the
same one behind `=`, or directly behind a one-letter option. An option is complete only when
something follows its value, so an argument nobody knows is reported before what is wrong with the
option just before it.
-/

namespace SessionRelay.CommandLine

/-- The options that take a value. -/
inductive Setting
  | config
  | bind
  | logLevel
  | instanceId
  deriving DecidableEq

/-- Why the program does not start. -/
inductive UsageError
  | unknownArgument
  | invalidValue
  | argumentConflict
  | tooManyValues
  | displayHelp
  deriving DecidableEq

def UsageError.name : UsageError → String
  | .unknownArgument => "UnknownArgument"
  | .invalidValue => "InvalidValue"
  | .argumentConflict => "ArgumentConflict"
  | .tooManyValues => "TooManyValues"
  | .displayHelp => "DisplayHelp"

/-- What is said about arguments that do not make a start. -/
def UsageError.message : UsageError → String
  | .unknownArgument => "unexpected argument"
  | .invalidValue => "an option lacks its value"
  | .argumentConflict => "an option is given twice"
  | .tooManyValues => "an option takes no value"
  | .displayHelp => "help"

/-- How the program is called. -/
def usage : String :=
  "Usage: mcp-relay [OPTIONS]\n\n"
    ++ "Serve MCP tools and resources over SSE and streamable HTTP\n\n"
    ++ "Options:\n"
    ++ "  -c, --config <CONFIG>            TOML configuration file [default: mcp-relay.toml]\n"
    ++ "  -b, --bind <BIND>                Address to listen on [default: 127.0.0.1:3000]\n"
    ++ "      --log-level <LOG_LEVEL>      Log level for mcp_relay [default: info]\n"
    ++ "      --instance-id <INSTANCE_ID>  Override the instance id\n"
    ++ "  -h, --help                       Print help\n"

structure Arguments where
  config : String := "mcp-relay.toml"
  bind : String := "127.0.0.1:3000"
  logLevel : String := "info"
  instanceId : Option String := none
  deriving DecidableEq

def Setting.ofLetter? (c : Char) : Option Setting :=
  if c = 'c' then some .config else if c = 'b' then some .bind else none

def Setting.ofWord? (word : String) : Option Setting :=
  if word = "config" then some .config
  else if word = "bind" then some .bind
  else if word = "log-level" then some .logLevel
  else if word = "instance-id" then some .instanceId
  else none

/-- What has been read: settings that are complete, and the option that waits for its value or for
what follows it. -/
structure Progress where
  given : List (Setting × String) := []
  pending : Option (Setting × Option String) := none

abbrev Step := Except UsageError Progress

/-- Records a value. A path is not empty. -/
def Progress.store (p : Progress) (setting : Setting) (value : String) : Step :=
  if p.given.any fun (s, _) => s = setting then .error .argumentConflict
  else if setting = .config ∧ value = "" then .error .invalidValue
  else .ok { given := p.given ++ [(setting, value)], pending := none }

/-- Completes the option before. -/
def Progress.settle (p : Progress) : Step :=
  match p.pending with
  | none => .ok p
  | some (_, none) => .error .invalidValue
  | some (setting, some value) => p.store setting value

/-- An option, with its value if that stands in the same argument. -/
def Progress.option (p : Progress) (setting : Setting) (value : Option String) : Step := do
  let p ← p.settle
  match value with
  | some v => p.store setting v
  | none => return { p with pending := some (setting, none) }

def Progress.help (p : Progress) : Step :=
  match p.settle with
  | .ok _ => .error .displayHelp
  | .error e => .error e

/-- An argument after two dashes. -/
def Progress.long (p : Progress) (argument : List Char) : Step :=
  let word := String.ofList (argument.takeWhile (· ≠ '='))
  let value :=
    match argument.dropWhile (· ≠ '=') with
    | '=' :: rest => some (String.ofList rest)
    | _ => none
  match Setting.ofWord? word with
  | some setting => p.option setting value
  | none =>
    if word = "help" then if value.isSome then .error .tooManyValues else p.help
    else .error .unknownArgument

/-- An argument after one dash. -/
def Progress.short (p : Progress) (letter : Char) (rest : List Char) : Step :=
  match Setting.ofLetter? letter with
  | some setting =>
    match rest with
    | [] => p.option setting none
    | '=' :: value => p.option setting (some (String.ofList value))
    | value => p.option setting (some (String.ofList value))
  | none => if letter = 'h' then p.help else .error .unknownArgument

/-- An argument that is no option: a value if one is waited for. -/
def Progress.plain (p : Progress) (argument : List Char) : Step :=
  match p.pending with
  | some (setting, none) => .ok { p with pending := some (setting, some (String.ofList argument)) }
  | _ => .error .unknownArgument

/-- Reads the arguments. Nothing may follow two dashes on their own. -/
def Progress.read (p : Progress) : List String → Step
  | [] => p.settle
  | argument :: rest =>
    match argument.toList with
    | ['-', '-'] => if rest.isEmpty then p.settle else .error .unknownArgument
    | '-' :: '-' :: word => do
      let p ← p.long word
      p.read rest
    | '-' :: letter :: more => do
      let p ← p.short letter more
      p.read rest
    | word => do
      let p ← p.plain word
      p.read rest

def Arguments.set (a : Arguments) : Setting × String → Arguments
  | (.config, v) => { a with config := v }
  | (.bind, v) => { a with bind := v }
  | (.logLevel, v) => { a with logLevel := v }
  | (.instanceId, v) => { a with instanceId := some v }

/-- The arguments of the program. -/
def parse (arguments : List String) : Except UsageError Arguments := do
  let p ← Progress.read {} arguments
  return p.given.foldl Arguments.set {}

end SessionRelay.CommandLine
