import SessionRelay.Rpc.Message

/-!
# Faults

Everything that can go wrong in the relay, with the text shown for it and the JSON-RPC error a
client is told.
-/

namespace SessionRelay

inductive Fault
  | rpc (error : Rpc.ErrorObject)
  | decoding (error : DecodeError)
  | tool (reason : String)
  | resource (reason : String)
  | duplicateTool (name : String)
  | duplicateResource (uri : String)
  | invalidToolName (reason : String)
  | invalidUri (uri : String) (reason : String)
  | clientState (reason : String)
  | sessionNotFound (clientId : String)
  | backplane (reason : String)
  | transport (reason : String)
  | config (reason : String)
  | internal (reason : String)

namespace Fault

/-- The name of a fault's kind. -/
def kind : Fault → String
  | .rpc _ => "JsonRpc"
  | .decoding _ => "Serialization"
  | .tool _ => "Tool"
  | .resource _ => "Resource"
  | .duplicateTool _ => "DuplicateTool"
  | .duplicateResource _ => "DuplicateResource"
  | .invalidToolName _ => "InvalidToolName"
  | .invalidUri _ _ => "InvalidUri"
  | .clientState _ => "ClientState"
  | .sessionNotFound _ => "SessionNotFound"
  | .backplane _ => "Backplane"
  | .transport _ => "Transport"
  | .config _ => "Config"
  | .internal _ => "Internal"

/-- The words of a fault that is a kind with some words. -/
def words? : Fault → Option String
  | .rpc _ | .decoding _ | .invalidUri _ _ => none
  | .tool s | .resource s | .duplicateTool s | .duplicateResource s | .invalidToolName s
  | .clientState s | .sessionNotFound s | .backplane s | .transport s | .config s
  | .internal s => some s

/-- The fault of a kind with some words. -/
def ofWords? (kind words : String) : Option Fault :=
  [.tool words, .resource words, .duplicateTool words, .duplicateResource words,
    .invalidToolName words, .clientState words, .sessionNotFound words, .backplane words,
    .transport words, .config words, .internal words].find? fun f => f.kind == kind

def message : Fault → String
  | .rpc e => "JSON-RPC error: " ++ e.toJson.compact
  | .decoding e => "Serialization error: " ++ e.message
  | .tool reason => "Tool error: " ++ reason
  | .resource reason => "Resource error: " ++ reason
  | .duplicateTool name => "A tool named '" ++ name ++ "' is already registered"
  | .duplicateResource uri => "A resource with URI '" ++ uri ++ "' is already registered"
  | .invalidToolName reason => "Invalid tool name: " ++ reason
  | .invalidUri uri reason => "Invalid resource URI '" ++ uri ++ "': " ++ reason
  | .clientState reason => "Client state error: " ++ reason
  | .sessionNotFound clientId => "Session '" ++ clientId ++ "' not found"
  | .backplane reason => "Backplane error: " ++ reason
  | .transport reason => "Transport error: " ++ reason
  | .config reason => "Configuration error: " ++ reason
  | .internal reason => "Internal error: " ++ reason

/-- What the client is told: a JSON-RPC error as it is, values that do not decode as invalid
parameters, and every other fault as an internal error. The faults of tools and resources keep
their own words. -/
def toRpc : Fault → Rpc.ErrorObject
  | .rpc e => e
  | .decoding e => .invalidParams e.message
  | .tool reason => .internalError reason
  | .resource reason => .internalError reason
  | f => .internalError f.message

end Fault

/-- Errors of a part of the relay, as faults of the whole. -/
class ToFault (ε : Type) where
  toFault : ε → Fault

export ToFault (toFault)

instance : ToFault Fault := ⟨id⟩

instance : ToFault Rpc.ErrorObject := ⟨.rpc⟩

instance : ToFault DecodeError := ⟨.decoding⟩

end SessionRelay
