import SessionRelay.Rpc.Decode

/-!
# Envelopes

A relayed message with the instance and the client it is for, as it lies on a queue. An entry is
read in one pass: members nobody knows are passed over unread, and a known member must not come
twice.
-/

namespace SessionRelay

structure Envelope where
  target : String
  clientId : String
  message : Rpc.Message

namespace Envelope

def toJson (e : Envelope) : Json :=
  .object [("targetInstanceId", .string e.target), ("clientId", .string e.clientId),
    ("message", e.message.toJson)]

/-- The text of a queue entry. -/
def text (e : Envelope) : String := e.toJson.compact

def rules : List FieldRule :=
  [.required "targetInstanceId" Decode.text, .required "clientId" Decode.text,
    .required "message" Rpc.Message.decoder]

/-- An envelope from a value. -/
def ofJson : Decoder Envelope := fun v => do
  let fields ← Record.read "struct BackplaneMessage" rules .document v
  return {
    target := ← fields.get "targetInstanceId" Decode.text
    clientId := ← fields.get "clientId" Decode.text
    message := ← fields.get "message" Rpc.Message.decoder }

/-! ### Reading entries -/

/-- What has been read of an envelope. -/
structure Draft where
  target : Option String := none
  clientId : Option String := none
  message : Option Rpc.Message := none

def textOfTree? : Json.Tree → Option String
  | .string s => s
  | _ => none

/-- A message inside the envelope, which takes one level of nesting. -/
def messageOfTree? (tree : Json.Tree) : Option Rpc.Message := do
  let v ← tree.toJson? (Json.maxDepth - 1)
  (Rpc.Message.ofJson v).toOption

def Draft.setTarget? (d : Draft) (tree : Json.Tree) : Option Draft := do
  let s ← textOfTree? tree
  if d.target.isSome then none else some { d with target := some s }

def Draft.setClient? (d : Draft) (tree : Json.Tree) : Option Draft := do
  let s ← textOfTree? tree
  if d.clientId.isSome then none else some { d with clientId := some s }

def Draft.setMessage? (d : Draft) (tree : Json.Tree) : Option Draft := do
  let m ← messageOfTree? tree
  if d.message.isSome then none else some { d with message := some m }

/-- Takes in one member. -/
def Draft.add? (d : Draft) : Option String × Json.Tree → Option Draft
  | (none, _) => none
  | (some key, tree) =>
    if key = "targetInstanceId" then d.setTarget? tree
    else if key = "clientId" then d.setClient? tree
    else if key = "message" then d.setMessage? tree
    else some d

def Draft.finish? (d : Draft) : Option Envelope := do
  let target ← d.target
  let clientId ← d.clientId
  let message ← d.message
  return ⟨target, clientId, message⟩

/-- An envelope from a syntax tree: an object, or an array of the three parts. -/
def ofTree? : Json.Tree → Option Envelope
  | .object members => do
    let d ← members.foldlM Draft.add? {}
    d.finish?
  | .array [target, clientId, message] => do
    let target ← textOfTree? target
    let clientId ← textOfTree? clientId
    let message ← messageOfTree? message
    return ⟨target, clientId, message⟩
  | _ => none

/-- The envelope in a queue entry. -/
def ofText? (text : String) : Option Envelope := do
  let tree ← Json.tree? text
  ofTree? tree

end Envelope

end SessionRelay
