import SessionRelay.ClientState
import SessionRelay.Session.Basic
import SessionRelay.Url.Form

/-!
# The session table

An instance finds its live sessions by client id. Sessions keep their place when they leave the
table, since jobs and clients may still hold them. A session leaves the table when it is shut down,
by a call or by its own watcher, and only its own entry goes.
-/

namespace SessionRelay

/-- The kind of event stream a new session gets. -/
inductive StreamKind
  /-- A lasting stream that tells where to send messages, with an access code if it was opened with
  one. -/
  | sse (messageUrl : String) (accessCode : Option String)
  /-- The answer to one exchange. -/
  | streamable (expected : Nat)

/-- What is drawn at random for a session: its client id, and the nonce for its token. -/
structure Draw where
  clientId : String
  nonce : Bytes

/-- A draw that differs from that of every other number, for runs that can be repeated. -/
def Draw.numbered (n : Nat) : Draw :=
  let digits := (Decimal.digitChars (1000000000000 + n)).drop 1
  { clientId := "00000000-0000-4000-8000-" ++ String.ofList digits
    nonce := (List.range 12).map fun i => UInt8.ofNat (n / Nat.pow 256 i + 7 * i + 3) }

structure SessionTable where
  instanceId : String
  codec : ClientState.Codec := .plain
  capacity : Nat := 64
  /-- Every session opened so far. -/
  opened : List Session := []
  /-- The live sessions: client ids and places in `opened`. -/
  live : List (String × Nat) := []
  /-- What has ended of all that sessions are opened under. -/
  endedParents : List String := []

/-- Where the client of a session sends its messages. -/
def endpointUrl (messageUrl token : String) (accessCode : Option String) : String :=
  let url := messageUrl ++ "?state=" ++ token
  match accessCode with
  | some code => url ++ "&code=" ++ Url.Form.encode code
  | none => url

def StreamKind.framing (token : String) : StreamKind → Framing
  | .sse messageUrl accessCode => .sse (endpointUrl messageUrl token accessCode)
  | .streamable expected => .streamable expected

namespace SessionTable

def session? (t : SessionTable) (place : Nat) : Option Session := t.opened[place]?

/-- The place of a live session. -/
def find? (t : SessionTable) (clientId : String) : Option Nat :=
  (t.live.find? fun (key, _) => key == clientId).map Prod.snd

/-- Whether the session at a place is live. -/
def isLive (t : SessionTable) (place : Nat) : Bool := t.live.any fun (_, p) => p == place

/-- Changes one session. -/
def modify (t : SessionTable) (place : Nat) (f : Session → Session) : SessionTable :=
  { t with opened := t.opened.modify place f }

/-- How many sessions are live. -/
def count (t : SessionTable) : Nat := t.live.length

/-- Enters a session under its client id. -/
def enter (t : SessionTable) (s : Session) : SessionTable :=
  { t with
    opened := t.opened ++ [s]
    live := (t.live.filter fun (key, _) => key != s.clientId) ++ [(s.clientId, t.opened.length)] }

/-- Opens a session. Gives its place. -/
def create (t : SessionTable) (kind : StreamKind) (parent : String) (draw : Draw) :
    Except ClientState.FormatError (Nat × SessionTable) := do
  let token ← t.codec.format draw.nonce ⟨draw.clientId, t.instanceId⟩ t.codec.encrypts
  let transport := Transport.ofFraming draw.clientId (kind.framing token) t.capacity
  let session : Session :=
    { clientId := draw.clientId
      instanceId := t.instanceId
      token
      transport := { transport with inbound := { transport.inbound with reader := .taken } }
      parent
      cancelled := t.endedParents.contains parent }
  return (t.opened.length, t.enter session)

/-- Takes a session's own entry out. -/
def remove (t : SessionTable) (place : Nat) : SessionTable :=
  match t.session? place with
  | some s => { t with live := t.live.filter fun entry => entry != (s.clientId, place) }
  | none => t

/-- Closes a session. A session that is closed already stays as it is. -/
def close (t : SessionTable) (place : Nat) : SessionTable :=
  match t.session? place with
  | some s => if s.closed then t else (t.modify place Session.shutDown).remove place
  | none => t

/-- Lets the watcher of a session look whether the session has to end. -/
def watch (t : SessionTable) (place : Nat) : SessionTable :=
  match t.session? place with
  | some s => if s.isDue then t.close place else t
  | none => t

/-- Closes every live session. -/
def closeAll (t : SessionTable) : SessionTable :=
  (t.live.map Prod.snd).foldl close t

/-- Lets every session hand out what is in its queue, then every watcher look. Gives the messages with
the client ids of their sessions. -/
def settle (t : SessionTable) : List (String × Rpc.Message) × SessionTable :=
  let handed := t.opened.flatMap fun s => s.drain.1.map fun message => (s.clientId, message)
  let t := { t with opened := t.opened.map fun s => s.drain.2 }
  let t := (List.range t.opened.length).foldl watch t
  (handed, { t with opened := t.opened.map fun s => if s.cancelled then s.stopPump else s })

/-- Ends what sessions were opened under; all of them are told to stop. -/
def endParent (t : SessionTable) (parent : String) : SessionTable :=
  { t with
    endedParents := parent :: t.endedParents
    opened := t.opened.map fun s => if s.parent = parent then { s with cancelled := true } else s }

end SessionTable

end SessionRelay
