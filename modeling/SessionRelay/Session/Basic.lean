import SessionRelay.Activity
import SessionRelay.Session.Handshake
import SessionRelay.Session.InFlight
import SessionRelay.Transport

/-!
# Sessions

A session is one connection of a client: its transport, its handshake, and the requests that run for
it. It ends when what it was opened under ends, when nobody reads its events any more, or when it is
closed; whichever comes first shuts it down, and only once.
-/

namespace SessionRelay

/-- How far the work on a request is: still to be begun, or begun under a number. -/
inductive Stage
  | queued
  | begun (number : Nat) (work : Activity Rpc.Response)

/-- A request that is worked on beside the session's own queue. -/
structure Job where
  ticket : Nat
  request : Rpc.Request
  stage : Stage := .queued

structure Session where
  clientId : String
  instanceId : String
  /-- The token that names the session to its client. -/
  token : String
  transport : Transport
  /-- What the session was opened under. -/
  parent : String
  /-- Whether everything that runs for the session has been told to stop. -/
  cancelled : Bool := false
  closed : Bool := false
  handshake : Option Handshake := none
  inFlight : InFlight := {}
  /-- Whether the session still takes messages from its queue. -/
  pumping : Bool := true
  jobs : List Job := []
  nextJob : Nat := 0

namespace Session

/-- A session that nobody has, closed from the start. -/
def nobody : Session :=
  { clientId := "", instanceId := "", token := "", parent := "", closed := true,
    transport := { Transport.ofFraming "" (.streamable 0) 1 with closed := true } }

/-- Queues a message for the client. -/
def send (s : Session) (message : Rpc.Message) : Except TransportError Session :=
  (s.transport.send message).map fun transport => { s with transport }

/-- Notes that a request will get no response. -/
def abandon (s : Session) : Except TransportError Session :=
  s.transport.abandon.map fun transport => { s with transport }

/-- Hands out the event stream, once. -/
def events (s : Session) : Except TransportError Session :=
  s.transport.events.map fun transport => { s with transport }

/-- Reads the next event. -/
def next (s : Session) : Reading × Session :=
  let (reading, transport) := s.transport.next
  (reading, { s with transport })

/-- The client lets go of the event stream. -/
def dropStream (s : Session) : Session := { s with transport := s.transport.dropStream }

/-- Offers a message from the client. -/
def offer (s : Session) (message : Rpc.Message) : Offer × Session :=
  let (outcome, transport) := s.transport.offer message
  (outcome, { s with transport })

/-- Changes the inbound queue. -/
def mapInbound (f : Inbound → Inbound) (s : Session) : Session :=
  { s with transport := { s.transport with inbound := f s.transport.inbound } }

/-- The handshake after a successful request for one. -/
def establish (s : Session) (protocolVersion : String) (client : Option Mcp.Implementation) : Session :=
  { s with handshake := some (Handshake.establish s.handshake protocolVersion client) }

/-! ### Requests -/

/-- Registers a request. Gives its number. -/
def register (s : Session) (id : Rpc.Id) : Nat × Session :=
  let (number, inFlight) := s.inFlight.register id
  (number, { s with inFlight })

def finish (s : Session) (id : Rpc.Id) (number : Nat) : Session :=
  { s with inFlight := s.inFlight.finish id number }

/-- Cancels every request with an id. Tells whether there was one. -/
def cancelRequest (s : Session) (id : Rpc.Id) : Bool × Session :=
  let (known, inFlight) := s.inFlight.cancel id
  (known, { s with inFlight })

/-- Whether a request was cancelled, by its id or with the session. -/
def isCancelled (s : Session) (number : Nat) : Bool := s.cancelled || s.inFlight.isCancelled number

/-! ### The end -/

/-- Whether the session has to end by itself. -/
def isDue (s : Session) : Bool := s.cancelled || s.transport.streamGone

/-- Shuts the session down: it is closed, everything in it is told to stop, and its transport is
disposed of. -/
def shutDown (s : Session) : Session :=
  if s.closed then s
  else { s with closed := true, cancelled := true, transport := s.transport.dispose }

/-- Stops taking messages. -/
def stopPump (s : Session) : Session := { s.mapInbound Inbound.close with pumping := false }

/-- Takes the next message from the queue. -/
def take? (s : Session) : Option (Rpc.Message × Session) :=
  if s.pumping then
    s.transport.inbound.take?.map fun (message, inbound) =>
      (message, { s with transport := { s.transport with inbound } })
  else none

/-- Takes up to so many messages, in order. -/
def takeUpTo : Nat → Session → List Rpc.Message × Session
  | 0, s => ([], s)
  | count + 1, s =>
    match s.take? with
    | none => ([], s)
    | some (message, s) =>
      let (rest, s) := takeUpTo count s
      (message :: rest, s)

/-- Takes everything in the queue, unless the session was told to stop. -/
def drain (s : Session) : List Rpc.Message × Session :=
  if s.cancelled then ([], s) else takeUpTo s.transport.inbound.queue.length s

end Session

end SessionRelay
