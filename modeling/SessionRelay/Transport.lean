import SessionRelay.Fault
import SessionRelay.Transport.Inbound
import SessionRelay.Transport.Outbound

/-!
# Transports

The two queues of one connection. They share nothing but the connection's end: a transport that is
disposed of takes no more messages in either direction, and nobody goes on waiting for it.

Who waits for room in the inbound queue waits for the end of the transport as well, and looks at the
two in no fixed order. As long as somebody reads the queue, a slot that is there when both have come
to pass may still be used after the end (`look`).
-/

namespace SessionRelay

structure Transport where
  clientId : String
  framing : Framing
  closed : Bool := false
  inbound : Inbound
  outbound : Outbound := {}

/-- Why a transport refuses. -/
inductive TransportError
  | closed
  | streamTaken
  deriving DecidableEq

def TransportError.message : TransportError → String
  | .closed => "transport closed"
  | .streamTaken => "event stream already taken"

instance : ToFault TransportError := ⟨fun e => .transport e.message⟩

namespace Transport

def ofFraming (clientId : String) (framing : Framing) (capacity : Nat) : Transport :=
  { clientId, framing, inbound := .ofCapacity capacity }

/-- Puts an item on the outbound queue. -/
def push (t : Transport) (item : OutboundItem) : Except TransportError Transport :=
  if t.closed || !t.outbound.hasReader then .error .closed
  else .ok { t with outbound := { t.outbound with queue := t.outbound.queue ++ [item] } }

/-- Queues a message for the client. -/
def send (t : Transport) (message : Rpc.Message) : Except TransportError Transport :=
  t.push (.message message)

/-- Notes that a request will get no response. -/
def abandon (t : Transport) : Except TransportError Transport := t.push .abandoned

/-- Offers a message to the inbound queue. -/
def offer (t : Transport) (message : Rpc.Message) : Offer × Transport :=
  if t.closed then (.refused, t)
  else
    let (outcome, inbound) := t.inbound.offer message
    (outcome, { t with inbound })

/-- What a writer looks at first: its place in line, or the end of the transport. -/
inductive Glance
  | place
  | ending
  deriving DecidableEq

/-- A writer in line looks what has become of its place. Once the transport is closed it goes,
unless it looks at its place first and there is a slot. -/
def look (t : Transport) (ticket : Nat) (first : Glance) : Standing × Transport :=
  if t.closed then
    if first = .place ∧ t.inbound.recalled.standing ticket = .admitted then
      (.admitted, { t with inbound := t.inbound.slipIn ticket })
    else (.dismissed, { t with inbound := t.inbound.depart ticket })
  else
    match t.inbound.standing ticket with
    | .waiting => (.waiting, t)
    | .admitted => (.admitted, { t with inbound := t.inbound.enter ticket })
    | .dismissed => (.dismissed, t)

/-- A writer gives up its place. -/
def withdraw (t : Transport) (ticket : Nat) : Transport :=
  { t with inbound := if t.closed then t.inbound.depart ticket else t.inbound.leave ticket }

/-- Offers a message that was brought before the end, when the transport is closed. -/
def offerLate (t : Transport) (message : Rpc.Message) (first : Glance) : Offer × Transport :=
  if first = .place ∧ t.inbound.reader ≠ .gone ∧ t.inbound.recalled.hasRoom then
    (.accepted, { t with inbound := { t.inbound with queue := t.inbound.queue ++ [message] } })
  else (.refused, t)

/-- Hands out the reading end of the inbound queue, once. -/
def takeInbound? (t : Transport) : Option Transport :=
  match t.inbound.reader with
  | .untaken => some { t with inbound := { t.inbound with reader := .taken } }
  | _ => none

/-- What the holder of the reading end reads, with `none` inside for an empty queue. There is nothing
to read for others. -/
def takeMessage (t : Transport) : Option (Option Rpc.Message) × Transport :=
  match t.inbound.reader, t.inbound.take? with
  | .taken, some (message, inbound) => (some (some message), { t with inbound })
  | .taken, none => (some none, t)
  | _, _ => (none, t)

/-- Lets go of the reading end. Tells whether it was held. -/
def dropInbound (t : Transport) : Bool × Transport :=
  if t.inbound.reader = .taken then (true, { t with inbound := t.inbound.close }) else (false, t)

/-- Hands out the event stream, once. -/
def events (t : Transport) : Except TransportError Transport :=
  match t.outbound.stream with
  | .untaken =>
    .ok { t with outbound := { t.outbound with stream := Outbound.opened t.framing } }
  | _ => .error .streamTaken

/-- Reads the next event. Nothing is read of a stream whose transport is closed. -/
def next (t : Transport) : Reading × Transport :=
  match t.closed, t.outbound.stream with
  | true, .reading _ _ => (.finished, t)
  | _, _ =>
    let (reading, outbound) := t.outbound.next
    (reading, { t with outbound })

/-- The client lets go of the event stream. -/
def dropStream (t : Transport) : Transport :=
  { t with outbound := { t.outbound with stream := .dropped } }

/-- Whether somebody holds the event stream. -/
def streamHeld (t : Transport) : Bool :=
  match t.outbound.stream with
  | .reading _ _ | .ended => true
  | .untaken | .dropped => false

/-- Whether nobody will read the events any more. -/
def streamGone (t : Transport) : Bool := !t.outbound.hasReader

/-- Closes both queues. Ends that nobody has taken are gone; a stream that was taken stays with its
reader. -/
def dispose (t : Transport) : Transport :=
  if t.closed then t
  else
    { t with
      closed := true
      inbound := if t.inbound.reader = .untaken then t.inbound.close else t.inbound.dismiss
      outbound :=
        if t.outbound.stream = .untaken then { t.outbound with stream := .dropped } else t.outbound }

end Transport

end SessionRelay
