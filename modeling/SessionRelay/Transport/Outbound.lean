import SessionRelay.Rpc.Message

/-!
# Outbound queues

What a session sends waits here for the response body to read it. A stream of server-sent events
starts with the endpoint and goes on until the session ends; the stream of one exchange ends when so
many responses were read or given up.
-/

namespace SessionRelay

/-- How the messages of a session reach its client. -/
inductive Framing
  /-- A stream that starts by telling where to send messages. -/
  | sse (endpoint : String)
  /-- The answer to one exchange that expects so many responses. -/
  | streamable (expected : Nat)
  deriving DecidableEq

/-- What a client reads. -/
inductive TransportEvent
  | endpoint (url : String)
  | message (message : Rpc.Message)

/-- What waits to be read: a message, or the note that a response will never come. -/
inductive OutboundItem
  | message (message : Rpc.Message)
  | abandoned

/-- Where the event stream is. -/
inductive StreamState
  | untaken
  /-- Being read: an endpoint still to be told, and how many responses are still to come. -/
  | reading (endpoint : Option String) (remaining : Option Nat)
  /-- Read to its end. -/
  | ended
  | dropped
  deriving DecidableEq

structure Outbound where
  queue : List OutboundItem := []
  stream : StreamState := .untaken

/-- What reading gives. -/
inductive Reading
  | event (event : TransportEvent)
  | pending
  | finished
  | absent

namespace OutboundItem

/-- Whether an item stands for a response. -/
def counts : OutboundItem → Bool
  | .message m => m.isResponse
  | .abandoned => true

end OutboundItem

namespace Outbound

/-- Whether anybody can still read what is sent. -/
def hasReader (o : Outbound) : Bool :=
  match o.stream with
  | .untaken | .reading _ _ => true
  | .ended | .dropped => false

/-- The stream at its start. -/
def opened : Framing → StreamState
  | .sse endpoint => .reading (some endpoint) none
  | .streamable expected => .reading none (some expected)

/-- Reads on in the queue. Responses given up are only counted. -/
def read : Option Nat → List OutboundItem → Reading × Outbound
  | some 0, items => (.finished, ⟨items, .ended⟩)
  | remaining, [] => (.pending, ⟨[], .reading none remaining⟩)
  | remaining, .abandoned :: rest => read (remaining.map (· - 1)) rest
  | remaining, .message m :: rest =>
    let remaining := if m.isResponse then remaining.map (· - 1) else remaining
    (.event (.message m), ⟨rest, .reading none remaining⟩)

/-- Reads the next event. -/
def next (o : Outbound) : Reading × Outbound :=
  match o.stream with
  | .reading (some endpoint) remaining =>
    (.event (.endpoint endpoint), { o with stream := .reading none remaining })
  | .reading none remaining => read remaining o.queue
  | .ended => (.finished, o)
  | .untaken | .dropped => (.absent, o)

end Outbound

end SessionRelay
