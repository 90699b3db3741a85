import SessionRelay.Rpc.Message

/-!
# Inbound queues

Messages for a session wait here, in order of arrival, for the session to take them. The queue is
bounded. A writer that finds it full waits in line; a slot that becomes free is kept for the first
writer in line that has none yet, until that writer uses it. Writers that are sent away go one by
one, and until they have gone the slots go to them as if they were in line.
-/

namespace SessionRelay

/-- Where the reading end of a queue is. -/
inductive ReadingEnd
  | untaken
  | taken
  | gone
  deriving DecidableEq

/-- A writer in line. -/
structure Writer where
  ticket : Nat
  message : Rpc.Message
  /-- Whether a slot is kept for it. -/
  admitted : Bool := false

structure Inbound where
  capacity : Nat
  queue : List Rpc.Message := []
  line : List Writer := []
  /-- Writers that were sent away and have not gone yet, in order. -/
  leaving : List Writer := []
  nextTicket : Nat := 0
  reader : ReadingEnd := .untaken

/-- What becomes of a message that is offered. -/
inductive Offer
  | accepted
  | waiting (ticket : Nat)
  | refused
  deriving DecidableEq

/-- What has become of a writer in line. -/
inductive Standing
  | waiting
  | admitted
  | dismissed
  deriving DecidableEq

namespace Inbound

/-- An empty queue. It has room for one message at least. -/
def ofCapacity (capacity : Nat) : Inbound := { capacity := max capacity 1 }

/-- Slots that are used or kept for somebody. -/
def occupied (q : Inbound) : Nat := q.queue.length + q.line.countP Writer.admitted

/-- Whether a message would get a slot at once: nobody is before it in line. -/
def hasRoom (q : Inbound) : Bool := q.occupied < q.capacity && q.line.all Writer.admitted

/-- Keeps a slot for the first writer that has none. -/
def admitFirst : List Writer → List Writer
  | [] => []
  | w :: rest => if w.admitted then w :: admitFirst rest else { w with admitted := true } :: rest

/-- Offers a message. -/
def offer (q : Inbound) (message : Rpc.Message) : Offer × Inbound :=
  if q.reader = .gone then (.refused, q)
  else if q.hasRoom then (.accepted, { q with queue := q.queue ++ [message] })
  else
    (.waiting q.nextTicket,
      { q with line := q.line ++ [{ ticket := q.nextTicket, message }], nextTicket := q.nextTicket + 1 })

def writer? (q : Inbound) (ticket : Nat) : Option Writer := q.line.find? fun w => w.ticket == ticket

def standing (q : Inbound) (ticket : Nat) : Standing :=
  match q.writer? ticket with
  | none => .dismissed
  | some w => if w.admitted then .admitted else .waiting

/-- Takes a writer out of the line. -/
def without (q : Inbound) (ticket : Nat) : Inbound :=
  { q with line := q.line.filter fun w => w.ticket != ticket }

/-- A writer uses the slot that is kept for it. -/
def enter (q : Inbound) (ticket : Nat) : Inbound :=
  match q.writer? ticket with
  | some w => if w.admitted then { q.without ticket with queue := q.queue ++ [w.message] } else q
  | none => q

/-- All writers with slots use them, in order. Gives their tickets. -/
def enterAll (q : Inbound) : List Nat × Inbound :=
  let entering := q.line.filter Writer.admitted
  (entering.map Writer.ticket,
    { q with
      queue := q.queue ++ entering.map Writer.message
      line := q.line.filter fun w => !w.admitted })

/-- A writer gives up. A slot kept for it goes to the next one in line. -/
def leave (q : Inbound) (ticket : Nat) : Inbound :=
  match q.standing ticket with
  | .admitted => { q.without ticket with line := admitFirst (q.without ticket).line }
  | _ => q.without ticket

/-- Takes the first message and gives its slot to the first writer that waits for one, in line or,
if nobody is there, among those who were sent away. -/
def take? (q : Inbound) : Option (Rpc.Message × Inbound) :=
  match q.queue with
  | [] => none
  | m :: rest =>
    some (m,
      { q with
        queue := rest
        line := admitFirst q.line
        leaving := if q.line.isEmpty then admitFirst q.leaving else q.leaving })

/-- Sends away all writers. -/
def dismiss (q : Inbound) : Inbound := { q with line := [], leaving := q.leaving ++ q.line }

/-- The reader is gone, and with it everything that was queued. -/
def close (q : Inbound) : Inbound :=
  { q with queue := [], line := [], leaving := [], reader := .gone }

/-! ### Those who were sent away -/

/-- The queue as if nobody had been sent away. -/
def recalled (q : Inbound) : Inbound := { q with line := q.leaving ++ q.line, leaving := [] }

/-- A writer that was sent away goes. -/
def depart (q : Inbound) (ticket : Nat) : Inbound := (q.recalled.leave ticket).dismiss

/-- A writer that was sent away uses the slot that is kept for it, instead of going. -/
def slipIn (q : Inbound) (ticket : Nat) : Inbound := (q.recalled.enter ticket).dismiss

end Inbound

end SessionRelay
