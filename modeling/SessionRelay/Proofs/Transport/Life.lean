import SessionRelay.Proofs.Transport.Line
import SessionRelay.Transport

/-!
# The life of a transport

Everything that can happen to a transport while it exists, in any order, and a record of it: what
was sent, what the reader of the events was told, what came of the calls that brought messages, and
what the pump received. A move is for one of the two queues and leaves the other one and its record
alone (`sameOutward_next`, `sameInward_next`); only the end is for both.
-/

namespace SessionRelay

/-- The event that was read, if there was one. -/
def Reading.event? : Reading → Option TransportEvent
  | .event e => some e
  | _ => none

namespace Transport

/-- What a call that brings a message has come to. -/
inductive Fate
  | waiting (ticket : Nat)
  | accepted
  | refused
  /-- Whoever made the call gave up. -/
  | forgotten
  deriving DecidableEq

structure Call where
  message : Rpc.Message
  fate : Fate

/-- One thing that happens to a transport. Calls are named by their number. A call looks at its
place in the queue and at the end of the transport, in either order; only after the end the order
matters. -/
inductive Move
  | send (message : Rpc.Message)
  | abandon
  | openStream
  | read
  | dropStream
  | process (message : Rpc.Message)
  /-- A call that was begun before the end brings its message after it. -/
  | belated (message : Rpc.Message) (first : Glance)
  /-- A call that waits looks again. -/
  | resume (call : Nat) (first : Glance)
  | giveUp (call : Nat)
  | takeInbound
  | receive
  | dropInbound
  | dispose

/-- Whether a move is for what goes out. -/
def Move.isOutward : Move → Bool
  | .send _ | .abandon | .openStream | .read | .dropStream => true
  | _ => false

/-- Whether a move is for what comes in. -/
def Move.isInward : Move → Bool
  | .process _ | .belated _ _ | .resume _ _ | .giveUp _ | .takeInbound | .receive | .dropInbound =>
    true
  | _ => false

/-- A transport and what has happened to it. -/
structure Life where
  transport : Transport
  /-- Everything that was sent or given up with success. -/
  sent : List OutboundItem := []
  told : List TransportEvent := []
  /-- How often the event stream was handed out. -/
  handed : Nat := 0
  calls : List Call := []
  /-- The calls that were accepted, in order, with their messages. -/
  accepted : List (Nat × Rpc.Message) := []
  received : List Rpc.Message := []

namespace Life

def push (l : Life) (item : OutboundItem) : Except TransportError Transport → Life
  | .ok transport => { l with transport, sent := l.sent ++ [item] }
  | .error _ => l

/-- A call brings a message. -/
def bring (l : Life) (message : Rpc.Message) : Offer × Transport → Life
  | (.accepted, transport) =>
    { l with
      transport
      calls := l.calls ++ [⟨message, .accepted⟩]
      accepted := l.accepted ++ [(l.calls.length, message)] }
  | (.waiting ticket, transport) =>
    { l with transport, calls := l.calls ++ [⟨message, .waiting ticket⟩] }
  | (.refused, transport) => { l with transport, calls := l.calls ++ [⟨message, .refused⟩] }

/-- A call that waits has looked what has become of its place in line. -/
def settle (l : Life) (call : Nat) (message : Rpc.Message) : Standing × Transport → Life
  | (.waiting, _) => l
  | (.admitted, transport) =>
    { l with
      transport
      calls := l.calls.set call ⟨message, .accepted⟩
      accepted := l.accepted ++ [(call, message)] }
  | (.dismissed, transport) =>
    { l with transport, calls := l.calls.set call ⟨message, .refused⟩ }

def next (l : Life) : Move → Life
  | .send message => l.push (.message message) (l.transport.send message)
  | .abandon => l.push .abandoned l.transport.abandon
  | .openStream =>
    match l.transport.events with
    | .ok transport => { l with transport, handed := l.handed + 1 }
    | .error _ => l
  | .read =>
    let (reading, transport) := l.transport.next
    { l with transport, told := l.told ++ reading.event?.toList }
  | .dropStream =>
    if l.transport.streamHeld then { l with transport := l.transport.dropStream } else l
  | .process message => l.bring message (l.transport.offer message)
  | .belated message first =>
    if l.transport.closed then l.bring message (l.transport.offerLate message first) else l
  | .resume call first =>
    match l.calls[call]? with
    | some ⟨message, .waiting ticket⟩ => l.settle call message (l.transport.look ticket first)
    | _ => l
  | .giveUp call =>
    match l.calls[call]? with
    | some ⟨message, .waiting ticket⟩ =>
      { l with
        transport := l.transport.withdraw ticket
        calls := l.calls.set call ⟨message, .forgotten⟩ }
    | _ => l
  | .takeInbound =>
    match l.transport.takeInbound? with
    | some transport => { l with transport }
    | none => l
  | .receive =>
    match l.transport.takeMessage with
    | (some (some message), transport) =>
      { l with transport, received := l.received ++ [message] }
    | (_, transport) => { l with transport }
  | .dropInbound => { l with transport := l.transport.dropInbound.2 }
  | .dispose => { l with transport := l.transport.dispose }

def run (l : Life) (moves : List Move) : Life := moves.foldl next l

/-- What becomes of a new transport. -/
def after (clientId : String) (framing : Framing) (capacity : Nat) (moves : List Move) : Life :=
  run { transport := .ofFraming clientId framing capacity } moves

/-- What becomes of a transport after its end. -/
def disposed (l : Life) (moves : List Move) : Life := (l.next .dispose).run moves

/-- What every move keeps, every run keeps. -/
theorem run_induction (P : Life → Prop) {l : Life} (h : P l)
    (hnext : ∀ {l : Life}, P l → ∀ move, P (l.next move)) (moves : List Move) : P (l.run moves) :=
  List.foldlRecOn moves next h fun _ h move _ => hnext h move

/-! ## The two halves -/

/-- Nothing happened to what goes out. -/
structure SameOutward (l l' : Life) : Prop where
  framing : l'.transport.framing = l.transport.framing
  closed : l'.transport.closed = l.transport.closed
  outbound : l'.transport.outbound = l.transport.outbound
  sent : l'.sent = l.sent
  told : l'.told = l.told
  handed : l'.handed = l.handed

/-- Nothing happened to what comes in. -/
structure SameInward (l l' : Life) : Prop where
  closed : l'.transport.closed = l.transport.closed
  inbound : l'.transport.inbound = l.transport.inbound
  calls : l'.calls = l.calls
  accepted : l'.accepted = l.accepted
  received : l'.received = l.received

theorem SameOutward.refl (l : Life) : SameOutward l l := ⟨rfl, rfl, rfl, rfl, rfl, rfl⟩

variable {l : Life} {move : Move}

theorem sameOutward_bring (l : Life) (m : Rpc.Message) {r : Offer × Transport}
    (h : ∃ q, r.2 = { l.transport with inbound := q }) : SameOutward l (l.bring m r) := by
  rcases r with ⟨outcome, t⟩
  obtain ⟨q, rfl⟩ := h
  cases outcome <;> exact ⟨rfl, rfl, rfl, rfl, rfl, rfl⟩

theorem sameOutward_settle (l : Life) (call : Nat) (m : Rpc.Message) {r : Standing × Transport}
    (h : ∃ q, r.2 = { l.transport with inbound := q }) : SameOutward l (l.settle call m r) := by
  rcases r with ⟨standing, t⟩
  obtain ⟨q, rfl⟩ := h
  cases standing <;> exact ⟨rfl, rfl, rfl, rfl, rfl, rfl⟩

theorem sameOutward_next (l : Life) (h : move.isInward = true) : SameOutward l (l.next move) := by
  cases move with
  | process m =>
    refine sameOutward_bring l m ?_
    unfold offer
    split_ifs <;> exact ⟨_, rfl⟩
  | belated m first =>
    simp only [next]
    split_ifs
    · refine sameOutward_bring l m ?_
      unfold offerLate
      split_ifs <;> exact ⟨_, rfl⟩
    · exact .refl l
  | resume k first =>
    simp only [next]
    split
    · refine sameOutward_settle l k _ ?_
      unfold look
      split_ifs
      · exact ⟨_, rfl⟩
      · exact ⟨_, rfl⟩
      · split <;> exact ⟨_, rfl⟩
    · exact .refl l
  | giveUp k =>
    simp only [next]
    split <;> exact ⟨rfl, rfl, rfl, rfl, rfl, rfl⟩
  | takeInbound =>
    simp only [next, takeInbound?]
    cases l.transport.inbound.reader <;> exact ⟨rfl, rfl, rfl, rfl, rfl, rfl⟩
  | receive =>
    simp only [next, takeMessage]
    rcases l.transport.inbound.reader with _ | _ | _ <;>
      rcases l.transport.inbound.take? with _ | ⟨m, q⟩ <;> exact ⟨rfl, rfl, rfl, rfl, rfl, rfl⟩
  | dropInbound =>
    simp only [next, dropInbound]
    split_ifs <;> exact ⟨rfl, rfl, rfl, rfl, rfl, rfl⟩
  | send | abandon | openStream | read | dropStream | dispose => cases h

theorem sameInward_push (l : Life) (item item' : OutboundItem) :
    SameInward l (l.push item (l.transport.push item')) := by
  unfold Transport.push
  split_ifs <;> exact ⟨rfl, rfl, rfl, rfl, rfl⟩

theorem sameInward_next (l : Life) (h : move.isOutward = true) : SameInward l (l.next move) := by
  cases move with
  | send m => exact sameInward_push _ _ _
  | abandon => exact sameInward_push _ _ _
  | openStream =>
    simp only [next, Transport.events]
    rcases l.transport.outbound.stream <;> exact ⟨rfl, rfl, rfl, rfl, rfl⟩
  | read =>
    simp only [next, Transport.next]
    split <;> exact ⟨rfl, rfl, rfl, rfl, rfl⟩
  | dropStream =>
    simp only [next]
    split_ifs <;> exact ⟨rfl, rfl, rfl, rfl, rfl⟩
  | process | belated | resume | giveUp | takeInbound | receive | dropInbound | dispose => cases h

/-! ## The end -/

theorem closed_dispose (t : Transport) : t.dispose.closed = true := by
  unfold dispose
  split
  · assumption
  · rfl

/-- What is closed stays closed. -/
theorem closed_next (h : l.transport.closed = true) (move : Move) :
    (l.next move).transport.closed = true := by
  cases move with
  | send | abandon | openStream | read | dropStream =>
    exact (sameInward_next l rfl).closed.trans h
  | process | belated | resume | giveUp | takeInbound | receive | dropInbound =>
    exact (sameOutward_next l rfl).closed.trans h
  | dispose => exact closed_dispose l.transport

theorem closed_run (h : l.transport.closed = true) (moves : List Move) :
    (l.run moves).transport.closed = true :=
  run_induction (fun l => l.transport.closed = true) h closed_next moves

theorem closed_disposed (l : Life) (moves : List Move) :
    (l.disposed moves).transport.closed = true :=
  closed_run (closed_dispose l.transport) moves

end Life

end Transport

end SessionRelay
