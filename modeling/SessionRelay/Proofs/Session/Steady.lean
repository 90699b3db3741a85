import SessionRelay.Proofs.Session.History

/-!
# What a session does not decide itself

Nothing that a session does with its messages changes who it is, whether it was told to stop or
closed, or the state of a transport that was disposed of; and the only move after which nobody reads
its events any more is a read that comes to their end (`steady_apply`).
-/

namespace SessionRelay

namespace Transport

variable {t t' t'' : Transport} {ended more : Bool}

/-- What disposing of a transport leaves: nobody waits for it any more, and neither of its ends can
be taken. -/
structure Disposed (t : Transport) : Prop where
  closed : t.closed = true
  reader : t.inbound.reader ≠ .untaken
  line : t.inbound.line = []
  stream : t.outbound.stream ≠ .untaken

theorem disposed_dispose (h : t.closed = false) : t.dispose.Disposed := by
  unfold dispose
  rw [if_neg (by simp [h])]
  refine ⟨rfl, ?_, ?_, ?_⟩
  · by_cases hreader : t.inbound.reader = .untaken
    · simp [hreader, Inbound.close]
    · simp [hreader, Inbound.dismiss]
  · by_cases hreader : t.inbound.reader = .untaken
    · simp [hreader, Inbound.close]
    · simp [hreader, Inbound.dismiss]
  · by_cases hstream : t.outbound.stream = .untaken
    · simp [hstream]
    · simp [hstream]

/-- The second transport is the first after something that does not dispose of it; its events may
have ended. -/
structure Steady (ended : Bool) (t t' : Transport) : Prop where
  closed : t'.closed = t.closed
  gone : t'.streamGone = (t.streamGone || ended)
  disposed : t.Disposed → t'.Disposed

theorem Steady.refl (t : Transport) : Steady false t t := ⟨rfl, (Bool.or_false _).symm, id⟩

theorem Steady.trans (h : Steady ended t t') (h' : Steady more t' t'') :
    Steady (ended || more) t t'' where
  closed := h'.closed.trans h.closed
  gone := by rw [h'.gone, h.gone, Bool.or_assoc]
  disposed := h'.disposed ∘ h.disposed

theorem Steady.of_queue (t : Transport) (queue : List OutboundItem) :
    Steady false t { t with outbound := { t.outbound with queue } } :=
  ⟨rfl, (Bool.or_false _).symm, fun h => ⟨h.closed, h.reader, h.line, h.stream⟩⟩

/-- A change of the inbound queue that neither gives the reading end back nor puts anybody in line. -/
theorem Steady.of_inbound {inbound : Inbound}
    (hreader : t.inbound.reader ≠ .untaken → inbound.reader ≠ .untaken)
    (hline : t.inbound.line = [] → inbound.line = []) : Steady false t { t with inbound } :=
  ⟨rfl, (Bool.or_false _).symm, fun h => ⟨h.closed, hreader h.reader, hline h.line, h.stream⟩⟩

theorem steady_offer (t : Transport) (m : Rpc.Message) : Steady false t (t.offer m).2 := by
  unfold offer
  split_ifs with hclosed
  · exact .refl t
  · exact ⟨rfl, (Bool.or_false _).symm, fun h => absurd h.closed hclosed⟩

theorem steady_open (t : Transport) (h : t.outbound.stream = .untaken) :
    Steady false t
      { t with outbound := { t.outbound with stream := Outbound.opened t.framing } } := by
  refine ⟨rfl, ?_, fun hdisposed => absurd h hdisposed.stream⟩
  simp only [streamGone, Outbound.hasReader, h]
  cases t.framing <;> rfl

theorem steady_dropStream (t : Transport) : Steady true t t.dropStream :=
  ⟨rfl, (Bool.or_true _).symm, fun h => ⟨h.closed, h.reader, h.line, by simp [dropStream]⟩⟩

end Transport

namespace Inbound

variable {q q' : Inbound}

theorem keeps_take? {m : Rpc.Message} (h : q.take? = some (m, q')) :
    q'.reader = q.reader ∧ (q.line = [] → q'.line = []) := by
  unfold take? at h
  split at h
  · cases h
  · cases h
    exact ⟨rfl, fun hline => by rw [hline]; rfl⟩

theorem keeps_enter (q : Inbound) (ticket : Nat) :
    (q.enter ticket).reader = q.reader ∧ (q.line = [] → (q.enter ticket).line = []) := by
  unfold enter without
  split
  · split_ifs
    · exact ⟨rfl, fun hline => by simp [hline]⟩
    · exact ⟨rfl, id⟩
  · exact ⟨rfl, id⟩

theorem keeps_leave (q : Inbound) (ticket : Nat) :
    (q.leave ticket).reader = q.reader ∧ (q.line = [] → (q.leave ticket).line = []) := by
  unfold leave without
  split
  · exact ⟨rfl, fun hline => by simp [hline, admitFirst]⟩
  · exact ⟨rfl, fun hline => by simp [hline]⟩

end Inbound

namespace Reading

/-- Whether there is nothing more to read. -/
def isFinished : Reading → Bool
  | .finished => true
  | _ => false

end Reading

theorem Outbound.hasReader_read : ∀ (items : List OutboundItem) (remaining : Option Nat),
    (Outbound.read remaining items).2.hasReader = !(Outbound.read remaining items).1.isFinished
  | [], remaining => by
    rcases remaining with _ | _ | n <;> simp [Outbound.read, Outbound.hasReader, Reading.isFinished]
  | .abandoned :: rest, remaining => by
    rcases remaining with _ | _ | n
    · exact Outbound.hasReader_read rest _
    · simp [Outbound.read, Outbound.hasReader, Reading.isFinished]
    · exact Outbound.hasReader_read rest _
  | .message m :: rest, remaining => by
    rcases remaining with _ | _ | n <;>
      simp [Outbound.read, Outbound.hasReader, Reading.isFinished]

/-- A stream has a reader after a read exactly if it had one and there was something to wait for. -/
theorem Outbound.hasReader_next (o : Outbound) :
    o.next.2.hasReader = (o.hasReader && !o.next.1.isFinished) := by
  obtain ⟨queue, stream⟩ := o
  cases stream with
  | reading endpoint remaining =>
    cases endpoint with
    | none => exact Outbound.hasReader_read queue remaining
    | some _ => rfl
  | _ => rfl

namespace Transport

variable {t : Transport}

theorem next_of_closed (h : t.closed = true) : t.next.2 = t := by
  obtain ⟨clientId, framing, closed, inbound, queue, stream⟩ := t
  cases h
  cases stream <;> rfl

theorem next_of_open (h : t.closed = false) :
    t.next = (t.outbound.next.1, { t with outbound := t.outbound.next.2 }) := by
  unfold next
  rw [h]

/-- A read lets the events end if it comes to their end, which it does not if it is cut short. -/
theorem steady_next (t : Transport) :
    Steady (!t.closed && t.next.1.isFinished) t t.next.2 := by
  cases hclosed : t.closed with
  | true =>
    rw [next_of_closed hclosed]
    exact .refl t
  | false =>
    rw [next_of_open hclosed]
    refine ⟨rfl, ?_, fun h => absurd h.closed (by simp [hclosed])⟩
    simp only [streamGone, Outbound.hasReader_next, Bool.not_and, Bool.not_not, Bool.not_false,
      Bool.true_and]

end Transport

namespace Session

variable {s s' s'' : Session} {ended more : Bool}

/-- The second session is the first after something that neither tells it to stop nor closes it;
its events may have ended. -/
structure Steady (ended : Bool) (s s' : Session) : Prop where
  clientId : s'.clientId = s.clientId
  instanceId : s'.instanceId = s.instanceId
  token : s'.token = s.token
  parent : s'.parent = s.parent
  cancelled : s'.cancelled = s.cancelled
  closed : s'.closed = s.closed
  transport : s.transport.Steady ended s'.transport

theorem Steady.of_transport (s : Session) {transport : Transport}
    (h : s.transport.Steady ended transport) : Steady ended s { s with transport } :=
  ⟨rfl, rfl, rfl, rfl, rfl, rfl, h⟩

theorem Steady.refl (s : Session) : Steady false s s :=
  ⟨rfl, rfl, rfl, rfl, rfl, rfl, .refl _⟩

theorem Steady.trans (h : Steady ended s s') (h' : Steady more s' s'') :
    Steady (ended || more) s s'' where
  clientId := h'.clientId.trans h.clientId
  instanceId := h'.instanceId.trans h.instanceId
  token := h'.token.trans h.token
  parent := h'.parent.trans h.parent
  cancelled := h'.cancelled.trans h.cancelled
  closed := h'.closed.trans h.closed
  transport := h.transport.trans h'.transport

/-- Jobs, the handshake and the requests in flight do not matter here. -/
theorem Steady.of_same (hclient : s'.clientId = s.clientId) (hinstance : s'.instanceId = s.instanceId)
    (htoken : s'.token = s.token) (hparent : s'.parent = s.parent)
    (hcancelled : s'.cancelled = s.cancelled) (hclosed : s'.closed = s.closed)
    (htransport : s'.transport = s.transport) : Steady false s s' :=
  ⟨hclient, hinstance, htoken, hparent, hcancelled, hclosed, htransport ▸ .refl _⟩

/-! ## Jobs -/

theorem steady_writeBack (s : Session) (response : Option Rpc.Response) :
    Steady false s (s.writeBack response) := by
  obtain ⟨queue, hwritten⟩ := s.writeBack_queue response
  rw [hwritten]
  exact .of_transport s (.of_queue _ queue)

theorem steady_agree (s : Session) (request : Rpc.Request) (response : Rpc.Response) :
    Steady false s (s.agree request response) := by
  cases response with
  | success r =>
    unfold agree
    split_ifs
    · exact .of_same rfl rfl rfl rfl rfl rfl rfl
    · exact .refl s
  | failure r => exact .refl s

theorem steady_answered (s : Session) (request : Rpc.Request) (number : Nat)
    (response : Rpc.Response) : Steady false s (s.answered request number response).2 := by
  have hfinish : Steady false s (s.finish request.id number) :=
    .of_same rfl rfl rfl rfl rfl rfl rfl
  unfold answered
  simp only
  split_ifs
  · exact hfinish
  · exact hfinish.trans (steady_agree _ request response)

theorem steady_goOn (s : Session) (signals : List String) (job : Job) (number : Nat)
    (work : Activity Rpc.Response) : Steady false s (s.goOn signals job number work) := by
  have hremoved : Steady false s (s.removeJob job.ticket) := .of_same rfl rfl rfl rfl rfl rfl rfl
  unfold goOn
  split
  · exact .of_same rfl rfl rfl rfl rfl rfl rfl
  · exact hremoved.trans ((steady_answered _ job.request number _).trans (steady_writeBack _ _))
  · have hcrashed : Steady false (s.removeJob job.ticket)
        ((s.removeJob job.ticket).finish job.request.id number) :=
      .of_same rfl rfl rfl rfl rfl rfl rfl
    exact hremoved.trans (hcrashed.trans (steady_writeBack _ _))

theorem steady_runJob (s : Session) (router : Router) (signals : List String) (ticket : Nat) :
    Steady false s (s.runJob router signals ticket) := by
  unfold runJob
  split
  · exact .refl s
  · rename_i job _
    split
    · have hregister : Steady false s (s.register job.request.id).2 :=
        .of_same rfl rfl rfl rfl rfl rfl rfl
      exact hregister.trans (steady_goOn _ signals job _ _)
    · exact steady_goOn s signals job _ _

/-! ## Moves -/

theorem steady_handle (s : Session) (router : Router) (signals : List String) (m : Rpc.Message) :
    Steady false s (s.handle router signals m) := by
  cases m with
  | request r =>
    have hadd : Steady false s (s.addJob r) := .of_same rfl rfl rfl rfl rfl rfl rfl
    simp only [handle]
    split_ifs
    · exact hadd.trans (steady_runJob _ router signals s.nextJob)
    · exact hadd
  | notification n =>
    simp only [handle, notice]
    split <;> exact .of_same rfl rfl rfl rfl rfl rfl rfl
  | success r => exact .refl s
  | failure r => exact .refl s

theorem steady_pump (s : Session) (router : Router) (signals : List String) :
    Steady false s (s.pump router signals) := by
  unfold pump
  split
  · rename_i m s' htake
    obtain ⟨inbound, hinbound, rfl⟩ := take?_eq_some htake
    have htaken : Steady false s { s with transport := { s.transport with inbound } } := by
      obtain ⟨hreader, hline⟩ := Inbound.keeps_take? hinbound
      exact .of_transport s (.of_inbound (hreader ▸ id) hline)
    exact htaken.trans (steady_handle _ router signals m)
  · exact .refl s

/-- Whether a move reads the events to their end. A read that is cut short because the transport
was disposed of does not. -/
def Move.ends (s : Session) : Move → Bool
  | .read => !s.transport.closed && s.next.1.isFinished
  | _ => false

theorem steady_apply (s : Session) (router : Router) (move : Move) :
    Steady (move.ends s) s (s.apply router move) := by
  cases move with
  | pump signals => exact steady_pump s router signals
  | work ticket signals => exact steady_runJob s router signals ticket
  | offer m => exact .of_transport s (s.transport.steady_offer m)
  | enter ticket =>
    obtain ⟨hreader, hline⟩ := s.transport.inbound.keeps_enter ticket
    exact .of_transport s (.of_inbound (hreader ▸ id) hline)
  | leave ticket =>
    obtain ⟨hreader, hline⟩ := s.transport.inbound.keeps_leave ticket
    exact .of_transport s (.of_inbound (hreader ▸ id) hline)
  | openStream =>
    simp only [apply]
    rcases events_cases s with hsame | ⟨hstream, hopened⟩
    · rw [hsame]
      exact .refl s
    · rw [hopened]
      exact .of_transport s (s.transport.steady_open hstream)
  | read => exact .of_transport s s.transport.steady_next
  | reject id error =>
    obtain ⟨queue, hwritten⟩ := s.push_queue (.message (Rpc.Response.error id error).toMessage)
    have hsent : s.apply router (.reject id error) = _ := hwritten
    rw [hsent]
    exact .of_transport s (.of_queue _ queue)

end Session

end SessionRelay
