import SessionRelay.Proofs.Session.Attention
import SessionRelay.Proofs.Session.Teardown

/-!
# Sessions that go on with their stream

The stream of a session is taken once, by who opens it. Nothing else that is done to a session takes
it or gives it back, and a session that has to end still has to after that (`stays_apply`). Closing
a session leaves no stream to take (`shutDown_spec`).
-/

namespace SessionRelay

namespace Outbound

theorem read_ne_absent : ∀ (items : List OutboundItem) (remaining : Option Nat),
    (read remaining items).1 ≠ .absent
  | [], remaining => by
    rcases remaining with _ | _ | n <;> exact nofun
  | .abandoned :: rest, remaining => by
    rcases remaining with _ | _ | n
    · exact read_ne_absent rest none
    · exact nofun
    · exact read_ne_absent rest (some n)
  | .message m :: rest, remaining => by
    rcases remaining with _ | _ | n <;> exact nofun

/-- A stream that was taken stays so. There is something to read on it until it is let go of. -/
theorem next_of_taken {o : Outbound} (h : o.stream ≠ .untaken) :
    o.next.2.stream ≠ .untaken ∧ (o.next.1 = .absent → o.hasReader = false) := by
  obtain ⟨queue, stream⟩ := o
  cases stream with
  | untaken => exact absurd rfl h
  | reading endpoint remaining =>
    cases endpoint with
    | none =>
      obtain ⟨taken, htook⟩ := read_spec queue remaining
      refine ⟨?_, fun habsent => absurd habsent (read_ne_absent queue remaining)⟩
      rcases htook.stream with hstream | ⟨hstream, -⟩ <;>
        exact fun huntaken => by cases hstream.symm.trans huntaken
    | some _ => exact ⟨nofun, nofun⟩
  | ended => exact ⟨nofun, fun _ => rfl⟩
  | dropped => exact ⟨nofun, fun _ => rfl⟩

theorem untaken_next (o : Outbound) : o.next.2.stream = .untaken ↔ o.stream = .untaken := by
  refine ⟨fun h => ?_, fun h => ?_⟩
  · by_contra htaken
    exact (next_of_taken htaken).1 h
  · rw [next, h]
    exact h

end Outbound

namespace Transport

variable {t : Transport}

theorem untaken_next (t : Transport) :
    t.next.2.outbound.stream = .untaken ↔ t.outbound.stream = .untaken := by
  cases hclosed : t.closed with
  | true => rw [next_of_closed hclosed]
  | false =>
    rw [next_of_open hclosed]
    exact t.outbound.untaken_next

/-- Who has read a stream to its end leaves it. -/
theorem streamGone_next (hclosed : t.closed = false) (htaken : t.outbound.stream ≠ .untaken)
    (hend : t.next.1 = .finished ∨ t.next.1 = .absent) : t.next.2.streamGone = true := by
  rw [next_of_open hclosed] at hend ⊢
  rw [streamGone, Outbound.hasReader_next]
  rcases hend with hfinished | habsent
  · rw [hfinished, Reading.isFinished, Bool.not_true, Bool.and_false, Bool.not_false]
  · rw [(Outbound.next_of_taken htaken).2 habsent, Bool.false_and, Bool.not_false]

end Transport

namespace Session

variable {s s' s'' : Session} {ended : Bool}

/-- Whether nobody has taken the stream of a session yet. -/
def Untaken (s : Session) : Prop := s.transport.outbound.stream = .untaken

/-- Whether a session has ended, or its watcher has to end it. -/
def Ending (s : Session) : Prop := s.closed = true ∨ s.isDue = true

/-- The second session is the first after something that neither closes it nor opens its stream. -/
structure Stays (s s' : Session) : Prop where
  clientId : s'.clientId = s.clientId
  closed : s'.closed = s.closed
  disposed : s'.transport.closed = s.transport.closed
  untaken : s'.Untaken ↔ s.Untaken
  due : s.isDue = true → s'.isDue = true

namespace Stays

theorem refl (s : Session) : s.Stays s := ⟨rfl, rfl, rfl, .rfl, id⟩

theorem trans (h : s.Stays s') (h' : s'.Stays s'') : s.Stays s'' where
  clientId := h'.clientId.trans h.clientId
  closed := h'.closed.trans h.closed
  disposed := h'.disposed.trans h.disposed
  untaken := h'.untaken.trans h.untaken
  due := h'.due ∘ h.due

theorem of_steady (h : s.Steady ended s') (huntaken : s'.Untaken ↔ s.Untaken) : s.Stays s' where
  clientId := h.clientId
  closed := h.closed
  disposed := h.transport.closed
  untaken := huntaken
  due := by
    simp only [isDue, h.cancelled, h.transport.gone, Bool.or_eq_true]
    exact Or.imp_right .inl

theorem ending (h : s.Stays s') (hending : s.Ending) : s'.Ending :=
  hending.imp h.closed.trans h.due

end Stays

theorem Refills.untaken (h : s.Refills s') : s'.Untaken ↔ s.Untaken := by
  rw [Untaken, h.stream, Untaken]

/-! ## Moves -/

theorem untaken_pump (s : Session) (router : Router) (signals : List String) :
    (s.pump router signals).Untaken ↔ s.Untaken := by
  unfold pump
  split
  · rename_i m s' htake
    obtain ⟨inbound, -, rfl⟩ := take?_eq_some htake
    exact (refills_handle _ router signals m).untaken
  · rfl

theorem untaken_offer (s : Session) (m : Rpc.Message) : (s.offer m).2.Untaken ↔ s.Untaken := by
  simp only [Untaken, offer, Transport.offer]
  split_ifs <;> rfl

/-- Only who opens the stream takes it. -/
theorem untaken_apply (s : Session) (router : Router) {move : Move} (h : move ≠ .openStream) :
    (s.apply router move).Untaken ↔ s.Untaken := by
  cases move with
  | pump signals => exact s.untaken_pump router signals
  | work ticket signals => exact (s.refills_runJob router signals ticket).untaken
  | offer m => exact s.untaken_offer m
  | enter ticket => rfl
  | leave ticket => rfl
  | openStream => exact absurd rfl h
  | read => exact s.transport.untaken_next
  | reject id error =>
    obtain ⟨queue, hsent⟩ := s.push_queue (.message (Rpc.Response.error id error).toMessage)
    have hrefills : s.Refills (s.apply router (.reject id error)) :=
      ⟨queue, congrArg transport hsent⟩
    exact hrefills.untaken

theorem stays_apply (s : Session) (router : Router) (move : Move) (h : move ≠ .openStream) :
    s.Stays (s.apply router move) :=
  .of_steady (s.steady_apply router move) (s.untaken_apply router h)

theorem stays_stopPump (s : Session) : s.Stays (if s.cancelled then s.stopPump else s) := by
  split_ifs
  · exact .of_steady (Care.steady_stopPump s) .rfl
  · exact .refl s

/-- Who has taken the stream can let go of it. -/
theorem stays_dropStream (h : ¬ s.Untaken) : s.Stays s.dropStream :=
  .of_steady (.of_transport s s.transport.steady_dropStream) (iff_of_false nofun h)

theorem ending_dropStream (s : Session) : s.dropStream.Ending :=
  .inr (by simp [isDue, dropStream, Transport.dropStream, Transport.streamGone, Outbound.hasReader])

/-! ## The stream -/

/-- A session hands out its stream unless it was taken. -/
theorem events_spec (s : Session) : ¬ s.Untaken ∧ s.events.toOption = none ∨
    ∃ s', s.events.toOption = some s' ∧ ¬ s'.Untaken ∧ s'.clientId = s.clientId ∧
      s'.closed = s.closed ∧ s'.transport.closed = s.transport.closed := by
  unfold events Transport.events
  split
  · refine .inr ⟨_, rfl, ?_, rfl, rfl, rfl⟩
    cases s.transport.framing <;> exact nofun
  · exact .inl ⟨‹_›, rfl⟩

/-- A client that has read the stream to its end has read that of a session which is ending. -/
theorem ending_next (htaken : ¬ s.Untaken) (hwhole : s.transport.closed = true → s.closed = true)
    (hend : s.next.1 = .finished ∨ s.next.1 = .absent) : s.next.2.Ending := by
  cases hclosed : s.transport.closed with
  | true =>
    have hstays : s.Stays s.next.2 := s.stays_apply {} .read nofun
    exact hstays.ending (.inl (hwhole hclosed))
  | false =>
    right
    rw [isDue, Bool.or_eq_true]
    exact .inr (Transport.streamGone_next hclosed htaken hend)

theorem shutDown_spec (s : Session) : s.shutDown.closed = true ∧
    s.shutDown.clientId = s.clientId ∧ (¬ s.Untaken → ¬ s.shutDown.Untaken) := by
  unfold shutDown
  split_ifs with hclosed
  · exact ⟨hclosed, rfl, id⟩
  · refine ⟨rfl, rfl, fun h => ?_⟩
    cases hdisposed : s.transport.closed with
    | true => rwa [Untaken, Transport.dispose, if_pos hdisposed]
    | false => exact (Transport.disposed_dispose hdisposed).stream

end Session

end SessionRelay
