import SessionRelay.Proofs.Session.Invariant
import SessionRelay.Proofs.Transport.Outbound

/-!
# Histories of a session

A history keeps, beside the session, which requests were taken from its queue under which ticket,
who put which item on the outbound queue, and which messages the client has read. It goes on by
moves: the session takes a message, a job runs, or somebody else has to do with one of the two
queues. The effect of a move on jobs and items is one of four (`effect_of_move`).
-/

namespace SessionRelay

namespace Session

/-- What happens to a session that stays open. -/
inductive Move
  /-- It takes its next message and handles it. -/
  | pump (signals : List String)
  /-- A job runs until it waits or is over. -/
  | work (ticket : Nat) (signals : List String)
  /-- A message comes. -/
  | offer (message : Rpc.Message)
  /-- A writer in line uses the slot that is kept for it, if there is one. -/
  | enter (ticket : Nat)
  /-- A writer in line gives up. -/
  | leave (ticket : Nat)
  /-- The event stream is handed out. -/
  | openStream
  /-- The client reads on. -/
  | read
  /-- The client is told of an error that no job wrote. -/
  | reject (id : Option Rpc.Id) (error : Rpc.ErrorObject)

variable {s s' : Session} {router : Router} {move : Move}

/-- The session after a move. What is refused changes nothing. -/
def apply (s : Session) (router : Router) : Move → Session
  | .pump signals => s.pump router signals
  | .work ticket signals => s.runJob router signals ticket
  | .offer message => (s.offer message).2
  | .enter ticket => s.mapInbound fun q => q.enter ticket
  | .leave ticket => s.mapInbound fun q => q.leave ticket
  | .openStream => s.events.toOption.getD s
  | .read => s.next.2
  | .reject id error => (s.send (Rpc.Response.error id error).toMessage).toOption.getD s

/-- The items between two states of the outbound queue, one of which extends the other. -/
def added (s s' : Session) : List OutboundItem :=
  s'.transport.outbound.queue.drop s.transport.outbound.queue.length

namespace Move

/-- The ticket of the job that a move lets run, if any. -/
def ticket? (s : Session) : Move → Option Nat
  | .pump _ => some s.nextJob
  | .work ticket _ => some ticket
  | _ => none

/-- The request that a move takes from the queue. -/
def taken? (s : Session) : Move → Option Rpc.Request
  | .pump _ =>
    match s.take? with
    | some (.request r, _) => some r
    | _ => none
  | _ => none

/-- The message that a move lets the client read. -/
def told? (s : Session) : Move → Option Rpc.Message
  | .read => s.next.1.message?
  | _ => none

end Move

/-! ## The effect of a move -/

/-- What a move does to the jobs, and what it leaves for the client. -/
inductive Effect (s : Session) (move : Move) (s' : Session) : Prop
  /-- No job comes or goes, and no job leaves anything. -/
  | quiet (hpending : s'.pending = s.pending) (hnext : s'.nextJob = s.nextJob)
    (htaken : move.taken? s = none) (hadded : added s s' = [] ∨ move.ticket? s = none)
  /-- A request becomes a job. -/
  | accepted (r : Rpc.Request) (hpending : s'.pending = s.pending ++ [(s.nextJob, r)])
    (hnext : s'.nextJob = s.nextJob + 1) (htaken : move.taken? s = some r)
    (hadded : added s s' = [])
  /-- A request is answered on the spot. -/
  | answered (r : Rpc.Request) (item : OutboundItem) (hpending : s'.pending = s.pending)
    (hnext : s'.nextJob = s.nextJob + 1) (htaken : move.taken? s = some r)
    (hticket : move.ticket? s = some s.nextJob) (hadded : added s s' = [item])
    (hanswers : item.Answers r (s.fired s.nextJob))
  /-- A job is over. -/
  | finished (ticket : Nat) (r : Rpc.Request) (item : OutboundItem) (hjob : (ticket, r) ∈ s.pending)
    (hpending : s'.pending = s.pending.filter (·.1 != ticket)) (hnext : s'.nextJob = s.nextJob)
    (htaken : move.taken? s = none) (hticket : move.ticket? s = some ticket)
    (hadded : added s s' = [item]) (hanswers : item.Answers r (s.fired ticket))

theorem added_of_transport (h : s'.transport.outbound = s.transport.outbound) :
    added s s' = [] := by
  rw [added, h, List.drop_length]

theorem added_of_put {item : OutboundItem} (h : s'.transport = (s.put item).transport) :
    added s s' = [item] := by
  rw [added, h]
  exact List.drop_left

theorem take?_eq_some {m : Rpc.Message} (h : s.take? = some (m, s')) : ∃ inbound,
    s.transport.inbound.take? = some (m, inbound) ∧
      s' = { s with transport := { s.transport with inbound } } := by
  unfold take? at h
  split_ifs at h
  obtain ⟨⟨m', inbound⟩, hinbound, heq⟩ := Option.map_eq_some_iff.1 h
  cases heq
  exact ⟨inbound, hinbound, rfl⟩

theorem job?_nextJob (h : s.Inv) : s.job? s.nextJob = none := by
  refine List.find?_eq_none.2 fun j hj => ?_
  simpa using Nat.ne_of_lt (h.ticket_lt j hj)

theorem fired_nextJob (h : s.Inv) : s.fired s.nextJob = s.cancelled := by
  rw [fired, job?_nextJob h]
  rfl

theorem effect_of_pump (h : s.Inv) (hopen : s.Open) (router : Router) (signals : List String) :
    Kept s (s.pump router signals) ∧ Effect s (.pump signals) (s.pump router signals) := by
  cases htake : s.take? with
  | none =>
    have hpump : s.pump router signals = s := by simp only [pump, htake]
    rw [hpump]
    refine ⟨.of_jobs h rfl rfl rfl rfl, .quiet rfl rfl ?_ (.inl (added_of_transport rfl))⟩
    simp only [Move.taken?, htake]
  | some taken =>
    obtain ⟨m, s₀⟩ := taken
    have hpump : s.pump router signals = s₀.handle router signals m := by simp only [pump, htake]
    obtain ⟨inbound, -, hs₀⟩ := take?_eq_some htake
    have h₀ : s₀.Inv := by
      rw [hs₀]
      exact h
    have hopen₀ : s₀.Open := by
      rw [hs₀]
      exact ⟨hopen.going, hopen.held, hopen.reader⟩
    have hkept : Kept s s₀ := by
      rw [hs₀]
      exact .of_jobs h rfl rfl rfl rfl
    have hpending : s₀.pending = s.pending := by rw [hs₀]; rfl
    have hnext : s₀.nextJob = s.nextJob := by rw [hs₀]
    have houtbound : s₀.transport.outbound = s.transport.outbound := by rw [hs₀]
    rw [hpump]
    cases hm : m.isRequest with
    | false =>
      obtain ⟨hkept', hjobs, hnext', htransport⟩ := handle_other_spec h₀ router signals hm
      refine ⟨hkept.trans hkept', .quiet ?_ (hnext'.trans hnext) ?_ (.inl ?_)⟩
      · rw [← hpending, pending, hjobs, pending]
      · cases m <;> simp_all [Move.taken?, Rpc.Message.isRequest]
      · exact added_of_transport (by rw [htransport, houtbound])
    | true =>
      cases m with
      | request r =>
        obtain ⟨hkept', hnext', hcase⟩ := handle_request_spec h₀ hopen₀ router signals r
        have htaken : Move.taken? s (.pump signals) = some r := by simp only [Move.taken?, htake]
        refine ⟨hkept.trans hkept', ?_⟩
        rcases hcase with ⟨hpending', htransport⟩ | ⟨item, hanswers, hpending', htransport⟩
        · refine .accepted r ?_ (hnext'.trans (by rw [hnext])) htaken ?_
          · rw [hpending', hpending, hnext]
          · exact added_of_transport (by rw [htransport, houtbound])
        · refine .answered r item (hpending'.trans hpending) (hnext'.trans (by rw [hnext])) htaken
            rfl ?_ ?_
          · rw [added, htransport, put, houtbound]
            exact List.drop_left
          · rw [fired_nextJob h, ← hkept.cancelled]
            exact hanswers
      | _ => cases hm

theorem effect_of_work (h : s.Inv) (hopen : s.Open) (router : Router) (ticket : Nat)
    (signals : List String) : Kept s (s.runJob router signals ticket) ∧
      Effect s (.work ticket signals) (s.runJob router signals ticket) := by
  obtain ⟨hkept, hnext, hcase⟩ := runJob_spec h hopen router signals ticket
  refine ⟨hkept, ?_⟩
  rcases hcase with ⟨hpending, htransport⟩ | ⟨job, item, hjob, hanswers, hpending, htransport⟩
  · exact .quiet hpending hnext rfl (.inl (added_of_transport (by rw [htransport])))
  · obtain ⟨hmem, hticket⟩ := job?_eq_some hjob
    have hpend : (ticket, job.request) ∈ s.pending := mem_pending_iff.2 ⟨job, hmem, hticket, rfl⟩
    exact .finished ticket job.request item hpend hpending hnext rfl rfl (added_of_put htransport)
      hanswers

theorem events_cases (s : Session) : s.events.toOption.getD s = s ∨
    s.transport.outbound.stream = .untaken ∧ s.events.toOption.getD s =
      { s with transport := { s.transport with outbound :=
        { s.transport.outbound with stream := Outbound.opened s.transport.framing } } } := by
  unfold events Transport.events
  split
  · exact .inr ⟨‹_›, rfl⟩
  · exact .inl rfl

theorem send_of_open (hopen : s.Open) (m : Rpc.Message) :
    (s.send m).toOption.getD s = s.put (.message m) := by
  simp [send, Transport.send, Transport.push_of_open hopen.held hopen.reader, Except.map,
    Except.toOption, put]

theorem next_outbound (hopen : s.Open) :
    s.next = (s.transport.outbound.next.1, { s with transport :=
      { s.transport with outbound := s.transport.outbound.next.2 } }) := by
  have hnext : s.transport.next = (s.transport.outbound.next.1,
      { s.transport with outbound := s.transport.outbound.next.2 }) := by
    unfold Transport.next
    split
    · exact absurd ‹s.transport.closed = true› (by simp [hopen.held])
    · rfl
  simp only [next, hnext]

theorem outbound_next_queue (o : Outbound) : o.next.2.queue.length ≤ o.queue.length := by
  unfold Outbound.next
  split
  · exact Nat.le_refl _
  · rename_i remaining _
    obtain ⟨taken, htook⟩ := Outbound.read_spec o.queue remaining
    have hlength := congrArg List.length htook.items
    rw [List.length_append] at hlength
    omega
  · exact Nat.le_refl _
  · exact Nat.le_refl _
  · exact Nat.le_refl _

theorem effect_of_move (h : s.Inv) (hopen : s.Open) (router : Router) (move : Move) :
    Kept s (s.apply router move) ∧ Effect s move (s.apply router move) := by
  cases move with
  | pump signals => exact effect_of_pump h hopen router signals
  | work ticket signals => exact effect_of_work h hopen router ticket signals
  | offer m => exact ⟨.of_jobs h rfl rfl rfl rfl, .quiet rfl rfl rfl (.inr rfl)⟩
  | enter ticket => exact ⟨.of_jobs h rfl rfl rfl rfl, .quiet rfl rfl rfl (.inr rfl)⟩
  | leave ticket => exact ⟨.of_jobs h rfl rfl rfl rfl, .quiet rfl rfl rfl (.inr rfl)⟩
  | openStream =>
    simp only [apply]
    rcases events_cases s with hsame | ⟨-, hopened⟩
    · rw [hsame]
      exact ⟨.of_jobs h rfl rfl rfl rfl, .quiet rfl rfl rfl (.inr rfl)⟩
    · rw [hopened]
      exact ⟨.of_jobs h rfl rfl rfl rfl, .quiet rfl rfl rfl (.inr rfl)⟩
  | read => exact ⟨.of_jobs h rfl rfl rfl rfl, .quiet rfl rfl rfl (.inr rfl)⟩
  | reject id error =>
    simp only [apply]
    rw [send_of_open hopen]
    exact ⟨.of_jobs h rfl rfl rfl rfl, .quiet rfl rfl rfl (.inr rfl)⟩

end Session

/-! ## Histories -/

/-- An item that was put on the outbound queue. -/
structure Entry where
  /-- The ticket of the job that left it; nothing for what no job wrote. -/
  ticket : Option Nat
  /-- Whether the job's request had been cancelled. -/
  fired : Bool
  item : OutboundItem

structure History where
  session : Session
  /-- The requests taken from the queue, by ticket. -/
  asked : List (Nat × Rpc.Request) := []
  log : List Entry := []
  /-- The messages that the client has read. -/
  seen : List Rpc.Message := []

namespace History

open Session (Move)

variable {router : Router} {h h' start : History}

/-- What a move of a session adds to the log. -/
def entriesOf (router : Router) (s : Session) (move : Move) : List Entry :=
  (s.added (s.apply router move)).map fun item =>
    { ticket := move.ticket? s, fired := ((move.ticket? s).map s.fired).getD false, item }

/-- The history after a move. -/
def next (router : Router) (h : History) (move : Move) : History :=
  { session := h.session.apply router move
    asked := h.asked ++ ((move.taken? h.session).map fun r => (h.session.nextJob, r)).toList
    log := h.log ++ entriesOf router h.session move
    seen := h.seen ++ (move.told? h.session).toList }

/-- A history goes on in another by moves of a session that is open before each of them. -/
inductive Run (router : Router) (start : History) : History → Prop
  | refl : Run router start start
  | move {h : History} (move : Move) (hrun : Run router start h) (hopen : h.session.Open) :
    Run router start (h.next router move)

theorem Run.trans {mid : History} (hfirst : Run router start mid) (hthen : Run router mid h) :
    Run router start h := by
  induction hthen with
  | refl => exact hfirst
  | move m _ hopen ih => exact ih.move m hopen

/-- What the job with a ticket has left. -/
def entries (h : History) (ticket : Nat) : List Entry :=
  h.log.filter fun e => e.ticket == some ticket

theorem entries_next_ne {move : Move} {ticket : Nat} (hne : move.ticket? h.session ≠ some ticket) :
    (h.next router move).entries ticket = h.entries ticket := by
  rw [entries, next, List.filter_append, ← entries, List.append_right_eq_self, entriesOf]
  refine List.filter_eq_nil_iff.2 fun e he => ?_
  obtain ⟨item, -, rfl⟩ := List.mem_map.1 he
  simpa using hne

theorem entries_next_none {move : Move} {ticket : Nat}
    (hadded : h.session.added (h.session.apply router move) = []) :
    (h.next router move).entries ticket = h.entries ticket := by
  simp [entries, next, entriesOf, hadded]

theorem entries_next_self {move : Move} {ticket : Nat} {item : OutboundItem}
    (hticket : move.ticket? h.session = some ticket)
    (hadded : h.session.added (h.session.apply router move) = [item]) :
    (h.next router move).entries ticket =
      h.entries ticket ++ [⟨some ticket, h.session.fired ticket, item⟩] := by
  simp [entries, next, entriesOf, hadded, hticket]

/-! ## Accounts -/

/-- Requests and items are accounted for: a request that is worked on has left nothing, any other
one item that answers it. -/
structure Ledger (h : History) : Prop where
  inv : h.session.Inv
  waits : h.session.Waits
  nodup : (h.asked.map Prod.fst).Nodup
  lt : ∀ a ∈ h.asked, a.1 < h.session.nextJob
  pending : ∀ a ∈ h.session.pending, a ∈ h.asked ∧ h.entries a.1 = []
  entry : ∀ e ∈ h.log, ∀ t, e.ticket = some t → t ∈ h.asked.map Prod.fst
  finished : ∀ a ∈ h.asked, a ∉ h.session.pending →
    ∃ e, h.entries a.1 = [e] ∧ e.item.Answers a.2 e.fired

theorem Ledger.eq_of_ticket (l : h.Ledger) {a b : Nat × Rpc.Request} (ha : a ∈ h.asked)
    (hb : b ∈ h.asked) (hab : a.1 = b.1) : a = b :=
  List.inj_on_of_nodup_map l.nodup ha hb hab

theorem entry_next (l : h.Ledger) {move : Move} {t : Nat}
    (hticket : h.session.added (h.session.apply router move) = [] ∨
      move.ticket? h.session = none ∨ ∃ t, move.ticket? h.session = some t ∧
        t ∈ (h.next router move).asked.map Prod.fst) :
    ∀ e ∈ (h.next router move).log, e.ticket = some t →
      t ∈ (h.next router move).asked.map Prod.fst := by
  intro e he ht
  rcases List.mem_append.1 he with he | he
  · have hold := l.entry e he t ht
    rw [next, List.map_append]
    exact List.mem_append_left _ hold
  · obtain ⟨item, hitem, rfl⟩ := List.mem_map.1 he
    rcases hticket with hadded | hnone | ⟨t', ht', hmem⟩
    · rw [hadded] at hitem
      cases hitem
    · rw [hnone] at ht
      cases ht
    · rw [ht'] at ht
      cases ht
      exact hmem

theorem asked_next_none {move : Move} (htaken : move.taken? h.session = none) :
    (h.next router move).asked = h.asked := by
  simp [next, htaken]

theorem asked_next_some {move : Move} {r : Rpc.Request} (htaken : move.taken? h.session = some r) :
    (h.next router move).asked = h.asked ++ [(h.session.nextJob, r)] := by
  simp [next, htaken]

namespace Ledger

theorem entries_new (l : h.Ledger) : h.entries h.session.nextJob = [] := by
  refine List.filter_eq_nil_iff.2 fun e he hticket => ?_
  obtain ⟨a, ha, heq⟩ := List.mem_map.1 (l.entry e he _ (by simpa using hticket))
  exact Nat.lt_irrefl _ (heq ▸ l.lt a ha)

theorem nodup_new (l : h.Ledger) (r : Rpc.Request) :
    ((h.asked ++ [(h.session.nextJob, r)]).map Prod.fst).Nodup := by
  rw [List.map_append, List.map_singleton]
  refine List.nodup_append.2 ⟨l.nodup, List.nodup_singleton _, ?_⟩
  rintro t ht t' ht' rfl
  obtain ⟨a, ha, rfl⟩ := List.mem_map.1 ht
  exact Nat.ne_of_lt (l.lt a ha) (List.mem_singleton.1 ht')

theorem lt_new (l : h.Ledger) {r : Rpc.Request} {a : Nat × Rpc.Request}
    (ha : a ∈ h.asked ++ [(h.session.nextJob, r)]) : a.1 < h.session.nextJob + 1 := by
  rcases List.mem_append.1 ha with ha | ha
  · exact Nat.lt_succ_of_lt (l.lt a ha)
  · rw [List.mem_singleton.1 ha]
    exact Nat.lt_succ_self _

variable {move : Move} {r : Rpc.Request} {item : OutboundItem} {ticket : Nat}

theorem quiet (l : h.Ledger) (hkept : Session.Kept h.session (h.next router move).session)
    (hpending : (h.next router move).session.pending = h.session.pending)
    (hnext : (h.next router move).session.nextJob = h.session.nextJob)
    (htaken : move.taken? h.session = none)
    (hadded : h.session.added (h.next router move).session = [] ∨ move.ticket? h.session = none) :
    (h.next router move).Ledger := by
  have hasked : (h.next router move).asked = h.asked := asked_next_none htaken
  have hentries : ∀ t, (h.next router move).entries t = h.entries t := fun t => by
    rcases hadded with hadded | hticket
    · exact entries_next_none hadded
    · exact entries_next_ne (by simp [hticket])
  refine ⟨hkept.inv, hkept.waits l.waits, hasked ▸ l.nodup, fun a ha => ?_, fun a ha => ?_,
    fun e he t => entry_next l (hadded.imp_right .inl) e he, fun a ha hover => ?_⟩
  · rw [hnext]
    exact l.lt a (hasked ▸ ha)
  · rw [hasked, hentries]
    exact l.pending a (hpending ▸ ha)
  · rw [hentries]
    exact l.finished a (hasked ▸ ha) (hpending ▸ hover)

theorem accepted (l : h.Ledger) (hkept : Session.Kept h.session (h.next router move).session)
    (hpending : (h.next router move).session.pending =
      h.session.pending ++ [(h.session.nextJob, r)])
    (hnext : (h.next router move).session.nextJob = h.session.nextJob + 1)
    (htaken : move.taken? h.session = some r)
    (hadded : h.session.added (h.next router move).session = []) :
    (h.next router move).Ledger := by
  have hasked : (h.next router move).asked = h.asked ++ [(h.session.nextJob, r)] :=
    asked_next_some htaken
  have hentries : ∀ t, (h.next router move).entries t = h.entries t :=
    fun t => entries_next_none hadded
  refine ⟨hkept.inv, hkept.waits l.waits, hasked ▸ l.nodup_new r, fun a ha => ?_, fun a ha => ?_,
    fun e he t => entry_next l (.inl hadded) e he, fun a ha hover => ?_⟩
  · exact Nat.lt_of_lt_of_eq (l.lt_new (hasked ▸ ha)) hnext.symm
  · rw [hpending] at ha
    rw [hasked, hentries]
    rcases List.mem_append.1 ha with ha | ha
    · exact ⟨List.mem_append_left _ (l.pending a ha).1, (l.pending a ha).2⟩
    · rw [List.mem_singleton.1 ha]
      exact ⟨List.mem_append_right _ List.mem_cons_self, l.entries_new⟩
  · rw [hpending] at hover
    rw [hasked] at ha
    rw [hentries]
    rcases List.mem_append.1 ha with ha | ha
    · exact l.finished a ha fun h => hover (List.mem_append_left _ h)
    · exact absurd (List.mem_append_right _ ha) hover

theorem answered (l : h.Ledger) (hkept : Session.Kept h.session (h.next router move).session)
    (hpending : (h.next router move).session.pending = h.session.pending)
    (hnext : (h.next router move).session.nextJob = h.session.nextJob + 1)
    (htaken : move.taken? h.session = some r)
    (hticket : move.ticket? h.session = some h.session.nextJob)
    (hadded : h.session.added (h.next router move).session = [item])
    (hanswers : item.Answers r (h.session.fired h.session.nextJob)) :
    (h.next router move).Ledger := by
  have hasked : (h.next router move).asked = h.asked ++ [(h.session.nextJob, r)] :=
    asked_next_some htaken
  -- The ticket is new, so no older request is the one that is answered.
  have hentries : ∀ a ∈ h.asked, (h.next router move).entries a.1 = h.entries a.1 := fun a ha => by
    refine entries_next_ne ?_
    rw [hticket]
    exact fun heq => Nat.ne_of_lt (l.lt a ha) (Option.some.inj heq).symm
  refine ⟨hkept.inv, hkept.waits l.waits, hasked ▸ l.nodup_new r, fun a ha => ?_, fun a ha => ?_,
    fun e he t => entry_next l (.inr (.inr ⟨_, hticket, ?_⟩)) e he, fun a ha hover => ?_⟩
  · exact Nat.lt_of_lt_of_eq (l.lt_new (hasked ▸ ha)) hnext.symm
  · obtain ⟨hold, hnone⟩ := l.pending a (hpending ▸ ha)
    rw [hasked, hentries a hold]
    exact ⟨List.mem_append_left _ hold, hnone⟩
  · rw [hasked]
    simp
  · rw [hasked] at ha
    rcases List.mem_append.1 ha with ha | ha
    · rw [hentries a ha]
      exact l.finished a ha (hpending ▸ hover)
    · obtain rfl := List.mem_singleton.1 ha
      refine ⟨⟨some h.session.nextJob, h.session.fired h.session.nextJob, item⟩, ?_, hanswers⟩
      rw [entries_next_self hticket hadded, l.entries_new, List.nil_append]

theorem settled (l : h.Ledger) (hkept : Session.Kept h.session (h.next router move).session)
    (hjob : (ticket, r) ∈ h.session.pending)
    (hpending : (h.next router move).session.pending =
      h.session.pending.filter (·.1 != ticket))
    (hnext : (h.next router move).session.nextJob = h.session.nextJob)
    (htaken : move.taken? h.session = none) (hticket : move.ticket? h.session = some ticket)
    (hadded : h.session.added (h.next router move).session = [item])
    (hanswers : item.Answers r (h.session.fired ticket)) : (h.next router move).Ledger := by
  have hasked : (h.next router move).asked = h.asked := asked_next_none htaken
  have hentries : ∀ t, t ≠ ticket → (h.next router move).entries t = h.entries t := fun t hne => by
    refine entries_next_ne ?_
    rw [hticket]
    exact fun heq => hne (Option.some.inj heq).symm
  obtain ⟨hmem, hnone⟩ := l.pending _ hjob
  refine ⟨hkept.inv, hkept.waits l.waits, hasked ▸ l.nodup, fun a ha => ?_, fun a ha => ?_,
    fun e he t => entry_next l (.inr (.inr ⟨_, hticket, ?_⟩)) e he, fun a ha hover => ?_⟩
  · exact Nat.lt_of_lt_of_eq (l.lt a (hasked ▸ ha)) hnext.symm
  · rw [hpending] at ha
    obtain ⟨ha, hne⟩ := List.mem_filter.1 ha
    rw [hasked, hentries a.1 (by simpa using hne)]
    exact l.pending a ha
  · rw [hasked]
    exact List.mem_map.2 ⟨_, hmem, rfl⟩
  · rw [hasked] at ha
    rw [hpending] at hover
    by_cases hne : a.1 = ticket
    · -- Tickets name requests, so the request is the one that the job was for.
      obtain rfl : a = (ticket, r) := l.eq_of_ticket ha hmem hne
      refine ⟨⟨some ticket, h.session.fired ticket, item⟩, ?_, hanswers⟩
      rw [entries_next_self hticket hadded, hnone, List.nil_append]
    · rw [hentries a.1 hne]
      exact l.finished a ha fun h => hover (List.mem_filter.2 ⟨h, by simpa using hne⟩)

protected theorem next (l : h.Ledger) (hopen : h.session.Open) (router : Router) (move : Move) :
    (h.next router move).Ledger := by
  obtain ⟨hkept, heffect⟩ := Session.effect_of_move l.inv hopen router move
  cases heffect with
  | quiet hpending hnext htaken hadded => exact l.quiet hkept hpending hnext htaken hadded
  | accepted r hpending hnext htaken hadded => exact l.accepted hkept hpending hnext htaken hadded
  | answered r item hpending hnext htaken hticket hadded hanswers =>
    exact l.answered hkept hpending hnext htaken hticket hadded hanswers
  | finished ticket r item hjob hpending hnext htaken hticket hadded hanswers =>
    exact l.settled hkept hjob hpending hnext htaken hticket hadded hanswers

end Ledger

/-- What a fresh session has done: nothing. -/
structure Fresh (s : Session) : Prop where
  jobs : s.jobs = []
  inFlight : s.inFlight = {}

theorem Ledger.of_fresh {s : Session} (hs : Fresh s) : Ledger { session := s } where
  inv := by
    unfold Session.Inv
    rw [hs.jobs, hs.inFlight]
    exact JobsFit.empty _
  waits := fun j hj => by
    rw [hs.jobs] at hj
    cases hj
  nodup := List.nodup_nil
  lt := by simp
  pending := by simp [Session.pending, hs.jobs]
  entry := by simp
  finished := by simp

theorem Run.ledger (hrun : Run router start h) (l : start.Ledger) : h.Ledger := by
  induction hrun with
  | refl => exact l
  | move m _ hopen ih => exact ih.next hopen router m

/-- An open session that finds some messages in its queue. -/
def opened (messages : List Rpc.Message) : History where
  session :=
    { Session.nobody with
      closed := false
      transport :=
        { clientId := "c"
          framing := .sse "/message"
          inbound := { capacity := 4, queue := messages, reader := .taken }
          outbound := { stream := .reading none none } } }

def ping : Rpc.Request := { id := .number 1, method := "ping" }

end History

end SessionRelay
