import SessionRelay.Proofs.Server.Limits
import SessionRelay.Proofs.Server.Touch

/-!
# Steps of an instance

Whatever happens at an instance is one of its steps. As long as nobody shuts a session, each step is
for that session some of its own moves (`touches`, `session_step`). A request that comes may start
an exchange (`received_receive`).
-/

namespace SessionRelay

open Session (Move)

/-- Whether nobody has shut a session: it was not told to stop, its transport is not closed, and its
client has not let go of the stream. -/
structure Session.Left (s : Session) : Prop where
  going : s.cancelled = false
  held : s.transport.closed = false
  kept : s.transport.outbound.stream ≠ .dropped

namespace Server

variable {σ : Type} {v v' : Server} {s s' : Session} {place other : Nat}

/-- What happens at an instance. -/
inductive Step (σ : Type)
  /-- A request comes. -/
  | receive (now : Nat) (draw : Draw) (request : Http.Request)
  /-- An exchange goes on, with the queues of the relay as they are then. -/
  | exchange (now number : Nat) (queues : σ)
  /-- The instance does something by itself. -/
  | act (signals : List String) (now : Nat) (a : Act)
  /-- A client goes away before the reply. -/
  | abort (number : Nat)
  /-- A client goes away from a stream. -/
  | dropBody (number : Nat)
  /-- A client starts to read a stream. -/
  | startReading (number : Nat)
  /-- A client is given what was read of its stream. -/
  | collect (number : Nat)
  /-- A message comes in over the relay. -/
  | relay (envelope : Envelope)
  /-- A session is closed. -/
  | close (place : Nat)
  /-- Every session is closed. -/
  | closeAll

def step (service : Queue.Service σ) (v : Server) : Step σ → Server
  | .receive now draw request => (v.receive now draw request).2
  | .exchange now number queues => (v.stepExchange service now number queues).2.1
  | .act signals now a => v.act signals now a
  | .abort number => v.abort number
  | .dropBody number => v.dropBody number
  | .startReading number => v.startReading number
  | .collect number => (v.collect number).2
  | .relay envelope => (takeRelayed envelope v).2
  | .close place => v.close place
  | .closeAll => v.closeAll

/-! ## Moves of a session -/

/-- A body that is no message but was posted to a session, with the error its client is told. -/
def complaint? (v : Server) (r : Http.Request) :
    Option (ClientState × Option Rpc.Id × Rpc.ErrorObject) :=
  match v.site.route r.method r.path with
  | .found .messageBox => do
    guard r.TargetFits
    let body ← (bodyText r).toOption
    let token ← Url.Form.get? r.query "state"
    let client ← v.readToken token
    match Rpc.Message.ofBody body with
    | .ok _ => none
    | .error error => some (client, recoverId body, error)
  | _ => none

/-- Whether a client's session is the one at a place here. -/
def holds (v : Server) (client : ClientState) (place : Nat) : Bool :=
  client.isLocal v.instanceId && v.table.find? client.clientId == some place

/-- What a request does to the session at a place before its messages are delivered. -/
def complaints (v : Server) (place : Nat) (r : Http.Request) : List Move :=
  match v.complaint? r with
  | some (client, id, error) => if v.holds client place then [.reject id error] else []
  | none => []

/-- What handing over a relayed message does to the session at a place. -/
def handovers (v : Server) (place : Nat) : List Move :=
  match v.relaySlot, v.relayed with
  | some slot, _ => movesIf slot.session place (.enter slot.ticket)
  | none, envelope :: _ => v.movesFor envelope.clientId place envelope.message
  | none, [] => []

/-- Whether a client reads on in the stream of the session at a place. -/
def reads (v : Server) (place number : Nat) : Bool :=
  match v.bodies[number]? with
  | some body => body.attention = .reads && body.session == place
  | none => false

/-- The moves that a step is for the session at a place, each with the number of the exchange that
makes it, if one does. -/
def touches (service : Queue.Service σ) (v : Server) (place : Nat) :
    Step σ → List (Option Nat × Move)
  | .receive _ _ request => (v.complaints place request).map (none, ·)
  | .exchange now number queues =>
    match v.exchanges.find? fun e => e.number == number with
    | some e =>
      (v.deliveries e place ++ openings e place (v.proceed service now e queues).1).map
        (some number, ·)
    | none => []
  | .act signals _ (.pump other) => (movesIf other place (.pump signals)).map (none, ·)
  | .act signals _ (.work other ticket) =>
    (movesIf other place (.work ticket signals)).map (none, ·)
  | .act _ _ (.read number) => if v.reads place number then [(none, .read)] else []
  | .act _ _ .handOver => (v.handovers place).map (none, ·)
  | .abort number =>
    match (v.exchanges.find? fun e => e.number == number).bind Exchange.slot with
    | some slot => (movesIf slot.session place (.leave slot.ticket)).map (some number, ·)
    | none => []
  | _ => []

/-! ## Requests -/

theorem touched_rejectBody (v : Server) (client : ClientState) (id : Option Rpc.Id)
    (error : Rpc.ErrorObject) (place : Nat) :
    Touched v place (if v.holds client place then [.reject id error] else [])
      (v.rejectBody client id error).2 := by
  unfold rejectBody holds
  cases hlocal : client.isLocal v.instanceId with
  | false => exact .refl v place
  | true =>
    simp only [Bool.true_and, if_true]
    cases hfind : v.table.find? client.clientId with
    | none => exact .refl v place
    | some other =>
      have hmoves : (if (some other == some place) = true then [Move.reject id error] else []) =
          movesIf other place (.reject id error) := by simp [movesIf]
      simp only [hmoves]
      split
      · rename_i s' hsent
        obtain ⟨s, hs, hsend⟩ := Option.bind_eq_some_iff.1 hsent
        refine .modify v other place _ fun s₁ hs₁ => ?_
        rw [hs] at hs₁
        cases hs₁
        simp only [Session.apply, hsend, Option.getD_some]
      · rename_i hnone
        refine .of_same fun s hs => ?_
        rw [hs, Option.bind_some] at hnone
        simp only [Session.apply, hnone, Option.getD_none]

/-- What a started exchange holds: one that goes to a session it names holds no request, and one
with a session of its own has a new one. -/
structure Fitting (v v' : Server) (purpose : Purpose) (messages : List Rpc.Message) : Prop where
  route : ∀ client, purpose = .route client → ∀ m ∈ messages, m.isRequest = false
  feed : ∀ place, purpose = .feed place →
    v.table.opened.length ≤ place ∧ place < v'.table.opened.length

/-- A request makes its complaint to the session at a place, and it may start an exchange. -/
def Received (v : Server) (place : Nat) (moves : List Move) (v' : Server) : Prop :=
  ∃ v₁, Touched v place moves v₁ ∧ (v' = v₁ ∨ ∃ purpose messages,
    Fitting v v₁ purpose messages ∧ v' = (v₁.start purpose messages).2)

theorem Received.of_touched {moves : List Move} (h : Touched v place moves v') :
    Received v place moves v' :=
  ⟨v', h, .inl rfl⟩

theorem touched_create {kind : StreamKind} {parent : String} {draw : Draw} {table : SessionTable}
    (h : v.table.create kind parent draw = .ok (other, table)) (place : Nat) :
    Touched v place [] { v with table } := by
  obtain ⟨-, s, hopened, -⟩ := SessionTable.create_spec h
  refine ⟨⟨rfl, rfl, ?_, rfl⟩, fun s hs => SessionTable.session?_append _ hopened hs⟩
  rw [hopened, List.length_append]
  exact Nat.le_add_right _ _

theorem received_admitPost (v : Server) (place : Nat) (r : Http.Request) (hfits : r.TargetFits)
    (hroute : v.site.route r.method r.path = .found .messageBox) :
    Received v place (v.complaints place r) (v.admitPost r).2 := by
  have hnone : v.complaint? r = none → Received v place (v.complaints place r) v := fun h => by
    rw [complaints, h]
    exact .of_touched (.refl v place)
  unfold admitPost
  cases hbody : bodyText r with
  | error response => exact hnone (by simp [complaint?, hroute, hbody, Except.toOption])
  | ok body =>
    cases htoken : Url.Form.get? r.query "state" with
    | none => exact hnone (by simp [complaint?, hroute, htoken])
    | some token =>
      simp only
      cases hclient : v.readToken token with
      | none => exact hnone (by simp [complaint?, hroute, htoken, hclient])
      | some client =>
        simp only
        cases hmessages : Rpc.Message.ofBody body with
        | ok messages =>
          have hcomplaint : v.complaint? r = none := by
            simp [complaint?, hroute, hbody, htoken, hclient, hmessages, Except.toOption]
          rw [complaints, hcomplaint]
          have hfitting : Fitting v v (.post client) messages := by
            constructor <;> intro _ h <;> cases h
          exact ⟨v, .refl v place, .inr ⟨.post client, messages, hfitting, rfl⟩⟩
        | error error =>
          have hcomplaint : v.complaint? r = some (client, recoverId body, error) := by
            simp [complaint?, hroute, hfits, hbody, htoken, hclient, hmessages, Except.toOption]
          rw [complaints, hcomplaint]
          exact .of_touched (touched_rejectBody v client (recoverId body) error place)

theorem complaints_eq_nil {r : Http.Request}
    (h : v.site.route r.method r.path ≠ .found .messageBox) (place : Nat) :
    v.complaints place r = [] := by
  have hnone : v.complaint? r = none := by
    unfold complaint?
    split
    · exact absurd ‹_› h
    · rfl
  rw [complaints, hnone]

theorem complaints_of_long {r : Http.Request} (h : ¬ r.TargetFits) (place : Nat) :
    v.complaints place r = [] := by
  have hnone : v.complaint? r = none := by
    unfold complaint?
    split
    · rw [guard, if_neg h]
      rfl
    · rfl
  rw [complaints, hnone]

theorem received_admitExchange (v : Server) (draw : Draw) (place : Nat) (r : Http.Request) :
    Received v place [] (v.admitExchange draw r).2 := by
  have hsame : Received v place [] v := .of_touched (.refl v place)
  unfold admitExchange
  split
  · exact hsame
  · split_ifs
    · exact hsame
    · split
      · exact hsame
      · split
        · exact hsame
        · rename_i messages _
          split
          · rename_i hcount _
            refine ⟨v, .refl v place, .inr ⟨_, messages, ?_, rfl⟩⟩
            exact ⟨fun _ _ m hm => by simpa using List.countP_eq_zero.1 hcount m hm, nofun⟩
          · exact hsame
          · split
            · exact hsame
            · rename_i other table hcreate
              refine ⟨{ v with table }, touched_create hcreate place,
                .inr ⟨.feed other, messages, ⟨nofun, fun p hp => ?_⟩, rfl⟩⟩
              cases hp
              obtain ⟨hother, s, hopened, -⟩ := SessionTable.create_spec hcreate
              rw [hopened, List.length_append, hother]
              exact ⟨Nat.le_refl _, Nat.lt_succ_self _⟩

theorem framed_dropBody (v : Server) (number : Nat) : Framed v (v.dropBody number) := by
  unfold dropBody
  split
  · exact .refl v
  · exact ⟨rfl, rfl, Nat.le_of_eq (List.length_modify ..).symm, rfl⟩

theorem touched_dropBody {number : Nat}
    (h : ∀ body, v.bodies[number]? = some body → body.session ≠ place) :
    Touched v place [] (v.dropBody number) := by
  unfold dropBody
  split
  · exact .refl v place
  · rename_i body hbody
    have helsewhere := Touched.elsewhere v (h body hbody) Session.dropStream
    exact ⟨⟨rfl, rfl, helsewhere.opened, rfl⟩, helsewhere.session⟩

/-- A new stream is that of a new session. -/
theorem openBody_stream {now other number : Nat} {headers : List (String × String)}
    (h : (v.openBody now other).1 = .stream headers number) :
    ∀ body, (v.openBody now other).2.bodies[number]? = some body → body.session = other := by
  unfold openBody at h ⊢
  split at h
  · rename_i s hs
    cases h
    intro body hbody
    simp only [List.getElem?_concat_length, Option.some.injEq] at hbody
    rw [← hbody]
  · cases h

theorem touched_openStream (v : Server) (now : Nat) (draw : Draw) (query : String) (place : Nat) :
    Touched v place [] (v.openStream now draw query).2 ∧
      ∀ headers number, (v.openStream now draw query).1 = .stream headers number →
        Touched v place [] ((v.openStream now draw query).2.dropBody number) := by
  unfold openStream
  simp only
  split
  · exact ⟨.refl v place, nofun⟩
  · rename_i other table hcreate
    obtain ⟨hother, -⟩ := SessionTable.create_spec hcreate
    have hcreated := touched_create hcreate place
    have hopened := touched_openBody { v with table } now other place
    have hnew : place < v.table.opened.length → movesIf other place .openStream = [] := fun h => by
      rw [movesIf, if_neg (by omega)]
    have hframed := hcreated.toFramed.trans hopened.toFramed
    have htouched : place < v.table.opened.length →
        Touched v place [] (openBody { v with table } now other).2 := fun h => by
      rw [hnew h] at hopened
      exact hcreated.trans hopened
    refine ⟨.of_exists hframed htouched, fun headers number hreply =>
      .of_exists (hframed.trans (framed_dropBody _ number)) fun h => (htouched h).trans ?_⟩
    refine touched_dropBody fun body hbody => ?_
    rw [openBody_stream hreply body hbody]
    omega

theorem received_handle (v : Server) (now : Nat) (draw : Draw) {r : Http.Request}
    (hfits : r.TargetFits) (place : Nat) :
    Received v place (v.complaints place r) (v.handle now draw r).2 := by
  have hother : v.site.route r.method r.path ≠ .found .messageBox →
      ∀ {v'}, Received v place [] v' → Received v place (v.complaints place r) v' := by
    intro hne v' h
    rw [complaints_eq_nil hne]
    exact h
  obtain ⟨hopened, hdropped⟩ := touched_openStream v now draw r.query place
  unfold handle
  split <;> rename_i hroute
  · exact hother (by simp [hroute]) (.of_touched (.refl v place))
  · exact hother (by simp [hroute]) (.of_touched (.refl v place))
  · refine hother (by simp [hroute]) (.of_touched ?_)
    simp only
    split
    · rename_i headers number _ hreply
      exact hdropped headers number hreply
    · exact hopened
    · exact hopened
  · refine hother (by simp [hroute]) (.of_touched ?_)
    split_ifs
    · exact .refl v place
    · exact hopened
  · exact received_admitPost v place r hfits hroute
  · exact hother (by simp [hroute]) (received_admitExchange v draw place r)
  · exact hother (by simp [hroute]) (.of_touched (.refl v place))

theorem received_receive (v : Server) (now : Nat) (draw : Draw) (r : Http.Request) (place : Nat) :
    Received v place (v.complaints place r) (v.receive now draw r).2 := by
  unfold receive
  split_ifs with hfits
  · exact v.received_handle now draw hfits place
  · rw [complaints_of_long hfits]
    exact .of_touched (.refl v place)

/-! ## What an instance does by itself -/

theorem touched_handOver (v : Server) (place : Nat) :
    Touched v place (v.handovers place) v.handOver := by
  unfold handOver handovers
  cases hslot : v.relaySlot with
  | some slot =>
    simp only
    split
    · rename_i b v' hsettle
      exact (touched_settle? hsettle place).besides ⟨rfl, rfl, Nat.le_refl _, rfl⟩ rfl
    · exact touched_settle?_none ‹_› place
  | none =>
    cases hrelayed : v.relayed with
    | nil => exact .refl v place
    | cons envelope rest =>
      have hdeliver := touched_deliverLocal { v with relayed := rest, relaySlot := none }
        envelope.clientId place envelope.message
      have hfirst : Touched v place [] { v with relayed := rest, relaySlot := none } :=
        (Touched.refl v place).besides ⟨rfl, rfl, Nat.le_refl _, rfl⟩ rfl
      simp only
      split
      · rename_i slot v' heq
        rw [heq] at hdeliver
        exact (hfirst.trans hdeliver).besides ⟨rfl, rfl, Nat.le_refl _, rfl⟩ rfl
      · rename_i handed v' _ heq
        rw [heq] at hdeliver
        exact hfirst.trans hdeliver

theorem touched_readBody (v : Server) (now number place : Nat) :
    Touched v place (if v.reads place number then [.read] else []) (v.readBody now number) := by
  unfold readBody reads
  cases hbody : v.bodies[number]? with
  | none => exact .refl v place
  | some body =>
    simp only
    by_cases hreads : body.attention = .reads
    · have hmoves : (if (decide (body.attention = .reads) && body.session == place) = true then
          [Move.read] else []) = movesIf body.session place .read := by
        simp [hreads, movesIf]
      rw [hmoves, if_neg (not_not.2 hreads)]
      cases hs : v.table.session? body.session with
      | none => exact .of_none hs _
      | some s =>
        have hmodify : Touched v place (movesIf body.session place .read)
            (v.modify body.session fun _ => s.next.2) := .modify v _ place _ fun s₁ hs₁ => by
          rw [hs] at hs₁
          cases hs₁
          rfl
        simp only [Option.map_some]
        split
        · rename_i heq
          cases heq
        · rename_i event s' heq
          rw [Option.some.inj heq] at hmodify
          exact hmodify.besides ⟨rfl, rfl, Nat.le_refl _, rfl⟩ rfl
        · rename_i s' heq
          rw [Option.some.inj heq] at hmodify
          split_ifs
          · exact hmodify.besides ⟨rfl, rfl, Nat.le_refl _, rfl⟩ rfl
          · exact hmodify
        · rename_i s' heq
          rw [Option.some.inj heq] at hmodify
          exact hmodify.besides ⟨rfl, rfl, Nat.le_refl _, rfl⟩ rfl
        · rename_i s' heq
          rw [Option.some.inj heq] at hmodify
          exact hmodify.besides ⟨rfl, rfl, Nat.le_refl _, rfl⟩ rfl
    · have hnone : (decide (body.attention = .reads) && body.session == place) = false := by
        simp [hreads]
      rw [if_pos hreads]
      simp only [hnone, Bool.false_eq_true, if_false]
      exact .refl v place

/-! ## The end of sessions -/

theorem opened_close (t : SessionTable) (other : Nat) :
    (t.close other).opened.length = t.opened.length := by
  unfold SessionTable.close
  split
  · split_ifs
    · rfl
    · unfold SessionTable.remove
      split <;> exact List.length_modify ..
  · rfl

theorem opened_closeAll (places : List Nat) : ∀ t : SessionTable,
    (places.foldl SessionTable.close t).opened.length = t.opened.length := by
  induction places with
  | nil => exact fun _ => rfl
  | cons other rest ih => exact fun t => (ih _).trans (opened_close t other)

theorem session?_remove (t : SessionTable) (other : Nat) :
    (t.remove other).session? place = t.session? place := by
  unfold SessionTable.remove
  split <;> rfl

/-- Closing a session leaves the others alone; it is told to stop, unless it was closed already. -/
theorem session?_close (t : SessionTable) (other : Nat) (hs : t.session? place = some s) :
    (t.close other).session? place = some s ∨
      ∃ s', (t.close other).session? place = some s' ∧ s'.cancelled = true := by
  unfold SessionTable.close
  split
  · rename_i s₁ hs₁
    split_ifs with hclosed
    · exact .inl hs
    · rw [session?_remove, SessionTable.session?_modify, hs, Option.map_some]
      split_ifs with hsame
      · subst hsame
        rw [hs] at hs₁
        cases hs₁
        refine .inr ⟨_, rfl, ?_⟩
        rw [Session.shutDown, if_neg hclosed]
      · exact .inl rfl
  · exact .inl hs

theorem session?_closeAll (places : List Nat) : ∀ (t : SessionTable) {s : Session},
    t.session? place = some s → (places.foldl SessionTable.close t).session? place = some s ∨
      ∃ s', (places.foldl SessionTable.close t).session? place = some s' ∧ s'.cancelled = true := by
  induction places with
  | nil => exact fun t s hs => .inl hs
  | cons other rest ih =>
    intro t s hs
    rcases session?_close t other hs with hsame | ⟨s', hs', hcancelled⟩
    · exact ih _ hsame
    · rcases ih _ hs' with hsame | hagain
      · exact .inr ⟨s', hsame, hcancelled⟩
      · exact .inr hagain

/-! ## Steps -/

theorem map_snd (sender : Option Nat) (moves : List Move) :
    (moves.map (sender, ·)).map Prod.snd = moves := by
  rw [List.map_map]
  exact List.map_id moves

theorem session_exchange (service : Queue.Service σ) (now number : Nat) (queues : σ)
    (hs : v.table.session? place = some s) :
    (v.step service (.exchange now number queues)).table.session? place =
      some (((v.touches service place (.exchange now number queues)).map Prod.snd).foldl
        (fun s move => s.apply v.router move) s) := by
  simp only [step, touches, stepExchange]
  cases hfind : v.exchanges.find? fun e => e.number == number with
  | none => exact hs
  | some e =>
    have htouched := touched_proceed service v now e queues place
    simp only [map_snd]
    split <;> rename_i heq <;> rw [heq] at htouched ⊢ <;> exact htouched.session s hs

theorem session_abort (service : Queue.Service σ) (number : Nat)
    (hs : v.table.session? place = some s) :
    (v.abort number).table.session? place =
      some (((v.touches service place (.abort number)).map Prod.snd).foldl
        (fun s move => s.apply v.router move) s) := by
  simp only [touches, Server.abort]
  cases hfind : v.exchanges.find? fun e => e.number == number with
  | none => exact hs
  | some e =>
    cases hslot : e.slot with
    | none =>
      simp only [hslot, Option.bind_some]
      exact hs
    | some slot =>
      simp only [hslot, Option.bind_some, map_snd]
      exact (touched_abandonSlot v slot place).session s hs

theorem session_watch (t : SessionTable) (other : Nat) (hs : t.session? place = some s) :
    (t.watch other).session? place = some s ∨
      ∃ s', (t.watch other).session? place = some s' ∧ s'.cancelled = true := by
  unfold SessionTable.watch
  split
  · split_ifs
    · exact session?_close t other hs
    · exact .inl hs
  · exact .inl hs

/-- Leaving a stream drops that of its session, and no other. -/
theorem session_dropBody (v : Server) (number : Nat) (hs : v.table.session? place = some s) :
    (v.dropBody number).table.session? place = some s ∨
      (v.dropBody number).table.session? place = some s.dropStream := by
  by_cases hbody : ∀ body, v.bodies[number]? = some body → body.session ≠ place
  · exact .inl ((touched_dropBody hbody).session s hs)
  · simp only [not_forall, not_not] at hbody
    obtain ⟨body, hbody, hsession⟩ := hbody
    refine .inr ?_
    simp only [dropBody, hbody, Server.modify]
    rw [SessionTable.session?_modify, hs, hsession, Option.map_some, if_pos rfl]

/-- As long as nobody shuts a session, a step is for it the moves that the step makes. -/
theorem session_step (service : Queue.Service σ) (st : Step σ)
    (hs : v.table.session? place = some s)
    (hleft : ∀ s', (v.step service st).table.session? place = some s' → s'.Left)
    (hgoing : s.cancelled = false) :
    (v.step service st).table.session? place =
      some (((v.touches service place st).map Prod.snd).foldl
        (fun s move => s.apply v.router move) s) := by
  -- A step that may shut the session has not, so it left it alone.
  have hshut : ∀ t : SessionTable, (v.step service st).table = t →
      (t.session? place = some s ∨ ∃ s', t.session? place = some s' ∧ s'.cancelled = true) →
      (v.step service st).table.session? place = some s := fun t ht h => by
    rw [ht]
    rcases h with hsame | ⟨s', hs', hcancelled⟩
    · exact hsame
    · have hgoing' := (hleft s' (ht ▸ hs')).going
      rw [hcancelled] at hgoing'
      cases hgoing'
  cases st with
  | receive now draw request =>
    obtain ⟨v₁, htouched, hv⟩ := received_receive v now draw request place
    simp only [step, touches, map_snd]
    rcases hv with hv | ⟨purpose, messages, -, hv⟩ <;> rw [hv] <;> exact htouched.session s hs
  | exchange now number queues => exact session_exchange service now number queues hs
  | act signals now a =>
    cases a with
    | pump other =>
      simp only [step, touches, map_snd, act]
      exact (Touched.modify v other place (.pump signals) fun _ _ => rfl).session s hs
    | work other ticket =>
      simp only [step, touches, map_snd, act]
      exact (Touched.modify v other place (.work ticket signals) fun _ _ => rfl).session s hs
    | stopPump other =>
      simp only [step, touches, act, Server.modify]
      rw [SessionTable.session?_modify, hs, Option.map_some]
      simp [hgoing]
    | watch other => exact hshut _ rfl (session_watch _ other hs)
    | read number =>
      have htouched := (touched_readBody v now number place).session s hs
      simp only [step, touches, act]
      split_ifs at htouched ⊢ <;> exact htouched
    | handOver =>
      simp only [step, touches, map_snd, act]
      exact (touched_handOver v place).session s hs
  | abort number => exact session_abort service number hs
  | dropBody number =>
    rcases v.session_dropBody number hs with hsame | hdropped
    · exact hsame
    · exact absurd rfl (hleft _ hdropped).kept
  | startReading number =>
    simp only [step, startReading]
    split
    · split_ifs <;> exact hs
    · exact hs
  | collect number =>
    simp only [step, collect]
    split <;> exact hs
  | relay envelope => exact hs
  | close other => exact hshut _ rfl (session?_close _ other hs)
  | closeAll => exact hshut _ rfl (session?_closeAll _ _ hs)

end Server

end SessionRelay
