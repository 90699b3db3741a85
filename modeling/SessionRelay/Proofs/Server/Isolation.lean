import SessionRelay.Proofs.Server.Happening
import SessionRelay.Proofs.Server.Meddling

/-!
# Sessions are isolated

Whatever happens at an instance leaves all sessions alone that it does not name. So what the client
of a session reads depends on what is done to that session and on what the work on its own requests
comes to, and on nothing else (`sessions_are_isolated`).
-/

namespace SessionRelay

open Session (Move Doing Deed)

namespace Session

/-- Nothing is read unless the client reads. -/
theorem readings_course_eq_nil (router : Router) : ∀ (doings : List Doing) (s s' : Session),
    (∀ doing ∈ doings, doing ≠ .move .read) → s'.readings (s.course router doings) = []
  | [], _, _, _ => rfl
  | doing :: rest, s, s', hquiet => by
    obtain ⟨hdoing, hrest⟩ := List.forall_mem_cons.1 hquiet
    have hnone : (doing.deed router s).reading? s' = none := by
      cases doing with
      | move move =>
        cases move with
        | read => exact absurd rfl hdoing
        | _ => rfl
      | _ => rfl
    rw [course, readings, hnone, readings_course_eq_nil router rest _ _ hrest]
    rfl

end Session

namespace Server

variable {σ : Type} {v v' v'' : Server} {s : Session} {place other number : Nat}

/-! ## What is left alone -/

/-- The second server has the entries and the streams of the first for the session at a place. -/
structure Beside (v : Server) (place : Nat) (v' : Server) : Prop where
  entries : ∀ key, (key, place) ∈ v'.table.live ↔ (key, place) ∈ v.table.live
  streams : ∀ (number : Nat) (body : EventBody), body.session = place →
    (v'.bodies[number]? = some body ↔ v.bodies[number]? = some body)

namespace Beside

theorem of_same (hlive : v'.table.live = v.table.live) (hbodies : v'.bodies = v.bodies) :
    Beside v place v' where
  entries := fun _ => by rw [hlive]
  streams := fun _ _ _ => by rw [hbodies]

theorem refl (v : Server) (place : Nat) : Beside v place v := .of_same rfl rfl

theorem trans (h : Beside v place v') (h' : Beside v' place v'') : Beside v place v'' where
  entries := fun key => (h'.entries key).trans (h.entries key)
  streams := fun number body hbody =>
    (h'.streams number body hbody).trans (h.streams number body hbody)

/-- A stream of another session changes. -/
theorem set {body : EventBody} (hlive : v'.table.live = v.table.live)
    (hbodies : v'.bodies = v.bodies.set number body) (hnot : ¬ v.Streams place number)
    (hbody : body.session ≠ place) : Beside v place v' where
  entries := fun _ => by rw [hlive]
  streams := fun k old hold => by
    rw [hbodies, List.getElem?_set]
    split_ifs with hk hlt
    · subst hk
      refine ⟨fun h => ?_, fun h => absurd ⟨old, h, hold⟩ hnot⟩
      exact absurd (Option.some.inj h ▸ hold) hbody
    · subst hk
      simp [List.getElem?_eq_none (Nat.le_of_not_lt hlt)]
    · rfl

/-- Another session gets a stream. -/
theorem append {body : EventBody} (hlive : v'.table.live = v.table.live)
    (hbodies : v'.bodies = v.bodies ++ [body]) (hbody : body.session ≠ place) :
    Beside v place v' where
  entries := fun _ => by rw [hlive]
  streams := fun k old hold => by
    rw [hbodies, List.getElem?_append]
    split_ifs with hk
    · rfl
    · rw [List.getElem?_eq_none (Nat.le_of_not_lt hk), List.getElem?_singleton]
      split_ifs
      · simp only [Option.some.injEq, iff_false]
        rintro rfl
        exact hbody hold
      · rfl

end Beside

theorem beside_offer (v : Server) (other : Nat) (m : Rpc.Message) (place : Nat) :
    Beside v place (v.offer other m).2 := by
  unfold offer
  split
  · exact .refl v place
  · exact .of_same rfl rfl

theorem beside_deliverLocal (v : Server) (clientId : String) (m : Rpc.Message) (place : Nat) :
    Beside v place (v.deliverLocal clientId m).2 := by
  unfold deliverLocal
  split
  · exact .refl v place
  · rename_i other _
    have hoffer := v.beside_offer other m place
    split <;> rename_i heq <;> rw [heq] at hoffer <;> exact hoffer

theorem beside_deliver (service : Queue.Service σ) (v : Server) (client : ClientState)
    (m : Rpc.Message) (queues : σ) (place : Nat) :
    Beside v place (v.deliver service client m queues).2.1 := by
  unfold deliver
  split_ifs
  · exact v.beside_deliverLocal client.clientId m place
  · split <;> exact .refl v place
  · exact .refl v place

theorem beside_settle? {slot : Slot} {b : Bool} (h : v.settle? slot = some (b, v')) (place : Nat) :
    Beside v place v' := by
  unfold settle? at h
  split at h
  · cases h
    exact .refl v place
  · split at h
    · cases h
    · cases h
      exact .of_same rfl rfl
    · cases h
      exact .refl v place

theorem beside_handOver (v : Server) (place : Nat) : Beside v place v.handOver := by
  unfold handOver
  split
  · split
    · rename_i hsettle
      exact (beside_settle? hsettle place).trans (.of_same rfl rfl)
    · exact .refl v place
  · split
    · exact .refl v place
    · rename_i envelope rest _
      have htaken : Beside v place { v with relayed := rest } := .of_same rfl rfl
      have hdeliver := htaken.trans (beside_deliverLocal _ envelope.clientId envelope.message place)
      split <;> rename_i heq
      · rw [heq] at hdeliver
        exact hdeliver.trans (.of_same rfl rfl)
      · rw [heq] at hdeliver
        exact hdeliver

theorem beside_rejectBody (v : Server) (client : ClientState) (id : Option Rpc.Id)
    (error : Rpc.ErrorObject) (place : Nat) : Beside v place (v.rejectBody client id error).2 := by
  unfold rejectBody
  split_ifs
  · split
    · exact .refl v place
    · simp only
      split <;> exact .of_same rfl rfl
  · exact .refl v place

theorem beside_openBody (v : Server) (now : Nat) (h : other ≠ place) :
    Beside v place (v.openBody now other).2 := by
  unfold openBody
  split
  · exact .append rfl rfl h
  · exact .refl v place

theorem beside_openExchange (v : Server) (now : Nat) (h : other ≠ place) :
    Beside v place (v.openExchange now other).2 := by
  have hopened := v.beside_openBody now h
  unfold openExchange
  simp only
  split <;> exact hopened

theorem beside_create {kind : StreamKind} {parent : String} {draw : Draw} {table : SessionTable}
    (hcreate : v.table.create kind parent draw = .ok (other, table))
    (hs : v.table.session? place = some s) (hnot : (draw.clientId, place) ∉ v.table.live) :
    Beside v place { v with table } := by
  obtain ⟨new, hnew, rfl⟩ := SessionTable.create_opens hcreate
  have hlt := SessionTable.lt_of_session? hs
  refine ⟨fun key => ?_, fun _ _ _ => .rfl⟩
  simp only [SessionTable.enter, hnew.clientId, List.mem_append, List.mem_filter, bne_iff_ne,
    List.mem_singleton, Prod.mk.injEq]
  constructor
  · rintro (⟨hlive, -⟩ | ⟨-, rfl⟩)
    · exact hlive
    · exact absurd hlt (Nat.lt_irrefl _)
  · exact fun hlive => .inl ⟨hlive, fun hkey => hnot (hkey ▸ hlive)⟩

theorem beside_dropBody (hnot : ¬ v.Streams place number) :
    Beside v place (v.dropBody number) := by
  unfold dropBody
  split
  · exact .refl v place
  · rename_i body hbody
    exact .set rfl rfl hnot fun h => hnot ⟨body, hbody, h⟩

theorem beside_openStream (v : Server) (now : Nat) {draw : Draw} (query : String)
    (hs : v.table.session? place = some s) (hnot : (draw.clientId, place) ∉ v.table.live) :
    Beside v place (v.openStream now draw query).2 ∧
      ∀ headers number, (v.openStream now draw query).1 = .stream headers number →
        Beside v place ((v.openStream now draw query).2.dropBody number) := by
  have hlt := SessionTable.lt_of_session? hs
  unfold openStream
  simp only
  split
  · exact ⟨.refl v place, nofun⟩
  · rename_i other table hcreate
    obtain ⟨hother, -⟩ := SessionTable.create_spec hcreate
    have hne : other ≠ place := by omega
    have hopened := (beside_create hcreate hs hnot).trans
      (beside_openBody { v with table } now hne)
    refine ⟨hopened, fun headers number hreply => hopened.trans (beside_dropBody ?_)⟩
    rintro ⟨body, hbody, hplace⟩
    exact hne ((openBody_stream hreply body hbody).symm.trans hplace)

theorem beside_admitPost (v : Server) (r : Http.Request) (place : Nat) :
    Beside v place (v.admitPost r).2 := by
  unfold admitPost
  split
  · exact .refl v place
  · split
    · exact .refl v place
    · split
      · exact .refl v place
      · split
        · exact .of_same rfl rfl
        · exact beside_rejectBody v _ _ _ place

theorem beside_admitExchange (v : Server) {draw : Draw} (r : Http.Request)
    (hs : v.table.session? place = some s) (hnot : (draw.clientId, place) ∉ v.table.live) :
    Beside v place (v.admitExchange draw r).2 := by
  unfold admitExchange
  split
  · exact .refl v place
  · split_ifs
    · exact .refl v place
    · split
      · exact .refl v place
      · split
        · exact .refl v place
        · split
          · exact .of_same rfl rfl
          · exact .refl v place
          · split
            · exact .refl v place
            · rename_i hcreate
              exact (beside_create hcreate hs hnot).trans (.of_same rfl rfl)

theorem beside_handle (v : Server) (now : Nat) {draw : Draw} (r : Http.Request)
    (hs : v.table.session? place = some s) (hnot : (draw.clientId, place) ∉ v.table.live) :
    Beside v place (v.handle now draw r).2 := by
  obtain ⟨hopened, hdropped⟩ := v.beside_openStream now r.query hs hnot
  unfold handle
  split
  · exact .refl v place
  · exact .refl v place
  · simp only
    split
    · rename_i headers number _ hreply
      exact hdropped headers number hreply
    · exact hopened
    · exact hopened
  · split_ifs
    · exact .refl v place
    · exact hopened
  · exact beside_admitPost v r place
  · exact beside_admitExchange v r hs hnot
  · exact .refl v place

theorem beside_receive (v : Server) (now : Nat) {draw : Draw} (r : Http.Request)
    (hs : v.table.session? place = some s) (hnot : (draw.clientId, place) ∉ v.table.live) :
    Beside v place (v.receive now draw r).2 := by
  unfold receive
  split_ifs
  · exact v.beside_handle now r hs hnot
  · exact .refl v place

theorem beside_complete (v : Server) (now : Nat) {e : Exchange} (h : e.purpose ≠ .feed place) :
    Beside v place (v.complete now e).2 := by
  unfold complete
  split
  · exact .refl v place
  · exact .refl v place
  · rename_i own hpurpose
    exact v.beside_openExchange now fun hplace => h (hplace ▸ hpurpose)

theorem beside_fail (v : Server) (now : Nat) {e : Exchange} (fault : Fault)
    (h : e.purpose ≠ .feed place) : Beside v place (v.fail now e fault).2 := by
  unfold fail
  split
  · exact .refl v place
  · split_ifs <;> exact .refl v place
  · exact .refl v place
  · exact .refl v place
  · rename_i own _ hpurpose
    exact v.beside_openExchange now fun hplace => h (hplace ▸ hpurpose)

theorem beside_deliverFor (service : Queue.Service σ) (v : Server) (e : Exchange) (m : Rpc.Message)
    (queues : σ) (place : Nat) : Beside v place (v.deliverFor service e m queues).2.1 := by
  unfold deliverFor
  split
  · exact beside_deliver service v _ m queues place
  · exact beside_deliver service v _ m queues place
  · rename_i own _
    have hoffer := v.beside_offer own m place
    split <;> rename_i heq <;> rw [heq] at hoffer <;> exact hoffer

theorem beside_proceed (service : Queue.Service σ) (v : Server) (now : Nat) {e : Exchange}
    (queues : σ) (h : e.purpose ≠ .feed place) :
    Beside v place (v.proceed service now e queues).2.1 := by
  unfold proceed
  split
  · split
    · exact .refl v place
    · exact beside_settle? ‹_› place
    · exact (beside_settle? ‹_› place).trans (beside_fail _ now _ h)
  · split
    · exact v.beside_complete now h
    · rename_i m rest _
      have hdeliver := beside_deliverFor service v { e with rest } m queues place
      simp only
      split <;> rename_i heq <;> rw [heq] at hdeliver
      · exact hdeliver
      · exact hdeliver
      · exact hdeliver.trans (beside_fail _ now _ h)

theorem beside_stepExchange (service : Queue.Service σ) (v : Server) (now : Nat) (queues : σ)
    (h : ∀ e, (v.exchanges.find? fun e => e.number == number) = some e →
      e.purpose ≠ .feed place) :
    Beside v place (v.stepExchange service now number queues).2.1 := by
  unfold stepExchange
  split
  · exact .refl v place
  · rename_i e hfind
    have hproceed := v.beside_proceed service now queues (h e hfind)
    split <;> rename_i heq <;> rw [heq] at hproceed
    · exact hproceed.trans (.of_same rfl rfl)
    · exact hproceed
    · exact hproceed.trans (.of_same rfl rfl)

theorem beside_abort (v : Server) (number place : Nat) : Beside v place (v.abort number) := by
  unfold abort
  split
  · exact .refl v place
  · split <;> exact .of_same rfl rfl

theorem beside_readBody (v : Server) (now : Nat) (hnot : ¬ v.Streams place number) :
    Beside v place (v.readBody now number) := by
  unfold readBody
  split
  · exact .refl v place
  · rename_i body hbody
    have hother : body.session ≠ place := fun h => hnot ⟨body, hbody, h⟩
    by_cases hreads : body.attention ≠ .reads
    · rw [if_pos hreads]
      exact .refl v place
    · rw [if_neg hreads]
      split
      · exact .refl v place
      · exact .set rfl rfl hnot hother
      · simp only
        split_ifs
        · exact .set rfl rfl hnot hother
        · exact .of_same rfl rfl
      · exact .set rfl rfl hnot hother
      · exact .set rfl rfl hnot hother

theorem beside_startReading (hnot : ¬ v.Streams place number) :
    Beside v place (v.startReading number) := by
  unfold startReading
  split
  · rename_i body hbody
    split_ifs
    · exact .set rfl rfl hnot fun h => hnot ⟨body, hbody, h⟩
    · exact .refl v place
  · exact .refl v place

theorem beside_collect (hnot : ¬ v.Streams place number) :
    Beside v place (v.collect number).2 := by
  unfold collect
  split
  · rename_i body hbody
    exact .set rfl rfl hnot fun h => hnot ⟨body, hbody, h⟩
  · exact .refl v place

/-- Only the entry of the session itself is taken out. -/
theorem mem_live_remove (t : SessionTable) (h : other ≠ place) (key : String) :
    (key, place) ∈ (t.remove other).live ↔ (key, place) ∈ t.live := by
  cases hs : t.session? other with
  | none => simp only [SessionTable.remove, hs]
  | some s =>
    rw [SessionTable.mem_live_remove hs]
    exact and_iff_left fun hentry => h (Prod.mk.inj hentry).2.symm

theorem mem_live_close (t : SessionTable) (h : other ≠ place) (key : String) :
    (key, place) ∈ (t.close other).live ↔ (key, place) ∈ t.live := by
  unfold SessionTable.close
  split
  · split_ifs
    · rfl
    · exact mem_live_remove _ h key
  · rfl

theorem mem_live_foldl_close (key : String) : ∀ (places : List Nat) (t : SessionTable),
    place ∉ places →
      ((key, place) ∈ (places.foldl SessionTable.close t).live ↔ (key, place) ∈ t.live)
  | [], _, _ => .rfl
  | other :: rest, t, hnot =>
    (mem_live_foldl_close key rest (t.close other) (List.not_mem_of_not_mem_cons hnot)).trans
      (mem_live_close t (List.ne_of_not_mem_cons hnot).symm key)

theorem mem_live_watch (t : SessionTable) (h : other ≠ place) (key : String) :
    (key, place) ∈ (t.watch other).live ↔ (key, place) ∈ t.live := by
  unfold SessionTable.watch
  split
  · split_ifs
    · exact mem_live_close t h key
    · rfl
  · rfl

/-- What happens leaves the entries and the streams of a session alone that it does not name. -/
theorem beside_happen (service : Queue.Service σ) {h : Happening σ}
    (hs : v.table.session? place = some s) (hnot : ¬ v.Names place h) :
    Beside v place (v.happen service h) := by
  cases h with
  | step st =>
    cases st with
    | receive now draw request => exact v.beside_receive now request hs fun h => hnot (.inl h)
    | exchange now number queues =>
      exact v.beside_stepExchange service now queues fun e hfind hpurpose =>
        hnot ⟨e, hfind, .inl hpurpose⟩
    | act signals now a =>
      cases a with
      | pump other => exact .of_same rfl rfl
      | stopPump other => exact .of_same rfl rfl
      | watch other => exact ⟨mem_live_watch v.table hnot, fun _ _ _ => .rfl⟩
      | work other ticket => exact .of_same rfl rfl
      | read number => exact v.beside_readBody now hnot
      | handOver => exact v.beside_handOver place
    | abort number => exact v.beside_abort number place
    | dropBody number => exact beside_dropBody hnot
    | startReading number => exact beside_startReading hnot
    | collect number => exact beside_collect hnot
    | relay envelope => exact .of_same rfl rfl
    | close other => exact ⟨mem_live_close v.table hnot, fun _ _ _ => .rfl⟩
    | closeAll =>
      refine ⟨fun key => mem_live_foldl_close key _ v.table fun hmem => hnot ?_, fun _ _ _ => .rfl⟩
      obtain ⟨entry, hentry, hplace⟩ := List.mem_map.1 hmem
      exact ⟨entry, hentry, hplace⟩
  | deliver client message queues => exact v.beside_deliver service client message queues place
  | settle slot =>
    simp only [happen]
    cases hsettle : v.settle? slot with
    | none => exact .refl v place
    | some settled => exact beside_settle? hsettle place
  | giveUp slot => exact .of_same rfl rfl
  | create kind parent draw =>
    simp only [happen]
    split
    · exact beside_create ‹_› hs hnot
    · exact .refl v place
  | stop other => exact .of_same rfl rfl
  | mark other => exact .of_same rfl rfl
  | dispose other => exact .of_same rfl rfl
  | remove other => exact ⟨mem_live_remove v.table hnot, fun _ _ _ => .rfl⟩
  | endParent name => exact .of_same rfl rfl

/-! ## Runs -/

/-- What the client of the session at a place reads when something happens, if it does. -/
def reading? (v : Server) (place : Nat) : Happening σ → Option Reading
  | .step (.act _ _ (.read number)) =>
    if v.reads place number then (v.table.session? place).map fun s => s.next.1 else none
  | _ => none

section

variable (service : Queue.Service σ) (place : Nat)

/-- What the client of the session at a place reads in a run. -/
def seen : Server → List (Happening σ) → List Reading
  | _, [] => []
  | v, h :: rest => (v.reading? place h).toList ++ seen (v.happen service h) rest

/-- What is done to the session at a place in a run, with what the work on its requests comes to. -/
def course : Server → List (Happening σ) → List Deed
  | _, [] => []
  | v, h :: rest =>
    ((v.table.session? place).map fun s => s.course v.router (v.doings service place h)).getD [] ++
      course (v.happen service h) rest

end

theorem ne_read_of_calm {move : Move} (h : move.Calm) : Doing.move move ≠ .move .read := by
  rintro ⟨⟩
  exact h

theorem ne_read_of_mem_doneIf {doing : Doing} (h : doing ≠ .move .read) :
    ∀ d ∈ doneIf other place doing, d ≠ .move .read := by
  unfold doneIf
  split_ifs
  · exact List.forall_mem_singleton.2 h
  · exact List.forall_mem_nil _

theorem ne_read_of_mem_endings (st : Step σ) : ∀ d ∈ v.endings place st, d ≠ .move .read := by
  unfold endings
  split
  · exact ne_read_of_mem_doneIf nofun
  · exact ne_read_of_mem_doneIf nofun
  · split
    · exact ne_read_of_mem_doneIf nofun
    · exact List.forall_mem_nil _
  · exact ne_read_of_mem_doneIf nofun
  · intro d hd
    obtain ⟨-, -, rfl⟩ := List.mem_map.1 hd
    exact nofun
  · exact List.forall_mem_nil _

theorem ne_read_of_mem_touches (service : Queue.Service σ) {st : Step σ}
    (hread : ∀ signals now number, st ≠ .act signals now (.read number)) :
    ∀ m ∈ (v.touches service place st).map Prod.snd, m ≠ .read := by
  have hcalm : ∀ {moves : List Move}, (∀ m ∈ moves, m.Calm) → ∀ m ∈ moves, m ≠ .read :=
    fun h m hm hread => by have := h m hm; rwa [hread] at this
  have hmoves : ∀ (other : Nat) {move : Move}, move ≠ .read →
      ∀ m ∈ movesIf other place move, m ≠ .read := by
    intro other move hmove
    unfold movesIf
    split_ifs
    · exact List.forall_mem_singleton.2 hmove
    · exact List.forall_mem_nil _
  cases st with
  | receive now draw request =>
    simp only [touches, map_snd, complaints]
    split
    · split_ifs
      · exact List.forall_mem_singleton.2 (by simp)
      · exact List.forall_mem_nil _
    · exact List.forall_mem_nil _
  | exchange now number queues =>
    simp only [touches]
    split
    · rename_i e _
      rw [map_snd]
      refine hcalm fun m hm => ?_
      rcases List.mem_append.1 hm with hm | hm
      · exact calm_deliveries v e place m hm
      · exact calm_openings e place _ m hm
    · exact List.forall_mem_nil _
  | act signals now a =>
    cases a with
    | pump other =>
      rw [touches, map_snd]
      exact hmoves other (by simp)
    | work other ticket =>
      rw [touches, map_snd]
      exact hmoves other (by simp)
    | read number => exact absurd rfl (hread signals now number)
    | handOver =>
      rw [touches, map_snd]
      exact hcalm (calm_handovers v place)
    | stopPump other => exact List.forall_mem_nil _
    | watch other => exact List.forall_mem_nil _
  | abort number =>
    simp only [touches]
    split
    · rename_i slot _
      rw [map_snd]
      exact hmoves slot.session (by simp)
    · exact List.forall_mem_nil _
  | _ => exact List.forall_mem_nil _

/-- Nothing is read of the stream of a session unless its client reads. -/
theorem ne_read_of_mem_doings (service : Queue.Service σ) {h : Happening σ}
    (hread : ∀ signals now number, h ≠ .step (.act signals now (.read number))) :
    ∀ d ∈ v.doings service place h, d ≠ .move .read := by
  cases h with
  | step st =>
    refine List.forall_mem_append.2 ⟨fun d hd => ?_, ne_read_of_mem_endings st⟩
    obtain ⟨touch, htouch, rfl⟩ := List.mem_map.1 hd
    have hmove : touch.2 ≠ .read := ne_read_of_mem_touches service
      (fun signals now number hst => hread signals now number (congrArg _ hst)) _
      (List.mem_map_of_mem htouch)
    exact fun hsame => hmove (Doing.move.inj hsame)
  | deliver client message queues =>
    simp only [doings]
    split_ifs
    · intro d hd
      obtain ⟨m, hm, rfl⟩ := List.mem_map.1 hd
      exact ne_read_of_calm (calm_movesFor v client.clientId place message m hm)
    · exact List.forall_mem_nil _
  | settle slot => exact ne_read_of_mem_doneIf (by simp)
  | giveUp slot => exact ne_read_of_mem_doneIf (by simp)
  | create kind parent draw => exact List.forall_mem_nil _
  | stop other => exact ne_read_of_mem_doneIf (by simp)
  | mark other => exact ne_read_of_mem_doneIf (by simp)
  | dispose other => exact ne_read_of_mem_doneIf (by simp)
  | remove other => exact List.forall_mem_nil _
  | endParent name =>
    simp only [doings]
    split
    · split_ifs
      · exact List.forall_mem_singleton.2 (by simp)
      · exact List.forall_mem_nil _
    · exact List.forall_mem_nil _

theorem readings_happen (service : Queue.Service σ) (h : Happening σ)
    (hs : v.table.session? place = some s) :
    s.outline.readings (s.course v.router (v.doings service place h)) =
      (v.reading? place h).toList := by
  by_cases hread : ∀ signals now number, h ≠ .step (.act signals now (.read number))
  · rw [Session.readings_course_eq_nil _ _ _ _ (ne_read_of_mem_doings service hread)]
    unfold reading?
    split
    · exact absurd rfl (hread _ _ _)
    · rfl
  · simp only [not_forall, not_not] at hread
    obtain ⟨signals, now, number, rfl⟩ := hread
    simp only [doings, touches, endings, List.append_nil, reading?, hs, Option.map_some]
    split_ifs <;> rfl

/-- What a client reads comes from what is done to its session. -/
theorem seen_eq (service : Queue.Service σ) (place : Nat) :
    ∀ (hs : List (Happening σ)) {v : Server} {s : Session}, v.table.session? place = some s →
      seen service place v hs = s.outline.readings (course service place v hs) ∧
        ∃ s', (hs.foldl (happen service) v).table.session? place = some s' ∧
          s'.outline = (course service place v hs).foldl Session.undergo s.outline
  | [], v, s, hs => ⟨rfl, s, hs, rfl⟩
  | h :: rest, v, s, hs => by
    obtain ⟨hseen, s', hs', houtline⟩ :=
      seen_eq service place rest (session_happen service h hs)
    have hafter := Session.outline_course v.router (v.doings service place h) s
    simp only [seen, course, hs, Option.map_some, Option.getD_some]
    refine ⟨?_, s', hs', ?_⟩
    · rw [Session.readings_append, readings_happen service h hs, hseen, hafter]
    · rw [List.foldl_append, houtline, hafter]

/-- Whatever happens at an instance, a session that it does not name stays as it is, with its
entries in the table and its streams; nothing is done to it, and nothing is read of it. So if the
same is done to a session in two runs, and the work on its own requests comes to the same, then its
client reads the same and the session ends up the same, whatever else there is in the two runs. -/
theorem sessions_are_isolated {σ τ : Type} (service : Queue.Service σ)
    (service' : Queue.Service τ) :
    (∀ (v : Server) (h : Happening σ) (place : Nat) (s : Session),
      v.table.session? place = some s → ¬ v.Names place h →
        (v.happen service h).table.session? place = some s ∧
          Beside v place (v.happen service h) ∧
          course service place v [h] = [] ∧ seen service place v [h] = []) ∧
    ∀ (v v' : Server) (place place' : Nat) (s s' : Session) (hs : List (Happening σ))
      (hs' : List (Happening τ)), v.table.session? place = some s →
      v'.table.session? place' = some s' → s.outline = s'.outline →
      course service place v hs = course service' place' v' hs' →
        seen service place v hs = seen service' place' v' hs' ∧
          ((hs.foldl (happen service) v).table.session? place).map Session.outline =
            ((hs'.foldl (happen service') v').table.session? place').map Session.outline := by
  refine ⟨fun v h place s hs hnot => ?_, fun v v' place place' s s' hs hs' hplace hplace' hsame
    hcourse => ?_⟩
  · have hnone := doings_eq_nil service hnot
    have hsession := session_happen service h hs
    have hcourse : course service place v [h] = [] := by
      simp only [course, hs, hnone, Option.map_some, Option.getD_some, List.append_nil]
      rfl
    obtain ⟨hseen, -⟩ := seen_eq service place [h] hs
    rw [hnone] at hsession
    rw [hcourse] at hseen
    exact ⟨hsession, beside_happen service hs hnot, hcourse, hseen⟩
  · obtain ⟨hseen, t, ht, houtline⟩ := seen_eq service place hs hplace
    obtain ⟨hseen', t', ht', houtline'⟩ := seen_eq service' place' hs' hplace'
    rw [hseen, hseen', ht, ht', Option.map_some, Option.map_some, houtline, houtline', hsame,
      hcourse]
    exact ⟨rfl, rfl⟩

/-- A server with a resource whose reading waits for a signal. -/
def signalled : Router where
  registry :=
    { resources :=
        [{ uri := "wait:", handler := fun _ => .await (.signal "go") (.done (.ok (.text ""))) }] }

def asking (clientId : String) (messages : List Rpc.Message) : Session :=
  { (History.opened messages).session with clientId }

/-- Two sessions whose clients ask for the same under the same id; the first then cancels it. -/
def alike : Server where
  router := signalled
  table :=
    { instanceId := "i"
      opened :=
        [asking "a" [.request History.waitRead, .notification History.cancelOne],
          asking "b" [.request History.waitRead]]
      live := [("a", 0), ("b", 1)] }
  bodies := [{ session := 1, attention := .reads }]

def acting (signals : List String) (a : Act) : Happening Queue.Store := .step (.act signals 0 a)

/-- Both requests begin. -/
def begun : List (Happening Queue.Store) :=
  [acting [] (.pump 0), acting [] (.work 0 0), acting [] (.pump 1), acting [] (.work 1 0)]

/-- The request of the second session is answered, and its client reads the response. -/
def answered : List (Happening Queue.Store) :=
  [acting ["go"] (.work 1 0), acting ["go"] (.read 0)]

theorem sessions_are_isolated_under_one_id :
    let v := begun.foldl (happen .ofStore) alike
    (∃ s, v.table.session? 1 = some s ∧ s.inFlight.numbers History.waitRead.id = [0] ∧
      (v.happen .ofStore (acting [] (.pump 0))).table.session? 1 = some s) ∧
    seen .ofStore 1 alike (begun ++ acting [] (.pump 0) :: .step (.close 0) :: answered) =
      seen .ofStore 1 alike (begun.drop 2 ++ answered) ∧
    ∃ m, seen .ofStore 1 alike (begun.drop 2 ++ answered) = [.event (.message m)] := by
  obtain ⟨hframe, hruns⟩ := sessions_are_isolated Queue.Service.ofStore Queue.Service.ofStore
  refine ⟨⟨_, rfl, rfl, (hframe _ (acting [] (.pump 0)) 1 _ rfl ?_).1⟩, ?_, _, rfl⟩
  · exact fun h : 0 = 1 => absurd h (by decide)
  · exact (hruns alike alike 1 1 _ _ _ _ rfl rfl rfl rfl).1

end Server

end SessionRelay
