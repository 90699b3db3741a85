import SessionRelay.Proofs.Session.Stream
import SessionRelay.Server.Schedule

/-!
# What an instance does to one of its sessions

Each operation of an instance does to the session at a given place no more than some moves of that
session, in order (`Touched`). For an operation that looks for the session of a client, or for a
place in line, the moves are none if it finds another one.
-/

namespace SessionRelay

open Session (Move)

namespace SessionTable

variable {t : SessionTable} {s : Session} {place other : Nat}

theorem session?_modify (t : SessionTable) (other place : Nat) (f : Session → Session) :
    (t.modify other f).session? place =
      (t.session? place).map fun s => if other = place then f s else s := by
  simp only [session?, modify, List.getElem?_modify]
  rfl

theorem lt_of_session? (h : t.session? place = some s) : place < t.opened.length :=
  (List.getElem?_eq_some_iff.1 h).1

/-- A new session comes after all others, with nothing on its queues. -/
theorem create_spec {kind : StreamKind} {parent : String} {draw : Draw} {t' : SessionTable}
    (h : t.create kind parent draw = .ok (place, t')) : place = t.opened.length ∧
      ∃ s : Session, t'.opened = t.opened ++ [s] ∧ s.jobs = [] ∧ s.inFlight = {} ∧
        s.transport.outbound = {} ∧ s.transport.inbound.messages = [] ∧
        ∃ token, s.transport.framing = kind.framing token := by
  unfold create at h
  cases htoken : t.codec.format draw.nonce ⟨draw.clientId, t.instanceId⟩ t.codec.encrypts with
  | error e =>
    rw [htoken] at h
    cases h
  | ok token =>
    rw [htoken] at h
    cases h
    exact ⟨rfl, _, rfl, rfl, rfl, rfl, rfl, token, rfl⟩

theorem session?_append (t : SessionTable) {opened : List Session} {t' : SessionTable}
    (h : t'.opened = t.opened ++ opened) (hs : t.session? place = some s) :
    t'.session? place = some s := by
  rw [session?, h, List.getElem?_append_left (lt_of_session? hs)]
  exact hs

end SessionTable

namespace Server

variable {σ : Type} {v v' v'' : Server} {s s' : Session} {place other : Nat}
  {moves more : List Move}

/-- The second server has the exchanges of the first, and all its sessions. -/
structure Framed (v v' : Server) : Prop where
  exchanges : v'.exchanges = v.exchanges
  nextExchange : v'.nextExchange = v.nextExchange
  opened : v.table.opened.length ≤ v'.table.opened.length
  router : v'.router = v.router

theorem Framed.refl (v : Server) : Framed v v := ⟨rfl, rfl, Nat.le_refl _, rfl⟩

theorem Framed.trans (h : Framed v v') (h' : Framed v' v'') : Framed v v'' where
  exchanges := h'.exchanges.trans h.exchanges
  nextExchange := h'.nextExchange.trans h.nextExchange
  opened := Nat.le_trans h.opened h'.opened
  router := h'.router.trans h.router

/-- The second server is the first after some moves of the session at a place, and after who knows
what at other places. -/
structure Touched (v : Server) (place : Nat) (moves : List Move) (v' : Server) : Prop
    extends Framed v v' where
  session : ∀ s, v.table.session? place = some s →
    v'.table.session? place = some (moves.foldl (fun s move => s.apply v.router move) s)

theorem Touched.refl (v : Server) (place : Nat) : Touched v place [] v :=
  ⟨.refl v, fun _ h => h⟩

theorem Touched.trans (h : Touched v place moves v') (h' : Touched v' place more v'') :
    Touched v place (moves ++ more) v'' where
  toFramed := h.toFramed.trans h'.toFramed
  session := fun s hs => by
    rw [h'.session _ (h.session s hs), List.foldl_append, h.router]

/-- What is done besides may change everything but the table and the exchanges. -/
theorem Touched.besides (h : Touched v place moves v') (hframe : Framed v' v'')
    (htable : v''.table = v'.table) : Touched v place moves v'' where
  toFramed := h.toFramed.trans hframe
  session := fun s hs => htable ▸ h.session s hs

theorem Touched.of_exists (h : Framed v v')
    (htouched : place < v.table.opened.length → Touched v place moves v') :
    Touched v place moves v' :=
  ⟨h, fun s hs => (htouched (SessionTable.lt_of_session? hs)).session s hs⟩

/-- A move that is made if the session is the one at the place. -/
def movesIf (other place : Nat) (move : Move) : List Move := if other = place then [move] else []

theorem Touched.modify (v : Server) (other place : Nat) (move : Move) {f : Session → Session}
    (hf : ∀ s, v.table.session? other = some s → f s = s.apply v.router move) :
    Touched v place (movesIf other place move) (v.modify other f) where
  session := fun s hs => by
    rw [Server.modify, SessionTable.session?_modify, hs, Option.map_some, movesIf]
    split_ifs with h
    · rw [hf s (h ▸ hs)]
      rfl
    · rfl
  exchanges := rfl
  nextExchange := rfl
  opened := Nat.le_of_eq (List.length_modify ..).symm
  router := rfl

theorem Touched.elsewhere (v : Server) (h : other ≠ place) (f : Session → Session) :
    Touched v place [] (v.modify other f) where
  session := fun s hs => by
    rw [Server.modify, SessionTable.session?_modify, hs, Option.map_some, if_neg h]
    rfl
  exchanges := rfl
  nextExchange := rfl
  opened := Nat.le_of_eq (List.length_modify ..).symm
  router := rfl

/-- An operation on a session that is not there. -/
theorem Touched.of_none (h : v.table.session? other = none) (move : Move) :
    Touched v place (movesIf other place move) v := by
  unfold movesIf
  split_ifs with hsame
  · refine ⟨.refl v, fun s hs => ?_⟩
    rw [← hsame, h] at hs
    cases hs
  · exact .refl v place

/-- A move of a session that changes nothing. -/
theorem Touched.of_same {move : Move}
    (h : ∀ s, v.table.session? other = some s → s.apply v.router move = s) :
    Touched v place (movesIf other place move) v := by
  unfold movesIf
  split_ifs with hsame
  · exact ⟨.refl v, fun s hs => hs.trans (congrArg some (h s (hsame ▸ hs)).symm)⟩
  · exact .refl v place

/-! ## Messages for a session -/

theorem touched_offer (v : Server) (other place : Nat) (m : Rpc.Message) :
    Touched v place (movesIf other place (.offer m)) (v.offer other m).2 := by
  unfold offer
  split
  · exact .of_none ‹_› _
  · rename_i s hs
    refine .modify v other place _ fun s' hs' => ?_
    rw [hs] at hs'
    cases hs'
    rfl

/-- The moves of a message for a client. -/
def movesFor (v : Server) (clientId : String) (place : Nat) (m : Rpc.Message) : List Move :=
  if v.table.find? clientId = some place then [.offer m] else []

theorem touched_deliverLocal (v : Server) (clientId : String) (place : Nat) (m : Rpc.Message) :
    Touched v place (v.movesFor clientId place m) (v.deliverLocal clientId m).2 := by
  have hoffer : ∀ other, v.table.find? clientId = some other →
      Touched v place (v.movesFor clientId place m) (v.offer other m).2 := fun other hfind => by
    have hmoves : v.movesFor clientId place m = movesIf other place (.offer m) := by
      simp [movesFor, movesIf, hfind]
    exact hmoves ▸ v.touched_offer other place m
  unfold deliverLocal
  split
  · rename_i hfind
    have hmoves : v.movesFor clientId place m = [] := by simp [movesFor, hfind]
    exact hmoves ▸ .refl v place
  · rename_i other hfind
    split <;> rename_i v' heq <;>
      exact (congrArg Prod.snd heq : _ = v') ▸ hoffer other hfind

theorem enter_eq_self {q : Inbound} {ticket : Nat} (h : q.standing ticket ≠ .admitted) :
    q.enter ticket = q := by
  unfold Inbound.standing at h
  unfold Inbound.enter
  split
  · rename_i w hw
    rw [hw] at h
    split_ifs with hadmitted
    · simp [hadmitted] at h
    · rfl
  · rfl

theorem apply_enter_eq_self {router : Router} {ticket : Nat}
    (h : s.transport.inbound.standing ticket ≠ .admitted) : s.apply router (.enter ticket) = s := by
  rw [Session.apply, Session.mapInbound, enter_eq_self h]

theorem touched_settle? {slot : Slot} {b : Bool} (h : v.settle? slot = some (b, v')) (place : Nat) :
    Touched v place (movesIf slot.session place (.enter slot.ticket)) v' := by
  unfold settle? at h
  split at h
  · cases h
    exact .of_none ‹_› _
  · rename_i s hs
    split at h
    · cases h
    · cases h
      exact .modify v _ place _ fun _ _ => rfl
    · rename_i hstanding
      cases h
      refine .of_same fun s' hs' => apply_enter_eq_self ?_
      rw [hs] at hs'
      cases hs'
      rw [hstanding]
      exact nofun

theorem touched_settle?_none {slot : Slot} (h : v.settle? slot = none) (place : Nat) :
    Touched v place (movesIf slot.session place (.enter slot.ticket)) v := by
  unfold settle? at h
  split at h
  · cases h
  · rename_i s hs
    split at h
    · rename_i hstanding
      refine .of_same fun s' hs' => apply_enter_eq_self ?_
      rw [hs] at hs'
      cases hs'
      rw [hstanding]
      exact nofun
    · cases h
    · cases h

theorem touched_abandonSlot (v : Server) (slot : Slot) (place : Nat) :
    Touched v place (movesIf slot.session place (.leave slot.ticket)) (v.abandonSlot slot) :=
  .modify v _ place _ fun _ _ => rfl

/-! ## Streams -/

theorem touched_openBody (v : Server) (now other place : Nat) :
    Touched v place (movesIf other place .openStream) (v.openBody now other).2 := by
  unfold openBody
  split
  · rename_i s' hopened
    obtain ⟨s, hs, hevents⟩ := Option.bind_eq_some_iff.1 hopened
    have hmodify : Touched v place (movesIf other place .openStream) (v.modify other fun _ => s') :=
      .modify v other place _ fun s₁ hs₁ => by
        rw [hs] at hs₁
        cases hs₁
        simp only [Session.apply, hevents, Option.getD_some]
    exact ⟨⟨rfl, rfl, hmodify.opened, rfl⟩, hmodify.session⟩
  · rename_i hnone
    refine .of_same fun s hs => ?_
    rw [hs, Option.bind_some] at hnone
    simp only [Session.apply, hnone, Option.getD_none]

theorem touched_openExchange (v : Server) (now other place : Nat) :
    Touched v place (movesIf other place .openStream) (v.openExchange now other).2 := by
  have h := v.touched_openBody now other place
  unfold openExchange
  simp only
  split <;> exact h

/-! ## Exchanges -/

/-- The moves of a message that an exchange delivers. -/
def movesOf (v : Server) (e : Exchange) (place : Nat) (m : Rpc.Message) : List Move :=
  match e.purpose with
  | .post client | .route client =>
    if client.isLocal v.instanceId then v.movesFor client.clientId place m else []
  | .feed other => movesIf other place (.offer m)

theorem touched_deliver (service : Queue.Service σ) (v : Server) (client : ClientState)
    (place : Nat) (m : Rpc.Message) (queues : σ) :
    Touched v place (if client.isLocal v.instanceId then v.movesFor client.clientId place m else [])
      (v.deliver service client m queues).2.1 := by
  unfold deliver
  split_ifs
  · exact v.touched_deliverLocal client.clientId place m
  · split <;> exact .refl v place
  · exact .refl v place

theorem touched_deliverFor (service : Queue.Service σ) (v : Server) (e : Exchange) (place : Nat)
    (m : Rpc.Message) (queues : σ) :
    Touched v place (v.movesOf e place m) (v.deliverFor service e m queues).2.1 := by
  obtain ⟨number, purpose, rest, slot⟩ := e
  cases purpose with
  | post client => exact touched_deliver service v client place m queues
  | route client => exact touched_deliver service v client place m queues
  | feed other =>
    have hoffer := v.touched_offer other place m
    simp only [deliverFor]
    split <;> rename_i v' heq <;> rw [heq] at hoffer <;> exact hoffer

/-- What the next delivery of an exchange does to the session at a place. -/
def deliveries (v : Server) (e : Exchange) (place : Nat) : List Move :=
  match e.slot, e.rest with
  | some slot, _ => movesIf slot.session place (.enter slot.ticket)
  | none, m :: _ => v.movesOf e place m
  | none, [] => []

/-- What the reply of an exchange does to the session at a place: an exchange that has a session of
its own replies with its stream. -/
def openings (e : Exchange) (place : Nat) : Progress → List Move
  | .replies _ =>
    match e.purpose with
    | .feed other => movesIf other place .openStream
    | _ => []
  | _ => []

theorem touched_complete (v : Server) (now : Nat) (e : Exchange) (place : Nat) :
    Touched v place (openings e place (.replies (v.complete now e).1)) (v.complete now e).2 := by
  obtain ⟨number, purpose, rest, slot⟩ := e
  cases purpose with
  | post client => exact .refl v place
  | route client => exact .refl v place
  | feed other => exact v.touched_openExchange now other place

theorem touched_fail (v : Server) (now : Nat) (e : Exchange) (fault : Fault) (place : Nat) :
    Touched v place (openings e place (v.fail now e fault).1) (v.fail now e fault).2 := by
  obtain ⟨number, purpose, rest, slot⟩ := e
  cases purpose with
  | post client => cases fault <;> exact .refl v place
  | route client =>
    cases fault with
    | sessionNotFound clientId =>
      simp only [fail]
      split_ifs <;> exact .refl v place
    | _ => exact .refl v place
  | feed other => cases fault <;> exact v.touched_openExchange now other place

theorem touched_proceed (service : Queue.Service σ) (v : Server) (now : Nat) (e : Exchange)
    (queues : σ) (place : Nat) :
    Touched v place
      (v.deliveries e place ++ openings e place (v.proceed service now e queues).1)
      (v.proceed service now e queues).2.1 := by
  obtain ⟨number, purpose, rest, slot⟩ := e
  cases slot with
  | some slot =>
    simp only [proceed, deliveries]
    split
    · exact (touched_settle?_none ‹_› place).trans (.refl v place)
    · exact (touched_settle? ‹_› place).trans (.refl _ place)
    · exact (touched_settle? ‹_› place).trans (touched_fail _ now _ _ place)
  | none =>
    cases rest with
    | nil => exact v.touched_complete now _ place
    | cons m rest =>
      have hdeliver := touched_deliverFor service v ⟨number, purpose, rest, none⟩ place m queues
      simp only [proceed, deliveries]
      split
      · rename_i v' queues' heq
        rw [heq] at hdeliver
        exact hdeliver.trans (.refl v' place)
      · rename_i slot v' queues' heq
        rw [heq] at hdeliver
        exact hdeliver.trans (.refl v' place)
      · rename_i fault v' queues' heq
        rw [heq] at hdeliver
        exact hdeliver.trans (touched_fail v' now ⟨number, purpose, rest, none⟩ fault place)

end Server

end SessionRelay
