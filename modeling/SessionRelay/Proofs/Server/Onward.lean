import SessionRelay.Proofs.Server.Seats
import SessionRelay.Proofs.Session.Staying

/-!
# What an instance does without opening or closing a session

Messages that are delivered, work that goes on, clients that read and clients that leave: none of it
opens a session or closes one, none of it changes which exchange feeds which session, and a client
that lets go of a stream leaves a session that is ending (`Onward`). What an exchange does is of this
kind until it is replied to, when it hands out the stream of the session that it has fed
(`proceed_spec`).
-/

namespace SessionRelay

open Session (Stays)

/-- Whether a client still holds its stream. -/
def Attention.holds : Attention → Bool
  | .reads | .waits => true
  | .sawEnd | .left => false

/-- The session that an exchange has for its own. -/
def Purpose.own? : Purpose → Option Nat
  | .feed place => some place
  | _ => none

namespace Server

variable {σ : Type} {v v' v'' : Server} {s : Session} {place number : Nat}

/-- The session that the exchange of a number feeds. -/
def feeds? (v : Server) (number : Nat) : Option Nat :=
  (v.exchange? number).bind fun e => e.purpose.own?

/-- Whether an exchange that is under way feeds the session at a place. -/
def Fed (v : Server) (place : Nat) : Prop := ∃ number, v.feeds? number = some place

/-- Whether a client holds the stream of the session at a place. -/
def Held (v : Server) (place : Nat) : Prop :=
  ∃ body ∈ v.bodies, body.session = place ∧ body.attention.holds = true

/-! ## Going on -/

/-- The second server is the first after something that opens, feeds and closes no session. -/
structure Onward (v v' : Server) : Prop where
  live : v'.table.live = v.table.live
  feeds : ∀ number, v'.feeds? number = v.feeds? number
  sessions : ∀ place, Option.Rel Stays (v.table.session? place) (v'.table.session? place)
  bodies : ∀ body' ∈ v'.bodies, ∃ body ∈ v.bodies, body'.session = body.session
  held : ∀ place, v.Held place →
    v'.Held place ∨ ∀ s, v'.table.session? place = some s → s.Ending

theorem feeds?_of_exchanges (h : v'.exchanges = v.exchanges) (number : Nat) :
    v'.feeds? number = v.feeds? number := by
  rw [feeds?, exchange?, h, feeds?, exchange?]

theorem rel_refl : ∀ o : Option Session, Option.Rel Stays o o
  | none => .none
  | some s => .some (.refl s)

namespace Onward

theorem forth (h : Onward v v') (hs : v.table.session? place = some s) :
    ∃ s', v'.table.session? place = some s' ∧ s.Stays s' := by
  have hrel := h.sessions place
  rw [hs] at hrel
  cases hrel' : v'.table.session? place with
  | none => rw [hrel'] at hrel; cases hrel
  | some s' =>
    rw [hrel'] at hrel
    cases hrel with
    | some hstays => exact ⟨s', rfl, hstays⟩

theorem back {s' : Session} (h : Onward v v') (hs' : v'.table.session? place = some s') :
    ∃ s, v.table.session? place = some s ∧ s.Stays s' := by
  have hrel := h.sessions place
  rw [hs'] at hrel
  cases hs : v.table.session? place with
  | none => rw [hs] at hrel; cases hrel
  | some s =>
    rw [hs] at hrel
    cases hrel with
    | some hstays => exact ⟨s, rfl, hstays⟩

/-- Who the bodies belong to, and who holds them, is as before. -/
theorem of_bodies (hlive : v'.table.live = v.table.live) (hexchanges : v'.exchanges = v.exchanges)
    (hsessions : ∀ place, Option.Rel Stays (v.table.session? place) (v'.table.session? place))
    (hbodies : v'.bodies = v.bodies) : Onward v v' where
  live := hlive
  feeds := feeds?_of_exchanges hexchanges
  sessions := hsessions
  bodies := fun body hbody => ⟨body, hbodies ▸ hbody, rfl⟩
  held := fun place h => .inl (by rwa [Held, hbodies])

theorem of_table (htable : v'.table = v.table) (hexchanges : v'.exchanges = v.exchanges)
    (hbodies : v'.bodies = v.bodies) : Onward v v' :=
  .of_bodies (by rw [htable]) hexchanges (fun place => by rw [htable]; exact rel_refl _) hbodies

theorem refl (v : Server) : Onward v v := .of_table rfl rfl rfl

theorem trans (h : Onward v v') (h' : Onward v' v'') : Onward v v'' where
  live := h'.live.trans h.live
  feeds := fun number => (h'.feeds number).trans (h.feeds number)
  sessions := fun place => by
    cases hs : v.table.session? place with
    | none =>
      cases hs'' : v''.table.session? place with
      | none => exact .none
      | some s'' =>
        obtain ⟨s', hs', -⟩ := h'.back hs''
        obtain ⟨s, hs₁, -⟩ := h.back hs'
        cases hs.symm.trans hs₁
    | some s =>
      obtain ⟨s', hs', hstays⟩ := h.forth hs
      obtain ⟨s'', hs'', hstays'⟩ := h'.forth hs'
      rw [hs'']
      exact .some (hstays.trans hstays')
  bodies := fun body'' hbody'' => by
    obtain ⟨body', hbody', hsession'⟩ := h'.bodies body'' hbody''
    obtain ⟨body, hbody, hsession⟩ := h.bodies body' hbody'
    exact ⟨body, hbody, hsession'.trans hsession⟩
  held := fun place hheld => by
    rcases h.held place hheld with hheld' | hending
    · exact h'.held place hheld'
    · refine .inr fun s'' hs'' => ?_
      obtain ⟨s', hs', hstays⟩ := h'.back hs''
      exact hstays.ending (hending s' hs')

end Onward

theorem rel_modify (t : SessionTable) (other : Nat) {f : Session → Session}
    (h : ∀ s, t.session? other = some s → s.Stays (f s)) (place : Nat) :
    Option.Rel Stays (t.session? place) ((t.modify other f).session? place) := by
  rw [SessionTable.session?_modify]
  cases hs : t.session? place with
  | none => exact .none
  | some s =>
    rw [Option.map_some]
    split_ifs with hplace
    · exact .some (h s (hplace ▸ hs))
    · exact .some (.refl s)

theorem onward_modify (v : Server) (other : Nat) {f : Session → Session}
    (h : ∀ s, v.table.session? other = some s → s.Stays (f s)) : Onward v (v.modify other f) :=
  .of_bodies rfl rfl (rel_modify v.table other h) rfl

/-! ### Messages -/

theorem onward_offer (v : Server) (other : Nat) (m : Rpc.Message) :
    Onward v (v.offer other m).2 := by
  unfold offer
  split
  · exact .refl v
  · rename_i s hs
    refine v.onward_modify other fun s₁ hs₁ => ?_
    obtain rfl := Option.some.inj (hs.symm.trans hs₁)
    exact s.stays_apply v.router (.offer m) nofun

theorem onward_deliverLocal (v : Server) (clientId : String) (m : Rpc.Message) :
    Onward v (v.deliverLocal clientId m).2 := by
  unfold deliverLocal
  split
  · exact .refl v
  · rename_i other _
    have hoffer := v.onward_offer other m
    split <;> rename_i heq <;> rw [heq] at hoffer <;> exact hoffer

theorem onward_deliver (service : Queue.Service σ) (v : Server) (client : ClientState)
    (m : Rpc.Message) (queues : σ) : Onward v (v.deliver service client m queues).2.1 := by
  unfold deliver
  split_ifs
  · exact v.onward_deliverLocal client.clientId m
  · split <;> exact .refl v
  · exact .refl v

theorem onward_settle? {slot : Slot} {b : Bool} (h : v.settle? slot = some (b, v')) :
    Onward v v' := by
  unfold settle? at h
  split at h
  · cases h
    exact .refl v
  · split at h <;> cases h
    · exact v.onward_modify _ fun s _ => s.stays_apply v.router (.enter slot.ticket) nofun
    · exact .refl v

theorem onward_abandonSlot (v : Server) (slot : Slot) : Onward v (v.abandonSlot slot) :=
  v.onward_modify _ fun s _ => s.stays_apply v.router (.leave slot.ticket) nofun

theorem onward_handOver (v : Server) : Onward v v.handOver := by
  unfold handOver
  split
  · split
    · rename_i hsettle
      exact (onward_settle? hsettle).trans (.of_table rfl rfl rfl)
    · exact .refl v
  · split
    · exact .refl v
    · rename_i envelope rest _
      have htaken : Onward v { v with relayed := rest } := .of_table rfl rfl rfl
      have hdeliver := htaken.trans (onward_deliverLocal _ envelope.clientId envelope.message)
      split <;> rename_i heq
      · rw [heq] at hdeliver
        exact hdeliver.trans (.of_table rfl rfl rfl)
      · rw [heq] at hdeliver
        exact hdeliver

theorem onward_deliverFor (service : Queue.Service σ) (v : Server) (e : Exchange) (m : Rpc.Message)
    (queues : σ) : Onward v (v.deliverFor service e m queues).2.1 := by
  unfold deliverFor
  split
  · exact onward_deliver service v _ m queues
  · exact onward_deliver service v _ m queues
  · rename_i own _
    have hoffer := v.onward_offer own m
    split <;> rename_i heq <;> rw [heq] at hoffer <;> exact hoffer

theorem onward_rejectBody (v : Server) (client : ClientState) (id : Option Rpc.Id)
    (error : Rpc.ErrorObject) : Onward v (v.rejectBody client id error).2 := by
  unfold rejectBody
  split_ifs
  · split
    · exact .refl v
    · rename_i other _
      simp only
      split
      · rename_i s' hsent
        obtain ⟨s, hs, hsend⟩ := Option.bind_eq_some_iff.1 hsent
        refine v.onward_modify other fun s₁ hs₁ => ?_
        obtain rfl := Option.some.inj (hs.symm.trans hs₁)
        have hstays := s.stays_apply v.router (.reject id error) nofun
        rwa [Session.apply, hsend, Option.getD_some] at hstays
      · exact .refl v
  · exact .refl v

/-! ### Exchanges -/

theorem own?_of_exchange {e : Exchange} (h : v.exchange? number = some e) :
    v.feeds? number = e.purpose.own? := by
  rw [feeds?, h, Option.bind_some]

/-- An exchange that goes on feeds what it fed. -/
theorem onward_setExchange {e e' : Exchange} (h : v.exchange? number = some e)
    (hnumber : e'.number = number) (hpurpose : e'.purpose = e.purpose) :
    Onward v (v.setExchange e') := by
  refine ⟨rfl, fun k => ?_, fun _ => rel_refl _, fun body hbody => ⟨body, hbody, rfl⟩,
    fun _ => .inl⟩
  by_cases hk : k = number
  · subst hk
    rw [own?_of_exchange (exchange?_setExchange_self h hnumber), own?_of_exchange h, hpurpose]
  · rw [feeds?, exchange?_setExchange_ne (by rw [hnumber]; exact Ne.symm hk), feeds?]

theorem feeds?_removeExchange (v : Server) (number k : Nat) :
    (v.removeExchange number).feeds? k = if k = number then none else v.feeds? k := by
  split_ifs with hk
  · rw [hk, feeds?, exchange?_removeExchange_self, Option.bind_none]
  · rw [feeds?, exchange?_removeExchange_ne _ (Ne.symm hk), feeds?]

theorem onward_removeExchange (h : v.feeds? number = none) :
    Onward v (v.removeExchange number) := by
  refine ⟨rfl, fun k => ?_, fun _ => rel_refl _, fun body hbody => ⟨body, hbody, rfl⟩,
    fun _ => .inl⟩
  rw [feeds?_removeExchange]
  split_ifs with hk
  · rw [hk, h]
  · rfl

theorem feeds?_start (ho : v.Orderly) (purpose : Purpose) (messages : List Rpc.Message)
    (k : Nat) : (v.start purpose messages).2.feeds? k =
      if k = v.nextExchange then purpose.own? else v.feeds? k := by
  split_ifs with hk
  · rw [hk, own?_of_exchange (exchange?_start_self ho purpose messages)]
  · rcases v.exchange?_start purpose messages k with h | ⟨-, hnew, -⟩
    · rw [feeds?, h, feeds?]
    · exact absurd hnew hk

theorem feeds?_next (ho : v.Orderly) : v.feeds? v.nextExchange = none := by
  have hnone : v.exchange? v.nextExchange = none := by
    refine List.find?_eq_none.2 fun e he => ?_
    have hlt := ho.number_lt e he
    simp only [beq_iff_eq]
    omega
  rw [feeds?, hnone, Option.bind_none]

theorem onward_start (ho : v.Orderly) {purpose : Purpose} (h : purpose.own? = none)
    (messages : List Rpc.Message) : Onward v (v.start purpose messages).2 := by
  refine ⟨rfl, fun k => ?_, fun _ => rel_refl _, fun body hbody => ⟨body, hbody, rfl⟩,
    fun _ => .inl⟩
  rw [feeds?_start ho]
  split_ifs with hk
  · rw [h, hk, feeds?_next ho]
  · rfl

/-! ### Streams -/

/-- A body changes, but not whose it is. -/
theorem onward_set {body body' : EventBody} (htable : ∀ place,
      Option.Rel Stays (v.table.session? place) (v'.table.session? place))
    (hlive : v'.table.live = v.table.live) (hexchanges : v'.exchanges = v.exchanges)
    (hbodies : v'.bodies = v.bodies.set number body') (hbody : v.bodies[number]? = some body)
    (hsession : body'.session = body.session)
    (hholds : body'.attention.holds = body.attention.holds ∨
      ∀ s, v'.table.session? body.session = some s → s.Ending) : Onward v v' where
  live := hlive
  feeds := feeds?_of_exchanges hexchanges
  sessions := htable
  bodies := fun b hb => by
    rw [hbodies] at hb
    rcases List.mem_or_eq_of_mem_set hb with hb | rfl
    · exact ⟨b, hb, rfl⟩
    · exact ⟨body, List.mem_of_getElem? hbody, hsession⟩
  held := fun place ⟨b, hb, hplace, hheld⟩ => by
    obtain ⟨k, hk⟩ := List.getElem?_of_mem hb
    by_cases hsame : number = k
    · obtain rfl := hsame
      obtain rfl := Option.some.inj (hbody.symm.trans hk)
      refine hholds.imp (fun hholds => ⟨body', ?_, hsession.trans hplace, hholds.trans hheld⟩)
        fun hending => hplace ▸ hending
      rw [hbodies]
      exact List.mem_set (List.getElem?_eq_some_iff.1 hbody).1 body'
    · refine .inl ⟨b, ?_, hplace, hheld⟩
      rw [hbodies]
      exact List.mem_of_getElem? ((List.getElem?_set_ne hsame).trans hk)

theorem onward_startReading (v : Server) (number : Nat) : Onward v (v.startReading number) := by
  unfold startReading
  split
  · rename_i body hbody
    split_ifs with hwaits
    · refine onward_set (fun _ => rel_refl _) rfl rfl rfl hbody rfl (.inl ?_)
      rw [hwaits]
      rfl
    · exact .refl v
  · exact .refl v

theorem onward_collect (v : Server) (number : Nat) : Onward v (v.collect number).2 := by
  unfold collect
  split
  · rename_i body hbody
    exact onward_set (fun _ => rel_refl _) rfl rfl rfl hbody rfl (.inl rfl)
  · exact .refl v

/-- A client that leaves its stream leaves a session that is ending. -/
theorem onward_dropBody
    (htaken : ∀ body ∈ v.bodies, ∀ s, v.table.session? body.session = some s → ¬ s.Untaken) :
    Onward v (v.dropBody number) := by
  unfold dropBody
  split
  · exact .refl v
  · rename_i body hbody
    have hbodyTaken := htaken body (List.mem_of_getElem? hbody)
    refine onward_set (rel_modify v.table _ fun s hs => s.stays_dropStream (hbodyTaken s hs))
      rfl rfl rfl hbody rfl (.inr fun s' hs' => ?_)
    simp only [modify, SessionTable.session?_modify, if_true] at hs'
    obtain ⟨s, -, rfl⟩ := Option.map_eq_some_iff.1 hs'
    exact s.ending_dropStream

theorem rel_read {other : Nat} (hs : v.table.session? other = some s) (place : Nat) :
    Option.Rel Stays (v.table.session? place)
      ((v.table.modify other fun _ => s.next.2).session? place) := by
  refine rel_modify v.table other (fun s₁ hs₁ => ?_) place
  obtain rfl := Option.some.inj (hs.symm.trans hs₁)
  exact s.stays_apply v.router .read nofun

/-- A client that reads a stream to its end leaves a session that is ending. -/
theorem onward_readBody {now : Nat}
    (htaken : ∀ body ∈ v.bodies, ∀ s, v.table.session? body.session = some s → ¬ s.Untaken)
    (hwhole : ∀ place s, v.table.session? place = some s →
      s.transport.closed = true → s.closed = true) :
    Onward v (v.readBody now number) := by
  unfold readBody
  split
  · exact .refl v
  · rename_i body hbody
    by_cases hreads : body.attention = .reads
    · rw [if_neg (not_not.2 hreads)]
      cases hs : v.table.session? body.session with
      | none => exact .refl v
      | some s =>
        have hread := rel_read (v := v) hs
        have hending : s.next.1 = .finished ∨ s.next.1 = .absent →
            ∀ s', (v.table.modify body.session fun _ => s.next.2).session? body.session =
              some s' → s'.Ending := by
          intro hend s' hs'
          rw [SessionTable.session?_modify, hs, Option.map_some, if_pos rfl] at hs'
          rw [← Option.some.inj hs']
          exact Session.ending_next (htaken body (List.mem_of_getElem? hbody) s hs)
            (hwhole _ s hs) hend
        simp only [Option.map_some]
        split
        · rename_i heq
          cases heq
        · rename_i event s' heq
          obtain ⟨-, rfl⟩ := Prod.ext_iff.1 (Option.some.inj heq)
          exact onward_set hread rfl rfl rfl hbody rfl (.inl rfl)
        · rename_i s' heq
          obtain ⟨-, rfl⟩ := Prod.ext_iff.1 (Option.some.inj heq)
          split_ifs
          · exact onward_set hread rfl rfl rfl hbody rfl (.inl rfl)
          · exact .of_bodies rfl rfl hread rfl
        · rename_i s' heq
          obtain ⟨hfinished, rfl⟩ := Prod.ext_iff.1 (Option.some.inj heq)
          exact onward_set hread rfl rfl rfl hbody rfl (.inr (hending (.inl hfinished)))
        · rename_i s' heq
          obtain ⟨habsent, rfl⟩ := Prod.ext_iff.1 (Option.some.inj heq)
          exact onward_set hread rfl rfl rfl hbody rfl (.inr (hending (.inr habsent)))
    · rw [if_pos hreads]
      exact .refl v

/-! ### Replies -/

/-- What is left of an instance when an exchange is replied to: one that has a session of its own
hands out its stream. -/
def handOut (v : Server) (now : Nat) (e : Exchange) : Server :=
  match e.purpose.own? with
  | some place => (v.openBody now place).2
  | none => v

theorem openExchange_snd (v : Server) (now place : Nat) :
    (v.openExchange now place).2 = (v.openBody now place).2 := by
  unfold openExchange
  simp only
  split <;> rfl

theorem complete_snd (v : Server) (now : Nat) (e : Exchange) :
    (v.complete now e).2 = v.handOut now e := by
  obtain ⟨number, purpose, rest, slot⟩ := e
  cases purpose with
  | post client => rfl
  | route client => rfl
  | feed place => exact v.openExchange_snd now place

theorem fail_snd (v : Server) (now : Nat) (e : Exchange) (fault : Fault) :
    (v.fail now e fault).2 =
      match (v.fail now e fault).1 with
      | .replies _ => v.handOut now e
      | _ => v := by
  obtain ⟨number, purpose, rest, slot⟩ := e
  cases purpose with
  | post client => cases fault <;> rfl
  | route client =>
    cases fault with
    | sessionNotFound clientId =>
      simp only [fail]
      split_ifs <;> rfl
    | _ => rfl
  | feed place => cases fault <;> exact v.openExchange_snd now place

/-- An exchange delivers, and then it may be replied to. -/
theorem proceed_spec (service : Queue.Service σ) (v : Server) (now : Nat) (e : Exchange)
    (queues : σ) : ∃ v₁, Onward v v₁ ∧ (v.proceed service now e queues).2.1 =
      match (v.proceed service now e queues).1 with
      | .replies _ => v₁.handOut now e
      | _ => v₁ := by
  obtain ⟨number, purpose, rest, slot⟩ := e
  cases slot with
  | some slot =>
    simp only [proceed]
    split
    · exact ⟨v, .refl v, rfl⟩
    · rename_i v₁ hsettle
      exact ⟨v₁, onward_settle? hsettle, rfl⟩
    · rename_i v₁ hsettle
      exact ⟨v₁, onward_settle? hsettle, v₁.fail_snd now _ _⟩
  | none =>
    cases rest with
    | nil => exact ⟨v, .refl v, v.complete_snd now _⟩
    | cons m rest =>
      have hdeliver := onward_deliverFor service v ⟨number, purpose, rest, none⟩ m queues
      simp only [proceed]
      split <;> rename_i heq <;> rw [heq] at hdeliver
      · exact ⟨_, hdeliver, rfl⟩
      · exact ⟨_, hdeliver, rfl⟩
      · exact ⟨_, hdeliver, fail_snd _ now ⟨number, purpose, rest, none⟩ _⟩

end Server

end SessionRelay
