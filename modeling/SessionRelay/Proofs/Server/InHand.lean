import SessionRelay.Proofs.Server.Step
import SessionRelay.Proofs.Session.InHand

/-!
# Where the messages of an instance come from

Whatever an instance does by itself and whatever is done to its streams and sessions, its sessions
have nothing in hand but what they had before, what was delivered here for their clients, and what
came over the relay for them (`Only.step`, `Only.deliver`). A live entry always leads to the session
of its client, so a delivery reaches nobody else.
-/

namespace SessionRelay

open Session (Within)

variable {id : String} {P Q : String → Rpc.Message → Prop}

/-! ## Tables -/

namespace SessionTable

/-- The table of an instance whose sessions have in hand only what `P` allows for their clients. -/
structure Only (id : String) (P : String → Rpc.Message → Prop) (t : SessionTable) : Prop where
  owner : t.instanceId = id
  live : ∀ entry ∈ t.live, ∃ s, t.session? entry.2 = some s ∧ s.clientId = entry.1
  inHand : ∀ s ∈ t.opened, ∀ m ∈ s.inHand, P s.clientId m

variable {t t' : SessionTable} {place : Nat}

theorem Only.mono (h : t.Only id P) (hle : ∀ c m, P c m → Q c m) : t.Only id Q :=
  { h with inHand := fun s hs m hm => hle _ _ (h.inHand s hs m hm) }

theorem Only.find? (h : t.Only id P) {clientId : String} (hfind : t.find? clientId = some place) :
    ∃ s, t.session? place = some s ∧ s.clientId = clientId := by
  obtain ⟨entry, hentry, rfl⟩ := Option.map_eq_some_iff.1 hfind
  obtain ⟨s, hs, hclient⟩ := h.live entry (List.mem_of_find?_eq_some hentry)
  have hkey := List.find?_some hentry
  exact ⟨s, hs, hclient.trans (beq_iff_eq.1 hkey)⟩

theorem Only.modify (h : t.Only id P) (place : Nat) {f : Session → Session}
    (hf : ∀ s, t.session? place = some s →
      (f s).clientId = s.clientId ∧ ∀ m ∈ (f s).inHand, P s.clientId m) :
    (t.modify place f).Only id P where
  owner := h.owner
  live := fun entry hentry => by
    obtain ⟨s, hs, hclient⟩ := h.live entry hentry
    rw [session?_modify, hs, Option.map_some]
    refine ⟨_, rfl, ?_⟩
    split_ifs with hplace
    · exact (hf s (hplace ▸ hs)).1.trans hclient
    · exact hclient
  inHand := fun s' hs' m hm => by
    obtain ⟨other, hother⟩ := List.mem_iff_getElem?.1 hs'
    have hget := session?_modify t place other f
    rw [session?, hother] at hget
    obtain ⟨s, hs, rfl⟩ := Option.map_eq_some_iff.1 hget.symm
    split_ifs at hm ⊢ with hplace
    · obtain ⟨hclient, hinHand⟩ := hf s (hplace ▸ hs)
      rw [hclient]
      exact hinHand m hm
    · exact h.inHand s (List.mem_of_getElem? hs) m hm

theorem Only.within (h : t.Only id P) (place : Nat) {f : Session → Session}
    (hf : ∀ s, t.session? place = some s → Within s (f s)) : (t.modify place f).Only id P :=
  h.modify place fun s hs =>
    ⟨(hf s hs).clientId, fun _ hm => h.inHand s (List.mem_of_getElem? hs) _ ((hf s hs).inHand hm)⟩

theorem Only.remove (h : t.Only id P) (place : Nat) : (t.remove place).Only id P := by
  unfold SessionTable.remove
  split
  · exact { h with live := fun entry hentry => h.live entry (List.mem_of_mem_filter hentry) }
  · exact h

theorem Only.close (h : t.Only id P) (place : Nat) : (t.close place).Only id P := by
  unfold SessionTable.close
  split
  · split_ifs
    · exact h
    · exact (h.within place fun s _ => s.within_shutDown).remove place
  · exact h

theorem Only.closeAll (h : t.Only id P) : t.closeAll.Only id P := by
  have hfold : ∀ (places : List Nat) (t : SessionTable), t.Only id P →
      (places.foldl SessionTable.close t).Only id P := by
    intro places
    induction places with
    | nil => exact fun _ h => h
    | cons place rest ih => exact fun t h => ih _ (h.close place)
  exact hfold _ t h

theorem Only.watch (h : t.Only id P) (place : Nat) : (t.watch place).Only id P := by
  unfold SessionTable.watch
  split
  · split_ifs
    · exact h.close place
    · exact h
  · exact h

/-- A new session has nothing in hand, and its entry leads to it. -/
theorem Only.create (h : t.Only id P) {kind : StreamKind} {parent : String} {draw : Draw}
    (hcreate : t.create kind parent draw = .ok (place, t')) : t'.Only id P := by
  unfold SessionTable.create at hcreate
  cases htoken : t.codec.format draw.nonce ⟨draw.clientId, t.instanceId⟩ t.codec.encrypts with
  | error e =>
    rw [htoken] at hcreate
    cases hcreate
  | ok token =>
    rw [htoken] at hcreate
    cases hcreate
    refine ⟨h.owner, fun entry hentry => ?_, fun s hs m hm => ?_⟩
    · rcases List.mem_append.1 hentry with hentry | hentry
      · obtain ⟨s, hs, hclient⟩ := h.live entry (List.mem_of_mem_filter hentry)
        exact ⟨s, session?_append t rfl hs, hclient⟩
      · rw [List.mem_singleton.1 hentry]
        exact ⟨_, List.getElem?_concat_length, rfl⟩
    · rcases List.mem_append.1 hs with hs | hs
      · exact h.inHand s hs m hm
      · rw [List.mem_singleton.1 hs] at hm
        cases hm

end SessionTable

/-! ## Instances -/

namespace Server

variable {σ : Type} {v v' : Server} {place : Nat}

/-- An instance whose messages are only such as `P` allows for their clients. -/
structure Only (id : String) (P : String → Rpc.Message → Prop) (v : Server) : Prop where
  table : v.table.Only id P
  relayed : ∀ e ∈ v.relayed, P e.clientId e.message

theorem Only.mono (h : v.Only id P) (hle : ∀ c m, P c m → Q c m) : v.Only id Q :=
  ⟨h.table.mono hle, fun e he => hle _ _ (h.relayed e he)⟩

theorem Only.within (h : v.Only id P) (place : Nat) {f : Session → Session}
    (hf : ∀ s, v.table.session? place = some s → Within s (f s)) : (v.modify place f).Only id P :=
  ⟨h.table.within place hf, h.relayed⟩

/-- A session is put in the place of the one that it comes from. -/
theorem Only.replace (h : v.Only id P) {s s' : Session} (hs : v.table.session? place = some s)
    (hwithin : Within s s') : (v.modify place fun _ => s').Only id P :=
  h.within place fun s₁ hs₁ => by
    rw [hs] at hs₁
    cases hs₁
    exact hwithin

/-! ### Deliveries -/

theorem Only.offer (h : v.Only id P) {m : Rpc.Message}
    (hm : ∀ s, v.table.session? place = some s → P s.clientId m) :
    (v.offer place m).2.Only id P := by
  unfold Server.offer
  split
  · exact h
  · rename_i s hs
    refine ⟨h.table.modify place fun s₁ hs₁ => ?_, h.relayed⟩
    rw [hs] at hs₁
    cases hs₁
    obtain ⟨hclient, hinHand⟩ := s.inHand_offer m
    refine ⟨hclient, fun m' hm' => ?_⟩
    rcases List.mem_cons.1 (hinHand hm') with rfl | hold
    · exact hm s hs
    · exact h.table.inHand s (List.mem_of_getElem? hs) m' hold

/-- A message that is delivered here is put in the hand of its client's session. -/
theorem Only.deliverLocal (h : v.Only id P) {clientId : String} {m : Rpc.Message}
    (hm : P clientId m) : (v.deliverLocal clientId m).2.Only id P := by
  unfold Server.deliverLocal
  split
  · exact h
  · rename_i place hfind
    have hoffer : (v.offer place m).2.Only id P := h.offer fun s hs => by
      obtain ⟨s₁, hs₁, hclient⟩ := h.table.find? hfind
      rw [hs] at hs₁
      cases hs₁
      exact hclient.symm ▸ hm
    split <;> rename_i v' heq <;> rw [heq] at hoffer <;> exact hoffer

/-- A message for another instance is put in nobody's hand here. -/
theorem Only.deliver (h : v.Only id P) (service : Queue.Service σ) {client : ClientState}
    {m : Rpc.Message} (hm : client.instanceId = id → P client.clientId m) (queues : σ) :
    (v.deliver service client m queues).2.1.Only id P := by
  unfold Server.deliver
  split_ifs with hlocal
  · refine h.deliverLocal (hm ?_)
    rw [← h.table.owner]
    exact of_decide_eq_true hlocal
  · split <;> exact h
  · exact h

/-- A delivery does nothing to the queues, or it sends the message to another instance. -/
theorem queues_deliver (service : Queue.Service σ) (v : Server) (client : ClientState)
    (m : Rpc.Message) (queues : σ) : (v.deliver service client m queues).2.2 = queues ∨
      client.instanceId ≠ v.instanceId ∧ (v.deliver service client m queues).2.2 =
        (Backplane.send service ⟨client.instanceId, client.clientId, m⟩ queues).2 := by
  unfold Server.deliver
  split_ifs with hlocal
  · exact .inl rfl
  · refine .inr ⟨fun howner => hlocal (decide_eq_true howner), ?_⟩
    split <;> rename_i heq <;> rw [heq]
  · exact .inl rfl

theorem Only.settle? (h : v.Only id P) {slot : Slot} {b : Bool}
    (hsettle : v.settle? slot = some (b, v')) : v'.Only id P := by
  unfold Server.settle? at hsettle
  split at hsettle
  · cases hsettle
    exact h
  · split at hsettle
    · cases hsettle
    · cases hsettle
      exact h.within _ fun s _ => s.within_mapInbound (Inbound.messages_enter _ _).subset
    · cases hsettle
      exact h

theorem Only.abandonSlot (h : v.Only id P) (slot : Slot) : (v.abandonSlot slot).Only id P :=
  h.within _ fun s _ => s.within_mapInbound (Inbound.messages_leave _ _).subset

theorem Only.takeRelayed (h : v.Only id P) {e : Envelope} (he : P e.clientId e.message) :
    (takeRelayed e v).2.Only id P :=
  ⟨h.table, List.forall_mem_append.2 ⟨h.relayed, List.forall_mem_singleton.2 he⟩⟩

theorem Only.handOver (h : v.Only id P) : v.handOver.Only id P := by
  unfold Server.handOver
  split
  · split
    · rename_i b v' hsettle
      exact ⟨(h.settle? hsettle).table, (h.settle? hsettle).relayed⟩
    · exact h
  · cases hrelayed : v.relayed with
    | nil => exact h
    | cons envelope rest =>
      obtain ⟨henvelope, hrest⟩ := List.forall_mem_cons.1 (hrelayed ▸ h.relayed)
      have hleft : ({ v with relayed := rest } : Server).Only id P := ⟨h.table, hrest⟩
      have hdeliver := hleft.deliverLocal henvelope
      simp only
      split <;> rename_i heq <;> rw [heq] at hdeliver
      · exact ⟨hdeliver.table, hdeliver.relayed⟩
      · exact hdeliver

/-! ### Streams and requests -/

theorem Only.openBody (h : v.Only id P) (now place : Nat) : (v.openBody now place).2.Only id P := by
  unfold Server.openBody
  split
  · rename_i s' hopened
    obtain ⟨s, hs, hevents⟩ := Option.bind_eq_some_iff.1 hopened
    have hreplaced := h.replace hs (Session.within_events hevents)
    exact ⟨hreplaced.table, hreplaced.relayed⟩
  · exact h

theorem Only.openStream (h : v.Only id P) (now : Nat) (draw : Draw) (query : String) :
    (v.openStream now draw query).2.Only id P := by
  unfold Server.openStream
  simp only
  split
  · exact h
  · rename_i place table hcreate
    have hcreated : ({ v with table } : Server).Only id P := ⟨h.table.create hcreate, h.relayed⟩
    exact hcreated.openBody now place

theorem Only.dropBody (h : v.Only id P) (number : Nat) : (v.dropBody number).Only id P := by
  unfold Server.dropBody
  split
  · exact h
  · rename_i body _
    have hdropped := h.within body.session fun s _ => s.within_dropStream
    exact ⟨hdropped.table, hdropped.relayed⟩

theorem Only.rejectBody (h : v.Only id P) (client : ClientState) (rpcId : Option Rpc.Id)
    (error : Rpc.ErrorObject) : (v.rejectBody client rpcId error).2.Only id P := by
  unfold Server.rejectBody
  split_ifs
  · split
    · exact h
    · simp only
      split
      · rename_i s' hsent
        obtain ⟨s, hs, hsend⟩ := Option.bind_eq_some_iff.1 hsent
        exact h.replace hs (Session.within_send hsend)
      · exact h
  · exact h

theorem Only.admitPost (h : v.Only id P) (r : Http.Request) : (v.admitPost r).2.Only id P := by
  unfold Server.admitPost
  split
  · exact h
  · split
    · exact h
    · split
      · exact h
      · split
        · exact ⟨h.table, h.relayed⟩
        · exact h.rejectBody _ _ _

theorem Only.admitExchange (h : v.Only id P) (draw : Draw) (r : Http.Request) :
    (v.admitExchange draw r).2.Only id P := by
  unfold Server.admitExchange
  split
  · exact h
  · split_ifs
    · exact h
    · split
      · exact h
      · split
        · exact h
        · split
          · exact ⟨h.table, h.relayed⟩
          · exact h
          · split
            · exact h
            · rename_i place table hcreate
              exact ⟨h.table.create hcreate, h.relayed⟩

theorem Only.handle (h : v.Only id P) (now : Nat) (draw : Draw) (r : Http.Request) :
    (v.handle now draw r).2.Only id P := by
  have hopened := h.openStream now draw r.query
  unfold Server.handle
  split
  · exact h
  · exact h
  · simp only
    split
    · exact hopened.dropBody _
    · exact hopened
    · exact hopened
  · split_ifs
    · exact h
    · exact hopened
  · exact h.admitPost r
  · exact h.admitExchange draw r
  · exact h

theorem Only.receive (h : v.Only id P) (now : Nat) (draw : Draw) (r : Http.Request) :
    (v.receive now draw r).2.Only id P := by
  unfold Server.receive
  split_ifs
  · exact h.handle now draw r
  · exact h

theorem Only.readBody (h : v.Only id P) (now number : Nat) : (v.readBody now number).Only id P := by
  unfold Server.readBody
  split
  · exact h
  rename_i body _
  by_cases hreads : body.attention = .reads
  · rw [if_neg (not_not.2 hreads)]
    cases hs : v.table.session? body.session with
    | none => exact h
    | some s =>
      have hread := h.replace hs s.within_next
      simp only [Option.map_some]
      split
      · exact h
      · rename_i heq
        rw [Option.some.inj heq] at hread
        exact ⟨hread.table, hread.relayed⟩
      · rename_i heq
        rw [Option.some.inj heq] at hread
        split_ifs <;> exact ⟨hread.table, hread.relayed⟩
      · rename_i heq
        rw [Option.some.inj heq] at hread
        exact ⟨hread.table, hread.relayed⟩
      · rename_i heq
        rw [Option.some.inj heq] at hread
        exact ⟨hread.table, hread.relayed⟩
  · rw [if_pos hreads]
    exact h

theorem Only.abort (h : v.Only id P) (number : Nat) : (v.abort number).Only id P := by
  unfold Server.abort
  split
  · exact h
  · split
    · rename_i slot _
      exact ⟨(h.abandonSlot slot).table, (h.abandonSlot slot).relayed⟩
    · exact ⟨h.table, h.relayed⟩

/-! ### Steps -/

/-- Whether a step delivers nothing that comes from outside. -/
def Step.isOwn : Step σ → Bool
  | .exchange _ _ _ | .relay _ => false
  | _ => true

theorem Only.step (h : v.Only id P) (service : Queue.Service σ) {st : Step σ}
    (hown : st.isOwn = true) : (v.step service st).Only id P := by
  cases st with
  | receive now draw request => exact h.receive now draw request
  | exchange => cases hown
  | act signals now a =>
    cases a with
    | pump place => exact h.within place fun s _ => s.within_pump v.router signals
    | stopPump place =>
      refine h.within place fun s _ => ?_
      split_ifs
      · exact s.within_stopPump
      · exact .refl s
    | watch place => exact ⟨h.table.watch place, h.relayed⟩
    | work place ticket => exact h.within place fun s _ => s.within_runJob v.router signals ticket
    | read number => exact h.readBody now number
    | handOver => exact h.handOver
  | abort number => exact h.abort number
  | dropBody number => exact h.dropBody number
  | startReading number =>
    simp only [Server.step, startReading]
    split
    · split_ifs
      · exact ⟨h.table, h.relayed⟩
      · exact h
    · exact h
  | collect number =>
    simp only [Server.step, collect]
    split
    · exact ⟨h.table, h.relayed⟩
    · exact h
  | relay => cases hown
  | close place => exact ⟨h.table.close place, h.relayed⟩
  | closeAll => exact ⟨h.table.closeAll, h.relayed⟩

end Server

end SessionRelay
