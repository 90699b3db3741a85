import SessionRelay.Proofs.Server.Step

/-!
# What an instance keeps

No step of an instance changes its site, its name or how it reads tokens, and only handing over moves
the relay's place in line (`alike_step`, `alike_handOver`).
-/

namespace SessionRelay

namespace SessionTable

variable {t t' : SessionTable}

/-- The second table is of the same instance, and reads tokens as the first. -/
structure Alike (t t' : SessionTable) : Prop where
  codec : t'.codec = t.codec
  owner : t'.instanceId = t.instanceId

theorem alike_remove (t : SessionTable) (place : Nat) : Alike t (t.remove place) := by
  unfold remove
  split <;> exact ⟨rfl, rfl⟩

theorem alike_close (t : SessionTable) (place : Nat) : Alike t (t.close place) := by
  have hremove := alike_remove (t.modify place Session.shutDown) place
  unfold close
  split
  · split_ifs
    · exact ⟨rfl, rfl⟩
    · exact ⟨hremove.codec, hremove.owner⟩
  · exact ⟨rfl, rfl⟩

theorem alike_foldl_close : ∀ (places : List Nat) (t : SessionTable),
    Alike t (places.foldl close t)
  | [], _ => ⟨rfl, rfl⟩
  | place :: rest, t => by
    have hclose := alike_close t place
    have hrest := alike_foldl_close rest (t.close place)
    exact ⟨hrest.codec.trans hclose.codec, hrest.owner.trans hclose.owner⟩

theorem alike_watch (t : SessionTable) (place : Nat) : Alike t (t.watch place) := by
  unfold watch
  split
  · split_ifs
    · exact alike_close t place
    · exact ⟨rfl, rfl⟩
  · exact ⟨rfl, rfl⟩

theorem alike_create {kind : StreamKind} {parent : String} {draw : Draw} {place : Nat}
    (h : t.create kind parent draw = .ok (place, t')) : Alike t t' := by
  unfold create at h
  cases htoken : t.codec.format draw.nonce ⟨draw.clientId, t.instanceId⟩ t.codec.encrypts with
  | error e =>
    rw [htoken] at h
    cases h
  | ok token =>
    rw [htoken] at h
    cases h
    exact ⟨rfl, rfl⟩

end SessionTable

namespace Server

variable {σ : Type} {v v' v'' : Server} {place number : Nat}

/-- The second server has the site, the name and the codec of the first, and the relay has the same
place in line. -/
structure Alike (v v' : Server) : Prop where
  site : v'.site = v.site
  table : v.table.Alike v'.table
  relaySlot : v'.relaySlot = v.relaySlot

namespace Alike

theorem refl (v : Server) : Alike v v := ⟨rfl, ⟨rfl, rfl⟩, rfl⟩

theorem trans (h : Alike v v') (h' : Alike v' v'') : Alike v v'' where
  site := h'.site.trans h.site
  table := ⟨h'.table.codec.trans h.table.codec, h'.table.owner.trans h.table.owner⟩
  relaySlot := h'.relaySlot.trans h.relaySlot

end Alike

/-- Changes of sessions, exchanges and streams do not matter here. -/
theorem alike_of_same (hsite : v'.site = v.site) (hcodec : v'.table.codec = v.table.codec)
    (howner : v'.table.instanceId = v.table.instanceId) (hslot : v'.relaySlot = v.relaySlot) :
    Alike v v' :=
  ⟨hsite, ⟨hcodec, howner⟩, hslot⟩

theorem alike_offer (v : Server) (place : Nat) (m : Rpc.Message) :
    Alike v (v.offer place m).2 := by
  unfold offer
  split
  · exact .refl v
  · exact alike_of_same rfl rfl rfl rfl

theorem alike_deliverLocal (v : Server) (clientId : String) (m : Rpc.Message) :
    Alike v (v.deliverLocal clientId m).2 := by
  unfold deliverLocal
  split
  · exact .refl v
  · rename_i place _
    have hoffer := v.alike_offer place m
    split <;> rename_i heq <;> rw [heq] at hoffer <;> exact hoffer

theorem alike_deliver (service : Queue.Service σ) (v : Server) (client : ClientState)
    (m : Rpc.Message) (queues : σ) : Alike v (v.deliver service client m queues).2.1 := by
  unfold deliver
  split_ifs
  · exact v.alike_deliverLocal client.clientId m
  · split <;> exact .refl v
  · exact .refl v

theorem alike_settle? {slot : Slot} {b : Bool} (h : v.settle? slot = some (b, v')) :
    Alike v v' := by
  unfold settle? at h
  split at h
  · cases h
    exact .refl v
  · split at h <;> cases h
    · exact alike_of_same rfl rfl rfl rfl
    · exact .refl v

/-- Handing over moves the relay's place in line only. -/
theorem alike_handOver (v : Server) :
    v.handOver.site = v.site ∧ v.table.Alike v.handOver.table := by
  unfold handOver
  split
  · split
    · rename_i hsettle
      exact ⟨(alike_settle? hsettle).site, (alike_settle? hsettle).table⟩
    · exact ⟨rfl, rfl, rfl⟩
  · split
    · exact ⟨rfl, rfl, rfl⟩
    · rename_i envelope rest _
      have hdeliver := alike_deliverLocal { v with relayed := rest } envelope.clientId
        envelope.message
      split <;> rename_i heq <;> simp only [heq] at hdeliver <;>
        exact ⟨hdeliver.site, hdeliver.table⟩

/-! ## Requests -/

theorem alike_openBody (v : Server) (now place : Nat) : Alike v (v.openBody now place).2 := by
  unfold openBody
  split
  · exact alike_of_same rfl rfl rfl rfl
  · exact .refl v

theorem alike_openExchange (v : Server) (now place : Nat) :
    Alike v (v.openExchange now place).2 := by
  have hopened := v.alike_openBody now place
  unfold openExchange
  simp only
  split <;> exact hopened

theorem alike_dropBody (v : Server) (number : Nat) : Alike v (v.dropBody number) := by
  unfold dropBody
  split
  · exact .refl v
  · exact alike_of_same rfl rfl rfl rfl

theorem alike_openStream (v : Server) (now : Nat) (draw : Draw) (query : String) :
    Alike v (v.openStream now draw query).2 := by
  unfold openStream
  simp only
  split
  · exact .refl v
  · rename_i place table hcreate
    have hcreated := SessionTable.alike_create hcreate
    have hbefore : Alike v { v with table } :=
      alike_of_same rfl hcreated.codec hcreated.owner rfl
    exact hbefore.trans (alike_openBody _ now place)

theorem alike_rejectBody (v : Server) (client : ClientState) (id : Option Rpc.Id)
    (error : Rpc.ErrorObject) : Alike v (v.rejectBody client id error).2 := by
  unfold rejectBody
  split_ifs
  · split
    · exact .refl v
    · simp only
      split
      · exact alike_of_same rfl rfl rfl rfl
      · exact .refl v
  · exact .refl v

theorem alike_admitPost (v : Server) (r : Http.Request) : Alike v (v.admitPost r).2 := by
  unfold admitPost
  split
  · exact .refl v
  · split
    · exact .refl v
    · split
      · exact .refl v
      · split
        · exact alike_of_same rfl rfl rfl rfl
        · exact alike_rejectBody v _ _ _

theorem alike_admitExchange (v : Server) (draw : Draw) (r : Http.Request) :
    Alike v (v.admitExchange draw r).2 := by
  unfold admitExchange
  split
  · exact .refl v
  · split_ifs
    · exact .refl v
    · split
      · exact .refl v
      · split
        · exact .refl v
        · split
          · exact alike_of_same rfl rfl rfl rfl
          · exact .refl v
          · split
            · exact .refl v
            · rename_i hcreate
              have hcreated := SessionTable.alike_create hcreate
              exact alike_of_same rfl hcreated.codec hcreated.owner rfl

theorem alike_handle (v : Server) (now : Nat) (draw : Draw) (r : Http.Request) :
    Alike v (v.handle now draw r).2 := by
  have hopened := v.alike_openStream now draw r.query
  unfold handle
  split
  · exact .refl v
  · exact .refl v
  · simp only
    split
    · exact hopened.trans (alike_dropBody _ _)
    · exact hopened
    · exact hopened
  · split_ifs
    · exact .refl v
    · exact hopened
  · exact alike_admitPost v r
  · exact alike_admitExchange v draw r
  · exact .refl v

theorem alike_receive (v : Server) (now : Nat) (draw : Draw) (r : Http.Request) :
    Alike v (v.receive now draw r).2 := by
  unfold receive
  split_ifs
  · exact v.alike_handle now draw r
  · exact .refl v

/-! ## Exchanges -/

theorem alike_complete (v : Server) (now : Nat) (e : Exchange) :
    Alike v (v.complete now e).2 := by
  unfold complete
  split
  · exact .refl v
  · exact .refl v
  · exact v.alike_openExchange now _

theorem alike_fail (v : Server) (now : Nat) (e : Exchange) (fault : Fault) :
    Alike v (v.fail now e fault).2 := by
  unfold fail
  split
  · exact .refl v
  · split_ifs <;> exact .refl v
  · exact .refl v
  · exact .refl v
  · exact v.alike_openExchange now _

theorem alike_deliverFor (service : Queue.Service σ) (v : Server) (e : Exchange) (m : Rpc.Message)
    (queues : σ) : Alike v (v.deliverFor service e m queues).2.1 := by
  unfold deliverFor
  split
  · exact alike_deliver service v _ m queues
  · exact alike_deliver service v _ m queues
  · rename_i place _
    have hoffer := v.alike_offer place m
    split <;> rename_i heq <;> rw [heq] at hoffer <;> exact hoffer

theorem alike_proceed (service : Queue.Service σ) (v : Server) (now : Nat) (e : Exchange)
    (queues : σ) : Alike v (v.proceed service now e queues).2.1 := by
  unfold proceed
  split
  · split
    · exact .refl v
    · exact alike_settle? ‹_›
    · exact (alike_settle? ‹_›).trans (alike_fail _ now _ _)
  · split
    · exact v.alike_complete now e
    · rename_i m rest _
      have hdeliver := alike_deliverFor service v { e with rest } m queues
      simp only
      split <;> rename_i heq <;> rw [heq] at hdeliver
      · exact hdeliver
      · exact hdeliver
      · exact hdeliver.trans (alike_fail _ now _ _)

theorem alike_stepExchange (service : Queue.Service σ) (v : Server) (now number : Nat)
    (queues : σ) : Alike v (v.stepExchange service now number queues).2.1 := by
  unfold stepExchange
  split
  · exact .refl v
  · rename_i e _
    have hproceed := v.alike_proceed service now e queues
    split <;> rename_i heq <;> rw [heq] at hproceed
    · exact hproceed.trans (alike_of_same rfl rfl rfl rfl)
    · exact hproceed
    · exact hproceed.trans (alike_of_same rfl rfl rfl rfl)

theorem alike_abort (v : Server) (number : Nat) : Alike v (v.abort number) := by
  unfold abort
  split
  · exact .refl v
  · split <;> exact alike_of_same rfl rfl rfl rfl

/-! ## Steps -/

theorem alike_readBody (v : Server) (now number : Nat) : Alike v (v.readBody now number) := by
  unfold readBody
  split
  · exact .refl v
  · rename_i body _
    by_cases hreads : body.attention ≠ .reads
    · rw [if_pos hreads]
      exact .refl v
    · rw [if_neg hreads]
      split
      · exact .refl v
      · exact alike_of_same rfl rfl rfl rfl
      · simp only
        split_ifs <;> exact alike_of_same rfl rfl rfl rfl
      · exact alike_of_same rfl rfl rfl rfl
      · exact alike_of_same rfl rfl rfl rfl

/-- A step keeps the site, the name and the codec; the relay keeps its place unless it has its
turn. -/
theorem alike_step (service : Queue.Service σ) (v : Server) (st : Step σ) :
    (v.step service st).site = v.site ∧ v.table.Alike (v.step service st).table ∧
      ((∀ signals now, st ≠ .act signals now .handOver) →
        (v.step service st).relaySlot = v.relaySlot) := by
  have hall : ∀ {v'}, Alike v v' → v'.site = v.site ∧ v.table.Alike v'.table ∧
      ((∀ signals now, st ≠ .act signals now .handOver) → v'.relaySlot = v.relaySlot) :=
    fun h => ⟨h.site, h.table, fun _ => h.relaySlot⟩
  cases st with
  | receive now draw request => exact hall (v.alike_receive now draw request)
  | exchange now number queues => exact hall (alike_stepExchange service v now number queues)
  | act signals now a =>
    cases a with
    | pump place => exact hall (alike_of_same rfl rfl rfl rfl)
    | stopPump place => exact hall (alike_of_same rfl rfl rfl rfl)
    | watch place =>
      have hwatch := v.table.alike_watch place
      exact hall (alike_of_same rfl hwatch.codec hwatch.owner rfl)
    | work place ticket => exact hall (alike_of_same rfl rfl rfl rfl)
    | read number => exact hall (v.alike_readBody now number)
    | handOver =>
      obtain ⟨hsite, htable⟩ := v.alike_handOver
      exact ⟨hsite, htable, fun h => absurd rfl (h signals now)⟩
  | abort number => exact hall (v.alike_abort number)
  | dropBody number => exact hall (v.alike_dropBody number)
  | startReading number =>
    refine hall ?_
    simp only [step, startReading]
    split
    · split_ifs
      · exact alike_of_same rfl rfl rfl rfl
      · exact .refl v
    · exact .refl v
  | collect number =>
    refine hall ?_
    simp only [step, collect]
    split
    · exact alike_of_same rfl rfl rfl rfl
    · exact .refl v
  | relay envelope => exact hall (alike_of_same rfl rfl rfl rfl)
  | close place =>
    have hclose := v.table.alike_close place
    exact hall (alike_of_same rfl hclose.codec hclose.owner rfl)
  | closeAll =>
    have hclose := SessionTable.alike_foldl_close (v.table.live.map Prod.snd) v.table
    exact hall (alike_of_same rfl hclose.codec hclose.owner rfl)

end Server

end SessionRelay
