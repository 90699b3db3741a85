import SessionRelay.Proofs.Server.Step

/-!
# What steps do to exchanges

A step starts, moves on or removes at most one exchange (`change_step`), so that numbers are not
given twice, and that an exchange which goes to a session it names never holds a request
(`Orderly`). An exchange that delivers a message no longer holds it (`rest_step`).
-/

namespace SessionRelay

open Session (Move)
open History (brought)

namespace Server

variable {σ : Type} {v v₁ v' : Server} {place number : Nat} {k : Option Nat}

/-- What a step does to the exchanges, if it may move on the one with a given number. -/
inductive Change (v : Server) (k : Option Nat) : Server → Prop
  | same {v₁ : Server} (h : Framed v v₁) : Change v k v₁
  | started {v₁ : Server} (h : Framed v v₁) (purpose : Purpose) (messages : List Rpc.Message)
    (hfitting : Fitting v v₁ purpose messages) : Change v k (v₁.start purpose messages).2
  | moved {v₁ : Server} (h : Framed v v₁) (e e' : Exchange) (he : e ∈ v.exchanges)
    (hk : k = some e.number) (hnumber : e'.number = e.number) (hpurpose : e'.purpose = e.purpose)
    (hrest : e'.rest ⊆ e.rest) : Change v k (v₁.setExchange e')
  | removed {v₁ : Server} (h : Framed v v₁) (number : Nat) : Change v k (v₁.removeExchange number)

/-- The exchange that a step moves on. -/
def Step.moves? : Step σ → Option Nat
  | .exchange _ number _ => some number
  | _ => none

/-- The exchange that a step goes on with or lets go of. -/
def Step.turn? : Step σ → Option Nat
  | .exchange _ number _ | .abort number => some number
  | _ => none

theorem fail_goesOn {now : Nat} {e e' : Exchange} {fault : Fault}
    (h : (v.fail now e fault).1 = .goesOn e') : e' = { e with slot := none } := by
  obtain ⟨number, purpose, rest, slot⟩ := e
  cases purpose with
  | post client => cases fault <;> cases h
  | route client =>
    cases fault with
    | sessionNotFound clientId =>
      simp only [fail] at h
      split_ifs at h
      cases h
      rfl
    | _ => cases h
  | feed other => cases fault <;> cases h

theorem fail_ne_blocked (v : Server) (now : Nat) (e : Exchange) (fault : Fault) :
    (v.fail now e fault).1 ≠ .blocked := by
  intro h
  obtain ⟨number, purpose, rest, slot⟩ := e
  cases purpose with
  | post client => cases fault <;> cases h
  | route client =>
    cases fault with
    | sessionNotFound clientId =>
      simp only [fail] at h
      split_ifs at h
    | _ => cases h
  | feed other => cases fault <;> cases h

/-- An exchange that goes on is the same but for the message that it has delivered. -/
theorem proceed_goesOn {service : Queue.Service σ} {now : Nat} {e e' : Exchange} {queues : σ}
    (h : (v.proceed service now e queues).1 = .goesOn e') : e'.number = e.number ∧
      e'.purpose = e.purpose ∧
      (e.slot ≠ none ∧ e'.rest = e.rest ∨ e.slot = none ∧ ∃ m, e.rest = m :: e'.rest) := by
  obtain ⟨number, purpose, rest, slot⟩ := e
  cases slot with
  | some slot =>
    simp only [proceed] at h
    split at h
    · cases h
    · cases h
      exact ⟨rfl, rfl, .inl ⟨Option.some_ne_none slot, rfl⟩⟩
    · rw [fail_goesOn h]
      exact ⟨rfl, rfl, .inl ⟨Option.some_ne_none slot, rfl⟩⟩
  | none =>
    cases rest with
    | nil => cases h
    | cons m rest =>
      simp only [proceed] at h
      split at h
      · cases h
        exact ⟨rfl, rfl, .inr ⟨rfl, m, rfl⟩⟩
      · cases h
        exact ⟨rfl, rfl, .inr ⟨rfl, m, rfl⟩⟩
      · rw [fail_goesOn h]
        exact ⟨rfl, rfl, .inr ⟨rfl, m, rfl⟩⟩

theorem proceed_blocked {service : Queue.Service σ} {now : Nat} {e : Exchange} {queues : σ}
    (h : (v.proceed service now e queues).1 = .blocked) : e.slot ≠ none := by
  obtain ⟨number, purpose, rest, slot⟩ := e
  cases slot with
  | some slot => exact Option.some_ne_none slot
  | none =>
    cases rest with
    | nil => cases h
    | cons m rest =>
      simp only [proceed] at h
      split at h
      · cases h
      · cases h
      · exact absurd h (fail_ne_blocked _ _ _ _)

theorem change_exchange (service : Queue.Service σ) (v : Server) (now number : Nat) (queues : σ) :
    Change v (some number) (v.step service (.exchange now number queues)) := by
  simp only [step, stepExchange]
  cases hfind : v.exchanges.find? fun e => e.number == number with
  | none => exact .same (.refl v)
  | some e =>
    have hframe := (touched_proceed service v now e queues 0).toFramed
    simp only
    split
    · rename_i e' v' queues' heq
      rw [heq] at hframe
      obtain ⟨hnumber, hpurpose, hrest⟩ := proceed_goesOn (congrArg Prod.fst heq)
      have hk : e.number = number := by simpa using List.find?_some hfind
      refine .moved hframe e e' (List.mem_of_find?_eq_some hfind) (congrArg some hk.symm)
        hnumber hpurpose ?_
      rcases hrest with ⟨-, hrest⟩ | ⟨-, m, hrest⟩ <;> rw [hrest]
      · exact List.Subset.refl _
      · exact List.subset_cons_self m _
    · rename_i v' queues' heq
      rw [heq] at hframe
      exact .same hframe
    · rename_i reply v' queues' heq
      rw [heq] at hframe
      exact .removed hframe number

theorem change_abort (v : Server) (number : Nat) : Change v k (v.abort number) := by
  unfold Server.abort
  split
  · exact .same (.refl v)
  · split
    · rename_i slot _
      exact .removed (touched_abandonSlot v slot 0).toFramed number
    · exact .removed (.refl v) number

/-- A step that is no exchange's turn leaves all exchanges alone, or starts one. -/
theorem framed_step (service : Queue.Service σ) {st : Step σ} (hturn : st.turn? = none) :
    Framed v (v.step service st) ∨ ∃ v₁ purpose messages, Framed v v₁ ∧
      Fitting v v₁ purpose messages ∧ v.step service st = (v₁.start purpose messages).2 := by
  have hmodify : ∀ (place : Nat) (f : Session → Session), Framed v (v.modify place f) :=
    fun place f => ⟨rfl, rfl, Nat.le_of_eq (List.length_modify ..).symm, rfl⟩
  cases st with
  | receive now draw request =>
    obtain ⟨v₁, htouched, hv | ⟨purpose, messages, hfitting, hv⟩⟩ :=
      received_receive v now draw request 0
    · rw [step, hv]
      exact .inl htouched.toFramed
    · exact .inr ⟨v₁, purpose, messages, htouched.toFramed, hfitting, hv⟩
  | exchange now number queues => cases hturn
  | act signals now a =>
    left
    cases a with
    | pump place => exact hmodify place _
    | stopPump place => exact hmodify place _
    | watch place =>
      refine ⟨rfl, rfl, ?_, rfl⟩
      simp only [step, act, SessionTable.watch]
      split
      · split_ifs
        · exact Nat.le_of_eq (opened_close _ place).symm
        · exact Nat.le_refl _
      · exact Nat.le_refl _
    | work place ticket => exact hmodify place _
    | read number => exact (touched_readBody v now number 0).toFramed
    | handOver => exact (touched_handOver v 0).toFramed
  | abort number => cases hturn
  | dropBody number => exact .inl (framed_dropBody v number)
  | startReading number =>
    left
    simp only [step, startReading]
    split
    · split_ifs
      · exact ⟨rfl, rfl, Nat.le_refl _, rfl⟩
      · exact .refl v
    · exact .refl v
  | collect number =>
    left
    simp only [step, collect]
    split
    · exact ⟨rfl, rfl, Nat.le_refl _, rfl⟩
    · exact .refl v
  | relay envelope => exact .inl ⟨rfl, rfl, Nat.le_refl _, rfl⟩
  | close place => exact .inl ⟨rfl, rfl, Nat.le_of_eq (opened_close _ place).symm, rfl⟩
  | closeAll => exact .inl ⟨rfl, rfl, Nat.le_of_eq (opened_closeAll _ _).symm, rfl⟩

theorem change_step (service : Queue.Service σ) (v : Server) (st : Step σ) :
    Change v st.moves? (v.step service st) := by
  cases hturn : st.turn? with
  | none =>
    rcases framed_step service hturn with h | ⟨v₁, purpose, messages, h, hfitting, hv⟩
    · exact .same h
    · rw [hv]
      exact .started h purpose messages hfitting
  | some _ =>
    cases st with
    | exchange now number queues => exact change_exchange service v now number queues
    | abort number => exact change_abort v number
    | _ => cases hturn

theorem Change.frame (h : Change v k v') : v.nextExchange ≤ v'.nextExchange ∧
    v.table.opened.length ≤ v'.table.opened.length ∧ v'.router = v.router := by
  cases h with
  | same h => exact ⟨Nat.le_of_eq h.nextExchange.symm, h.opened, h.router⟩
  | started h purpose messages _ =>
    exact ⟨Nat.le_trans (Nat.le_of_eq h.nextExchange.symm) (Nat.le_succ _), h.opened, h.router⟩
  | moved h => exact ⟨Nat.le_of_eq h.nextExchange.symm, h.opened, h.router⟩
  | removed h => exact ⟨Nat.le_of_eq h.nextExchange.symm, h.opened, h.router⟩

/-- An exchange is an old one with no more messages, or a new one with the next number. -/
theorem Change.mem (h : Change v k v') {e' : Exchange} (he' : e' ∈ v'.exchanges) :
    (∃ e ∈ v.exchanges, e'.number = e.number ∧ e'.purpose = e.purpose ∧ e'.rest ⊆ e.rest) ∨
      e'.number = v.nextExchange ∧ e'.number < v'.nextExchange ∧
        Fitting v v' e'.purpose e'.rest := by
  have hold : ∀ {e : Exchange}, e ∈ v.exchanges →
      ∃ e₀ ∈ v.exchanges, e.number = e₀.number ∧ e.purpose = e₀.purpose ∧ e.rest ⊆ e₀.rest :=
    fun he => ⟨_, he, rfl, rfl, List.Subset.refl _⟩
  cases h with
  | same h => exact .inl (hold (h.exchanges ▸ he'))
  | started h purpose messages hfitting =>
    rcases List.mem_append.1 he' with he' | he'
    · exact .inl (hold (h.exchanges ▸ he'))
    · rw [List.mem_singleton.1 he']
      exact .inr ⟨h.nextExchange, Nat.lt_succ_self _, hfitting.route, hfitting.feed⟩
  | moved h e e₁ he _ hnumber hpurpose hrest =>
    obtain ⟨old, hold', rfl⟩ := List.mem_map.1 he'
    split_ifs
    · exact .inl ⟨e, he, hnumber, hpurpose, hrest⟩
    · exact .inl (hold (h.exchanges ▸ hold'))
  | removed h number => exact .inl (hold (h.exchanges ▸ List.mem_of_mem_filter he'))

/-! ## Instances as they come -/

/-- What holds of the exchanges of every instance. -/
structure Orderly (v : Server) : Prop where
  number_lt : ∀ e ∈ v.exchanges, e.number < v.nextExchange
  route : ∀ e ∈ v.exchanges, ∀ client, e.purpose = .route client →
    ∀ m ∈ e.rest, m.isRequest = false
  feed_lt : ∀ e ∈ v.exchanges, ∀ p, e.purpose = .feed p → p < v.table.opened.length

theorem Orderly.of_idle (h : v.exchanges = []) : v.Orderly := by
  constructor <;> rw [h] <;> exact nofun

theorem Orderly.change (h : v.Orderly) (hchange : Change v k v') : v'.Orderly where
  number_lt := by
    intro e' he'
    rcases hchange.mem he' with ⟨e, he, hnumber, -, -⟩ | ⟨-, hlt, -⟩
    · rw [hnumber]
      exact Nat.lt_of_lt_of_le (h.number_lt e he) hchange.frame.1
    · exact hlt
  route := by
    intro e' he' client hclient m hm
    rcases hchange.mem he' with ⟨e, he, -, hpurpose, hrest⟩ | ⟨-, -, hfitting⟩
    · exact h.route e he client (hpurpose ▸ hclient) m (hrest hm)
    · exact hfitting.route client hclient m hm
  feed_lt := by
    intro e' he' p hp
    rcases hchange.mem he' with ⟨e, he, -, hpurpose, -⟩ | ⟨-, -, hfitting⟩
    · exact Nat.lt_of_lt_of_le (h.feed_lt e he p (hpurpose ▸ hp)) hchange.frame.2.1
    · exact (hfitting.feed p hp).2

/-- Whether one exchange alone may have the session at a place for its own. -/
def Feeds (v : Server) (place number : Nat) : Prop :=
  ∀ e ∈ v.exchanges, e.purpose = .feed place → e.number = number

theorem Feeds.change (h : v.Feeds place number) (hchange : Change v k v')
    (hplace : place < v.table.opened.length) : v'.Feeds place number := by
  intro e' he' hfeed
  rcases hchange.mem he' with ⟨e, he, hnumber, hpurpose, -⟩ | ⟨-, -, hfitting⟩
  · rw [hnumber]
    exact h e he (hpurpose ▸ hfeed)
  · exact absurd (hfitting.feed place hfeed).1 (Nat.not_le.2 hplace)

/-- The servers that come of one by steps. -/
inductive Reaches (service : Queue.Service σ) (start : Server) : Server → Prop
  | refl : Reaches service start start
  | step {v : Server} (st : Step σ) (hreaches : Reaches service start v) :
    Reaches service start (v.step service st)

theorem Reaches.trans {service : Queue.Service σ} {v'' : Server} (h : Reaches service v v')
    (h' : Reaches service v' v'') : Reaches service v v'' := by
  induction h' with
  | refl => exact h
  | step st _ ih => exact ih.step st

theorem Reaches.orderly {service : Queue.Service σ} (hidle : v.exchanges = [])
    (hreaches : Reaches service v v') : v'.Orderly := by
  induction hreaches with
  | refl => exact .of_idle hidle
  | step st _ ih => exact ih.change (change_step service _ st)

/-! ## What an exchange still has to deliver -/

/-- The messages that an exchange still holds. -/
def restOf (v : Server) (number : Nat) : List Rpc.Message :=
  match v.exchanges.find? fun e => e.number == number with
  | some e => e.rest
  | none => []

/-- The messages that an exchange brings to the session at a place in a step. -/
def delivered (service : Queue.Service σ) (v : Server) (place number : Nat) (st : Step σ) :
    List Rpc.Message :=
  ((v.touches service place st).filter fun t => t.1 == some number).flatMap fun t => brought t.2

theorem restOf_eq_nil (h : ∀ e ∈ v.exchanges, e.number ≠ number) : v.restOf number = [] := by
  have hfind : (v.exchanges.find? fun e => e.number == number) = none :=
    List.find?_eq_none.2 fun e he => by simpa using h e he
  rw [restOf, hfind]

theorem find?_setExchange (v : Server) (e' : Exchange) (number : Nat) :
    (v.setExchange e').exchanges.find? (fun e => e.number == number) =
      (v.exchanges.find? fun e => e.number == number).map fun old =>
        if old.number == e'.number then e' else old := by
  rw [setExchange, List.find?_map]
  congr 2
  funext old
  simp only [Function.comp_apply]
  split_ifs with hold
  · rw [eq_of_beq hold]
  · rfl

theorem restOf_setExchange_self {e e' : Exchange}
    (hfind : (v.exchanges.find? fun e => e.number == number) = some e) (h : e'.number = number) :
    (v.setExchange e').restOf number = e'.rest := by
  have hnumber : e.number = number := by simpa using List.find?_some hfind
  rw [restOf, find?_setExchange, hfind]
  simp [hnumber, h]

/-- Moving on one exchange leaves the others alone. -/
theorem restOf_setExchange_ne {e' : Exchange} (h : e'.number ≠ number) :
    (v.setExchange e').restOf number = v.restOf number := by
  rw [restOf, find?_setExchange, restOf]
  cases hold : v.exchanges.find? fun e => e.number == number with
  | none => rfl
  | some old =>
    have hnumber : old.number = number := by simpa using List.find?_some hold
    simp [hnumber, Ne.symm h]

theorem restOf_start (v : Server) (purpose : Purpose) (messages : List Rpc.Message)
    (h : number < v.nextExchange) :
    (v.start purpose messages).2.restOf number = v.restOf number := by
  simp only [restOf, start, List.find?_append]
  cases v.exchanges.find? fun e => e.number == number with
  | some e => rfl
  | none => simp [Nat.ne_of_gt h]

theorem restOf_removeExchange_self (v : Server) (number : Nat) :
    (v.removeExchange number).restOf number = [] :=
  restOf_eq_nil fun e he => by simpa using (List.mem_filter.1 he).2

theorem restOf_removeExchange (v : Server) (other number : Nat) :
    (v.removeExchange other).restOf number = v.restOf number ∨
      (v.removeExchange other).restOf number = [] := by
  by_cases h : other = number
  · rw [h]
    exact .inr (v.restOf_removeExchange_self number)
  · refine .inl ?_
    have hfind : (v.removeExchange other).exchanges.find? (fun e => e.number == number) =
        v.exchanges.find? fun e => e.number == number := by
      rw [removeExchange, List.find?_filter]
      congr 1
      funext e
      by_cases he : e.number = number <;> simp [he, Ne.symm h]
    rw [restOf, hfind, restOf]

theorem restOf_framed (h : Framed v v₁) (number : Nat) : v₁.restOf number = v.restOf number := by
  rw [restOf, h.exchanges, restOf]

/-- An exchange that is not moved on holds the same messages, if it is not removed. -/
theorem Change.rest (h : Change v k v') (hk : k ≠ some number) (hlt : number < v.nextExchange) :
    v'.restOf number = v.restOf number ∨ v'.restOf number = [] := by
  cases h with
  | same h => exact .inl (restOf_framed h number)
  | started h purpose messages _ =>
    exact .inl ((restOf_start _ purpose messages (h.nextExchange.symm ▸ hlt)).trans
      (restOf_framed h number))
  | moved h e e' he hmoved hnumber =>
    have hne : e'.number ≠ number := fun heq => hk (hmoved.trans (by rw [← hnumber, heq]))
    exact .inl ((restOf_setExchange_ne hne).trans (restOf_framed h number))
  | removed h other =>
    exact (restOf_removeExchange _ other number).imp_left fun hsame =>
      hsame.trans (restOf_framed h number)

theorem brought_openings (e : Exchange) (place : Nat) (p : Progress) :
    (openings e place p).flatMap brought = [] := by
  unfold openings movesIf
  split
  · split
    · split_ifs <;> rfl
    · rfl
  · rfl

theorem brought_deliveries_of_slot (v : Server) {e : Exchange} (h : e.slot ≠ none) (place : Nat) :
    (v.deliveries e place).flatMap brought = [] := by
  unfold deliveries movesIf
  split
  · split_ifs <;> rfl
  · exact absurd ‹_› h
  · rfl

theorem brought_deliveries (v : Server) {e : Exchange} {m : Rpc.Message} {rest : List Rpc.Message}
    (h : e.rest = m :: rest) (place : Nat) :
    (v.deliveries e place).flatMap brought = [] ∨ (v.deliveries e place).flatMap brought = [m] := by
  obtain ⟨number, purpose, _, slot⟩ := e
  cases h
  cases slot with
  | some slot => exact .inl (brought_deliveries_of_slot v (Option.some_ne_none slot) place)
  | none =>
    simp only [deliveries, movesOf, movesFor, movesIf]
    split <;> (split_ifs <;> simp [brought])

theorem brought_deliveries_sublist (v : Server) (e : Exchange) (place : Nat) :
    ((v.deliveries e place).flatMap brought).Sublist e.rest := by
  cases hrest : e.rest with
  | nil =>
    have hnone : (v.deliveries e place).flatMap brought = [] := by
      unfold deliveries movesIf
      split
      · split_ifs <;> rfl
      · rw [hrest] at *
        rename_i h
        cases h
      · rfl
    rw [hnone]
  | cons m rest =>
    rcases brought_deliveries v hrest place with hnone | hone
    · rw [hnone]
      exact List.nil_sublist _
    · rw [hone]
      exact List.singleton_sublist.2 List.mem_cons_self

theorem delivered_eq_nil (service : Queue.Service σ) (v : Server) (place : Nat) {st : Step σ}
    (h : st.moves? ≠ some number) : v.delivered service place number st = [] := by
  have hother : ∀ (sender : Option Nat) (moves : List Move), sender ≠ some number →
      ((moves.map (sender, ·)).filter fun t => t.1 == some number).flatMap
        (fun t => brought t.2) = [] := fun sender moves hne => by
    rw [List.filter_eq_nil_iff.2 fun t ht => ?_]
    · rfl
    · obtain ⟨move, -, rfl⟩ := List.mem_map.1 ht
      simpa using hne
  unfold delivered
  cases st with
  | receive now draw request => exact hother none _ nofun
  | exchange now k queues =>
    simp only [touches]
    split
    · exact hother (some k) _ h
    · rfl
  | act signals now a =>
    cases a with
    | pump other => exact hother none _ nofun
    | work other ticket => exact hother none _ nofun
    | read k =>
      simp only [touches]
      split_ifs <;> rfl
    | handOver => exact hother none _ nofun
    | _ => rfl
  | abort k =>
    simp only [touches, movesIf]
    split
    · split_ifs
      · simp only [List.map_cons, List.map_nil, List.filter_cons, List.filter_nil]
        split_ifs <;> rfl
      · rfl
    · rfl
  | _ => rfl

theorem delivered_exchange {service : Queue.Service σ} {now : Nat} {queues : σ} {e : Exchange}
    (hfind : (v.exchanges.find? fun e => e.number == number) = some e) (place : Nat) :
    v.delivered service place number (.exchange now number queues) =
      (v.deliveries e place).flatMap brought := by
  simp only [delivered, touches, hfind]
  rw [List.filter_eq_self.2 fun t ht => ?_, List.flatMap_map, List.flatMap_append,
    brought_openings, List.append_nil]
  obtain ⟨move, -, rfl⟩ := List.mem_map.1 ht
  simp

theorem rest_exchange {service : Queue.Service σ} {now : Nat} {queues : σ} {e : Exchange}
    (hfind : (v.exchanges.find? fun e => e.number == number) = some e) (place : Nat) :
    ((v.deliveries e place).flatMap brought ++
      (v.step service (.exchange now number queues)).restOf number).Sublist e.rest := by
  have hframe := (touched_proceed service v now e queues 0).toFramed
  have hnumber : e.number = number := by simpa using List.find?_some hfind
  have hrest : v.restOf number = e.rest := by rw [restOf, hfind]
  simp only [step, stepExchange, hfind]
  split
  · rename_i e' v₁ queues' heq
    rw [heq] at hframe
    obtain ⟨hnumber', -, hslot⟩ := proceed_goesOn (congrArg Prod.fst heq)
    rw [restOf_setExchange_self (hframe.exchanges ▸ hfind) (hnumber'.trans hnumber)]
    rcases hslot with ⟨hslot, hsame⟩ | ⟨-, m, hm⟩
    · rw [brought_deliveries_of_slot v hslot, hsame]
      exact List.Sublist.refl _
    · rcases brought_deliveries v hm place with hnone | hone
      · rw [hnone, hm]
        exact List.sublist_cons_self _ _
      · rw [hone, hm]
        exact List.Sublist.refl _
  · rename_i v₁ queues' heq
    rw [heq] at hframe
    rw [restOf_framed hframe, hrest,
      brought_deliveries_of_slot v (proceed_blocked (congrArg Prod.fst heq))]
    exact List.Sublist.refl _
  · rw [restOf_removeExchange_self, List.append_nil]
    exact brought_deliveries_sublist v e place

/-- What an exchange delivers it no longer holds. -/
theorem rest_step (service : Queue.Service σ) (v : Server) (place : Nat) (st : Step σ)
    (hlt : number < v.nextExchange) :
    (v.delivered service place number st ++ (v.step service st).restOf number).Sublist
      (v.restOf number) := by
  by_cases hmoves : st.moves? = some number
  · cases st with
    | exchange now k queues =>
      cases hmoves
      cases hfind : v.exchanges.find? fun e => e.number == number with
      | none =>
        simp only [delivered, touches, step, stepExchange, hfind]
        exact List.Sublist.refl _
      | some e =>
        have hrest : v.restOf number = e.rest := by rw [restOf, hfind]
        rw [delivered_exchange hfind, hrest]
        exact rest_exchange hfind place
    | _ => cases hmoves
  · rw [delivered_eq_nil service v place hmoves, List.nil_append]
    rcases (change_step service v st).rest hmoves hlt with hsame | hnone
    · rw [hsame]
    · rw [hnone]
      exact List.nil_sublist _

end Server

end SessionRelay
