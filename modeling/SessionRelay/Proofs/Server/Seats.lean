import SessionRelay.Proofs.Server.Alike
import SessionRelay.Proofs.Server.Exchanges
import SessionRelay.Proofs.Server.Happening
import SessionRelay.Proofs.Session.Attention

/-!
# Who waits in line

Each exchange has at most one place in line, and so has the relay. A step takes no place but the next
one, so no two of them ever have the same (`Seated`); and nothing is done in the name of a writer but
by who has its place (`holder?_of_doing`).
-/

namespace SessionRelay

open Session (Doing Move)

namespace Server

variable {σ : Type} {v v' v₁ : Server} {s : Session} {place number other : Nat} {slot : Slot}

/-- The exchange of a number. -/
def exchange? (v : Server) (number : Nat) : Option Exchange :=
  v.exchanges.find? fun e => e.number == number

/-- The place in line of an exchange, or of the relay. -/
def held (v : Server) : Option Nat → Option Slot
  | none => v.relaySlot
  | some number => (v.exchange? number).bind Exchange.slot

/-- Who may use a place in line in a step, or give it up. -/
def Step.holder? : Step σ → Option (Option Nat)
  | .exchange _ number _ | .abort number => some (some number)
  | .act _ _ .handOver => some none
  | _ => none

/-! ## Exchanges -/

theorem exchange?_framed (h : Framed v v') (number : Nat) :
    v'.exchange? number = v.exchange? number := by
  rw [exchange?, h.exchanges, exchange?]

theorem number_of_exchange? {e : Exchange} (h : v.exchange? number = some e) :
    e.number = number := by
  simpa using List.find?_some h

theorem exchange?_setExchange_self {e e' : Exchange} (h : v.exchange? number = some e)
    (hnumber : e'.number = number) : (v.setExchange e').exchange? number = some e' := by
  rw [exchange?] at h
  have he : e.number = number := by simpa using List.find?_some h
  rw [exchange?, find?_setExchange, h, Option.map_some, if_pos (by simp [he, hnumber])]

theorem exchange?_setExchange_ne {e' : Exchange} (h : e'.number ≠ number) :
    (v.setExchange e').exchange? number = v.exchange? number := by
  rw [exchange?, find?_setExchange, exchange?]
  cases hold : v.exchanges.find? fun e => e.number == number with
  | none => rfl
  | some old =>
    have hnumber : old.number = number := by simpa using List.find?_some hold
    rw [Option.map_some, if_neg (by simp [hnumber, Ne.symm h])]

theorem exchange?_removeExchange_self (v : Server) (number : Nat) :
    (v.removeExchange number).exchange? number = none := by
  rw [exchange?, removeExchange, List.find?_filter]
  refine List.find?_eq_none.2 fun e _ => ?_
  by_cases he : e.number = number <;> simp [he]

theorem exchange?_removeExchange_ne (v : Server) (h : other ≠ number) :
    (v.removeExchange other).exchange? number = v.exchange? number := by
  rw [exchange?, removeExchange, List.find?_filter, exchange?]
  congr 1
  funext e
  by_cases he : e.number = number <;> simp [he, Ne.symm h]

theorem exchange?_start (v : Server) (purpose : Purpose) (messages : List Rpc.Message)
    (number : Nat) : (v.start purpose messages).2.exchange? number = v.exchange? number ∨
      v.exchange? number = none ∧ number = v.nextExchange ∧
        (v.start purpose messages).2.exchange? number =
          some { number := v.nextExchange, purpose, rest := messages } := by
  simp only [exchange?, start, List.find?_append]
  cases v.exchanges.find? fun e => e.number == number with
  | some e => exact .inl rfl
  | none =>
    by_cases h : v.nextExchange = number
    · exact .inr ⟨rfl, h.symm, by simp [h]⟩
    · exact .inl (by simp [h])

theorem exchange?_start_self (ho : v.Orderly) (purpose : Purpose) (messages : List Rpc.Message) :
    (v.start purpose messages).2.exchange? v.nextExchange =
      some { number := v.nextExchange, purpose, rest := messages } := by
  have hnone : (v.exchanges.find? fun e => e.number == v.nextExchange) = none := by
    refine List.find?_eq_none.2 fun e he => ?_
    have hlt := ho.number_lt e he
    simp only [beq_iff_eq]
    omega
  simp only [exchange?, start, List.find?_append, hnone, Option.none_or, List.find?_cons,
    beq_self_eq_true]

theorem exchange?_stepExchange_ne (service : Queue.Service σ) (v : Server) (now : Nat) (queues : σ)
    (h : other ≠ number) :
    (v.stepExchange service now other queues).2.1.exchange? number = v.exchange? number := by
  unfold stepExchange
  split
  · rfl
  · rename_i e hfind
    have he : e.number = other := number_of_exchange? hfind
    have hframed := (touched_proceed service v now e queues 0).toFramed
    split <;> rename_i heq
    · obtain ⟨hnumber, -⟩ := proceed_goesOn (congrArg Prod.fst heq)
      rw [heq] at hframed
      rw [exchange?_setExchange_ne (by rw [hnumber, he]; exact h), exchange?_framed hframed]
    · rw [heq] at hframed
      exact exchange?_framed hframed number
    · rw [heq] at hframed
      rw [exchange?_removeExchange_ne _ h, exchange?_framed hframed]

theorem exchange?_abort_ne (v : Server) (h : other ≠ number) :
    (v.abort other).exchange? number = v.exchange? number := by
  unfold abort
  split
  · rfl
  · split
    · rw [exchange?_removeExchange_ne _ h]
      rfl
    · exact exchange?_removeExchange_ne v h

/-- An exchange is as it was unless it has its turn, or is new. -/
theorem exchange?_step (service : Queue.Service σ) {st : Step σ} (hturn : st.turn? ≠ some number) :
    (v.step service st).exchange? number = v.exchange? number ∨
      v.exchange? number = none ∧ number = v.nextExchange ∧
        ∃ e, (v.step service st).exchange? number = some e ∧ e.slot = none := by
  cases hnone : st.turn? with
  | none =>
    rcases framed_step service hnone with hframed | ⟨v₁, purpose, messages, hframed, -, hv⟩
    · exact .inl (exchange?_framed hframed number)
    · rw [hv, ← exchange?_framed hframed, ← hframed.nextExchange]
      rcases v₁.exchange?_start purpose messages number with h | ⟨hnot, hnew, h⟩
      · exact .inl h
      · exact .inr ⟨hnot, hnew, _, h, rfl⟩
  | some other =>
    have hne : other ≠ number := fun h => hturn (h ▸ hnone)
    left
    cases st with
    | exchange now k queues =>
      cases hnone
      exact exchange?_stepExchange_ne service v now queues hne
    | abort k =>
      cases hnone
      exact v.exchange?_abort_ne hne
    | _ => cases hnone

/-! ## Places in line -/

/-- A place that is the next one at its queue. -/
def Fresh (v : Server) (slot : Slot) (v' : Server) : Prop :=
  (∃ s, v.table.session? slot.session = some s ∧
      slot.ticket = s.transport.inbound.nextTicket) ∧
    ∃ s, v'.table.session? slot.session = some s ∧ slot.ticket < s.transport.inbound.nextTicket

theorem offer_waiting {q q' : Inbound} {m : Rpc.Message} {ticket : Nat}
    (h : q.offer m = (.waiting ticket, q')) :
    ticket = q.nextTicket ∧ q'.nextTicket = q.nextTicket + 1 := by
  unfold Inbound.offer at h
  split_ifs at h
  · cases h
  · cases h
  · cases h
    exact ⟨rfl, rfl⟩

theorem fresh_offer {m : Rpc.Message} {ticket : Nat} (h : v.offer place m = (.waiting ticket, v')) :
    Fresh v ⟨place, ticket⟩ v' := by
  unfold offer Session.offer Transport.offer at h
  split at h
  · cases h
  · rename_i s hs
    split_ifs at h
    · cases h
    · cases hoffer : s.transport.inbound.offer m with
      | mk outcome q =>
        rw [hoffer] at h
        cases h
        obtain ⟨hticket, hnext⟩ := offer_waiting hoffer
        refine ⟨⟨s, hs, hticket⟩, { s with transport := { s.transport with inbound := q } }, ?_, ?_⟩
        · rw [modify, SessionTable.session?_modify, hs, Option.map_some, if_pos rfl]
        · show ticket < q.nextTicket
          omega

theorem fresh_deliverLocal {clientId : String} {m : Rpc.Message}
    (h : v.deliverLocal clientId m = (.waiting slot, v')) : Fresh v slot v' := by
  unfold deliverLocal at h
  split at h
  · cases h
  · split at h <;> rename_i hoffer <;> cases h
    exact fresh_offer hoffer

theorem fresh_deliverFor {service : Queue.Service σ} {e : Exchange} {m : Rpc.Message}
    {queues queues' : σ} (h : v.deliverFor service e m queues = (.waiting slot, v', queues')) :
    Fresh v slot v' := by
  have hdeliver : ∀ {client : ClientState},
      v.deliver service client m queues = (.waiting slot, v', queues') → Fresh v slot v' := by
    intro client h
    unfold deliver at h
    split_ifs at h
    · obtain ⟨hhanded, hv, -⟩ := Prod.mk.inj h |>.imp_right Prod.mk.inj
      exact fresh_deliverLocal (Prod.ext hhanded hv)
    · split at h <;> cases h
    · cases h
  unfold deliverFor at h
  split at h
  · exact hdeliver h
  · exact hdeliver h
  · split at h <;> rename_i hoffer <;> cases h
    exact fresh_offer hoffer

/-- An exchange that goes on has a place in line only if it has just taken it. -/
theorem slot_of_goesOn {service : Queue.Service σ} {now : Nat} {e e' : Exchange}
    {queues queues' : σ} (h : v.proceed service now e queues = (.goesOn e', v', queues')) :
    e'.slot = none ∨ ∃ slot, e'.slot = some slot ∧ Fresh v slot v' := by
  have hfail : ∀ {v : Server} {e : Exchange} {fault : Fault} {queues : σ},
      ((v.fail now e fault).1, (v.fail now e fault).2, queues) =
        (Progress.goesOn e', v', queues') → e'.slot = none := by
    intro v e fault queues h
    rw [fail_goesOn (congrArg Prod.fst h)]
  obtain ⟨number, purpose, rest, slot⟩ := e
  cases slot with
  | some slot =>
    simp only [proceed] at h
    split at h
    · cases h
    · cases h
      exact .inl rfl
    · exact .inl (hfail h)
  | none =>
    cases rest with
    | nil => cases h
    | cons m rest =>
      simp only [proceed] at h
      split at h
      · cases h
        exact .inl rfl
      · rename_i slot v₁ queues₁ hdeliver
        cases h
        exact .inr ⟨slot, rfl, fresh_deliverFor hdeliver⟩
      · exact .inl (hfail h)

theorem held_stepExchange (service : Queue.Service σ) (v : Server) (now number : Nat)
    (queues : σ) : (v.stepExchange service now number queues).2.1.held (some number) =
        v.held (some number) ∨
      (v.stepExchange service now number queues).2.1.held (some number) = none ∨
      ∃ slot, (v.stepExchange service now number queues).2.1.held (some number) = some slot ∧
        Fresh v slot (v.stepExchange service now number queues).2.1 := by
  unfold stepExchange
  split
  · exact .inl rfl
  · rename_i e hfind
    have he : e.number = number := number_of_exchange? hfind
    have hframed := (touched_proceed service v now e queues 0).toFramed
    split <;> rename_i heq <;> rw [heq] at hframed
    · rename_i e' v' queues'
      have hnumber : e'.number = number := (proceed_goesOn (congrArg Prod.fst heq)).1.trans he
      have hslot : (v'.setExchange e').held (some number) = e'.slot := by
        have hafter := (exchange?_framed hframed number).trans hfind
        rw [held, exchange?_setExchange_self hafter hnumber]
        rfl
      rw [hslot]
      rcases slot_of_goesOn heq with hnone | ⟨slot, hsome, hfresh⟩
      · exact .inr (.inl hnone)
      · exact .inr (.inr ⟨slot, hsome, hfresh⟩)
    · exact .inl (congrArg (Option.bind · Exchange.slot) (exchange?_framed hframed number))
    · exact .inr (.inl (congrArg (Option.bind · Exchange.slot)
        (exchange?_removeExchange_self _ number)))

theorem held_abort (v : Server) (number : Nat) : (v.abort number).held (some number) = none := by
  have hnone : (v.abort number).exchange? number = none := by
    unfold abort
    split
    · assumption
    · split <;> exact exchange?_removeExchange_self _ number
  rw [held, hnone]
  rfl

theorem held_handOver (v : Server) : v.handOver.held none = v.held none ∨
    v.handOver.held none = none ∨
      ∃ slot, v.handOver.held none = some slot ∧ Fresh v slot v.handOver := by
  unfold handOver
  cases hslot : v.relaySlot with
  | some slot =>
    simp only
    split
    · exact .inr (.inl rfl)
    · exact .inl rfl
  | none =>
    simp only
    split
    · exact .inl rfl
    · rename_i envelope rest _
      split <;> rename_i heq
      · obtain ⟨hbefore, hafter⟩ := fresh_deliverLocal heq
        exact .inr (.inr ⟨_, rfl, hbefore, hafter⟩)
      · have halike := alike_deliverLocal { v with relayed := rest, relaySlot := none }
          envelope.clientId envelope.message
        rw [heq] at halike
        exact .inr (.inl halike.relaySlot)

/-- What a step does to the place of an exchange or of the relay. -/
theorem held_step (service : Queue.Service σ) (v : Server) (st : Step σ) (h : Option Nat) :
    (v.step service st).held h = v.held h ∨ (v.step service st).held h = none ∨
      st.holder? = some h ∧
        ∃ slot, (v.step service st).held h = some slot ∧ Fresh v slot (v.step service st) := by
  cases h with
  | none =>
    by_cases hover : ∃ signals now, st = .act signals now .handOver
    · obtain ⟨signals, now, rfl⟩ := hover
      rcases v.held_handOver with h | h | h
      · exact .inl h
      · exact .inr (.inl h)
      · exact .inr (.inr ⟨rfl, h⟩)
    · exact .inl ((alike_step service v st).2.2 fun signals now h => hover ⟨signals, now, h⟩)
  | some number =>
    by_cases hturn : st.turn? = some number
    · cases st with
      | exchange now k queues =>
        obtain rfl := Option.some.inj hturn
        rcases held_stepExchange service v now k queues with h | h | h
        · exact .inl h
        · exact .inr (.inl h)
        · exact .inr (.inr ⟨rfl, h⟩)
      | abort k =>
        obtain rfl := Option.some.inj hturn
        exact .inr (.inl (v.held_abort k))
      | _ => cases hturn
    · rcases exchange?_step service hturn with h | ⟨-, -, e, h, hnone⟩
      · exact .inl (congrArg (Option.bind · Exchange.slot) h)
      · refine .inr (.inl ?_)
        rw [held, h]
        exact hnone

/-! ## One place for each -/

/-- No two writers have the same place, and no place is still to be given. -/
structure Seated (v : Server) : Prop where
  apart : ∀ {h h' : Option Nat} {slot : Slot}, v.held h = some slot → v.held h' = some slot → h = h'
  given : ∀ {h : Option Nat} {slot : Slot}, v.held h = some slot →
    ∃ s, v.table.session? slot.session = some s ∧ slot.ticket < s.transport.inbound.nextTicket

theorem Seated.of_idle (hexchanges : v.exchanges = []) (hslot : v.relaySlot = none) :
    v.Seated := by
  have hnone : ∀ h, v.held h = none := by
    intro h
    cases h with
    | none => exact hslot
    | some number => rw [held, exchange?, hexchanges, List.find?_nil, Option.bind_none]
  constructor
  · intro h h' slot hheld
    rw [hnone] at hheld
    cases hheld
  · intro h slot hheld
    rw [hnone] at hheld
    cases hheld

/-- Only places that come next are taken, and sessions stay where they are. -/
theorem Seated.of_held (hseated : v.Seated) {holder : Option (Option Nat)}
    (hheld : ∀ h, v'.held h = v.held h ∨ v'.held h = none ∨
      holder = some h ∧ ∃ slot, v'.held h = some slot ∧ Fresh v slot v')
    (hlater : ∀ place s, v.table.session? place = some s →
      ∃ s', v'.table.session? place = some s' ∧
        s.transport.inbound.nextTicket ≤ s'.transport.inbound.nextTicket) : v'.Seated := by
  have hcases : ∀ {h slot}, v'.held h = some slot →
      v.held h = some slot ∨ holder = some h ∧ Fresh v slot v' := by
    intro h slot hslot
    rcases hheld h with hsame | hnone | ⟨hholder, new, hnew, hfresh⟩
    · exact .inl (hsame ▸ hslot)
    · rw [hnone] at hslot
      cases hslot
    · obtain rfl := Option.some.inj (hnew.symm.trans hslot)
      exact .inr ⟨hholder, hfresh⟩
  -- A place that was held before has a ticket below that of a new one.
  have hold : ∀ {h slot}, v.held h = some slot → ¬ Fresh v slot v' := by
    rintro h slot hslot ⟨⟨s, hs, hticket⟩, -⟩
    obtain ⟨s₁, hs₁, hlt⟩ := hseated.given hslot
    obtain rfl := Option.some.inj (hs.symm.trans hs₁)
    omega
  constructor
  · intro h h' slot hslot hslot'
    rcases hcases hslot with hbefore | ⟨hholder, hfresh⟩
    · rcases hcases hslot' with hbefore' | ⟨-, hfresh⟩
      · exact hseated.apart hbefore hbefore'
      · exact absurd hfresh (hold hbefore)
    · rcases hcases hslot' with hbefore' | ⟨hholder', -⟩
      · exact absurd hfresh (hold hbefore')
      · exact Option.some.inj (hholder.symm.trans hholder')
  · intro h slot hslot
    rcases hcases hslot with hbefore | ⟨-, -, hnew⟩
    · obtain ⟨s, hs, hlt⟩ := hseated.given hbefore
      obtain ⟨s', hs', hle⟩ := hlater _ s hs
      exact ⟨s', hs', Nat.lt_of_lt_of_le hlt hle⟩
    · exact hnew

theorem held_start (v : Server) (purpose : Purpose) (messages : List Rpc.Message)
    (h : Option Nat) : (v.start purpose messages).2.held h = v.held h := by
  cases h with
  | none => rfl
  | some number =>
    rcases exchange?_start v purpose messages number with hsame | ⟨hnone, -, hnew⟩
    · rw [held, hsame, held]
    · rw [held, hnew, held, hnone]
      rfl

theorem Seated.start (h : v.Seated) (purpose : Purpose) (messages : List Rpc.Message) :
    (v.start purpose messages).2.Seated where
  apart := by
    intro holder other slot hheld hheld'
    rw [held_start] at hheld hheld'
    exact h.apart hheld hheld'
  given := by
    intro holder slot hheld
    rw [held_start] at hheld
    exact h.given hheld

theorem nextTicket_step (service : Queue.Service σ) (st : Step σ)
    (hs : v.table.session? place = some s) :
    ∃ s', (v.step service st).table.session? place = some s' ∧
      s.transport.inbound.nextTicket ≤ s'.transport.inbound.nextTicket :=
  ⟨_, session_doings service st hs, Session.nextTicket_foldl v.router _ s⟩

theorem Seated.step (h : v.Seated) (service : Queue.Service σ) (st : Step σ) :
    (v.step service st).Seated :=
  h.of_held (held_step service v st) fun _ _ hs => nextTicket_step service st hs

theorem Reaches.seated {service : Queue.Service σ} (h : v.Seated)
    (hreaches : Reaches service v v') : v'.Seated := by
  induction hreaches with
  | refl => exact h
  | step st _ ih => exact ih.step service st

/-! ## In whose name a step acts -/

/-- The places in line that some moves use or give up. -/
def seats (moves : List Move) : List Nat := moves.filterMap fun move => (Doing.move move).seat?

theorem seats_movesFor (v : Server) (clientId : String) (place : Nat) (m : Rpc.Message) :
    seats (v.movesFor clientId place m) = [] := by
  unfold movesFor
  split_ifs <;> rfl

theorem seats_movesOf (v : Server) (e : Exchange) (place : Nat) (m : Rpc.Message) :
    seats (v.movesOf e place m) = [] := by
  unfold movesOf
  split
  · split_ifs
    · exact v.seats_movesFor _ place m
    · rfl
  · split_ifs
    · exact v.seats_movesFor _ place m
    · rfl
  · unfold movesIf
    split_ifs <;> rfl

theorem seats_movesIf {move : Move} {ticket : Nat} (h : ticket ∈ seats (movesIf other place move)) :
    other = place ∧ (Doing.move move).seat? = some ticket := by
  unfold movesIf at h
  split_ifs at h with hplace
  · obtain ⟨move', hmove, hseat⟩ := List.mem_filterMap.1 h
    rw [List.mem_singleton.1 hmove] at hseat
    exact ⟨hplace, hseat⟩
  · cases h

theorem seats_openings (e : Exchange) (place : Nat) (p : Progress) :
    seats (openings e place p) = [] := by
  unfold openings
  split
  · split
    · unfold movesIf
      split_ifs <;> rfl
    · rfl
  · rfl

theorem seats_complaints (v : Server) (place : Nat) (r : Http.Request) :
    seats (v.complaints place r) = [] := by
  unfold complaints
  split
  · split_ifs <;> rfl
  · rfl

theorem seat?_doneIf {doing ending : Doing} (hending : ending.seat? = none)
    (h : doing ∈ doneIf other place ending) : doing.seat? = none := by
  unfold doneIf at h
  split_ifs at h
  · rw [List.mem_singleton.1 h]
    exact hending
  · cases h

theorem seat?_endings {st : Step σ} {doing : Doing} (h : doing ∈ v.endings place st) :
    doing.seat? = none := by
  unfold endings at h
  split at h
  · exact seat?_doneIf rfl h
  · exact seat?_doneIf rfl h
  · split at h
    · exact seat?_doneIf rfl h
    · cases h
  · exact seat?_doneIf rfl h
  · obtain ⟨p, -, rfl⟩ := List.mem_map.1 h
    rfl
  · cases h

/-- Only who has a place in line uses it in a step, or gives it up. -/
theorem holder?_of_seat (service : Queue.Service σ) {st : Step σ} {ticket : Nat}
    (h : ticket ∈ seats ((v.touches service place st).map Prod.snd)) :
    ∃ holder, st.holder? = some holder ∧ v.held holder = some ⟨place, ticket⟩ := by
  have hplace : ∀ {slot : Slot} {move : Move}, ticket ∈ seats (movesIf slot.session place move) →
      (Doing.move move).seat? = some slot.ticket → slot = ⟨place, ticket⟩ := by
    intro slot move hmem hslot
    obtain ⟨rfl, hseat⟩ := seats_movesIf hmem
    rw [hslot] at hseat
    cases hseat
    rfl
  cases st with
  | receive now draw request =>
    rw [touches, map_snd, seats_complaints] at h
    cases h
  | exchange now number queues =>
    simp only [touches] at h
    split at h
    · rename_i e hfind
      rw [map_snd, seats, List.filterMap_append, ← seats, ← seats, seats_openings,
        List.append_nil, deliveries] at h
      split at h
      · rename_i slot hslot
        refine ⟨some number, rfl, ?_⟩
        rw [held, exchange?, hfind, Option.bind_some, hslot, hplace h rfl]
      · rw [seats_movesOf] at h
        cases h
      · cases h
    · cases h
  | act signals now a =>
    cases a with
    | pump other =>
      rw [touches, map_snd] at h
      cases (seats_movesIf h).2
    | work other ticket =>
      rw [touches, map_snd] at h
      cases (seats_movesIf h).2
    | read number =>
      simp only [touches] at h
      split_ifs at h <;> cases h
    | handOver =>
      rw [touches, map_snd, handovers] at h
      split at h
      · rename_i slot _ hslot
        refine ⟨none, rfl, ?_⟩
        rw [held, hslot, hplace h rfl]
      · rw [seats_movesFor] at h
        cases h
      · cases h
    | stopPump other => cases h
    | watch other => cases h
  | abort number =>
    simp only [touches] at h
    split at h
    · rename_i slot hslot
      rw [map_snd] at h
      refine ⟨some number, rfl, ?_⟩
      rw [held, exchange?, hslot, hplace h rfl]
    · cases h
  | _ => cases h

theorem holder?_of_doing (service : Queue.Service σ) {st : Step σ} {doing : Doing} {ticket : Nat}
    (hdoing : doing ∈ v.doings service place (.step st)) (hseat : doing.seat? = some ticket) :
    ∃ holder, st.holder? = some holder ∧ v.held holder = some ⟨place, ticket⟩ := by
  rcases List.mem_append.1 hdoing with hdoing | hdoing
  · obtain ⟨touch, htouch, rfl⟩ := List.mem_map.1 hdoing
    refine holder?_of_seat service (List.mem_filterMap.2 ⟨touch.2, ?_, hseat⟩)
    exact List.mem_map_of_mem htouch
  · rw [seat?_endings hdoing] at hseat
    cases hseat

end Server

end SessionRelay
