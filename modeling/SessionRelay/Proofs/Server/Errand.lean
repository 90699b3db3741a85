import SessionRelay.Proofs.Server.Admission
import SessionRelay.Proofs.Server.Endpoint
import SessionRelay.Proofs.Server.Turns
import SessionRelay.Queue.Rehearsal

/-!
# Errands for a client

An errand follows an exchange for a client while anything else happens at the instance: sessions
end, the relay fails, other exchanges go on. What it has put on queues at any time are its first
messages, each where it belongs, and it is told that they are accepted when all of them are there
(`accepted_means_queued`). A request that is too long to be read runs none.
-/

namespace SessionRelay

open Session (Doing Attends)
open Server (Happening Step)
open SessionTable (Turnover)

variable {σ : Type} {service : Queue.Service σ} {v : Server} {h : Happening σ} {clientId : String}
  {client : ClientState} {purpose : Purpose} {messages : List Rpc.Message} {number place k : Nat}
  {first : SessionTable} {e : Exchange}

namespace Server

/-! ## What others do -/

/-- What happens leaves an exchange and the id of its client alone: no session is opened under the
id, and nobody else uses the place in line of the exchange. -/
structure Spares (v : Server) (clientId : String) (number : Nat) (h : Happening σ) : Prop where
  fresh : h.drawn? ≠ some clientId
  settle : ∀ slot, h = .settle slot → v.held (some number) ≠ some slot
  giveUp : ∀ slot, h = .giveUp slot → v.held (some number) ≠ some slot

/-- A place in line is used or given up by its holder, or by who was told of it. -/
theorem seat_happen (service : Queue.Service σ) {doing : Doing} {ticket : Nat}
    (hdoing : doing ∈ v.doings service place h) (hseat : doing.seat? = some ticket) :
    (∃ st holder, h = .step st ∧ st.holder? = some holder ∧ v.held holder = some ⟨place, ticket⟩) ∨
      h = .settle ⟨place, ticket⟩ ∨ h = .giveUp ⟨place, ticket⟩ := by
  have hnone : ∀ {other : Nat} {ending : Doing}, ending.seat? = none →
      doing ∉ doneIf other place ending := by
    intro other ending hending hmem
    rw [seat?_doneIf hending hmem] at hseat
    cases hseat
  cases h with
  | step st =>
    obtain ⟨holder, hholder, hheld⟩ := holder?_of_doing service hdoing hseat
    exact .inl ⟨st, holder, rfl, hholder, hheld⟩
  | deliver client m queues =>
    have hoffers : doing ∈ (v.movesFor client.clientId place m).map Doing.move := by
      simp only [doings] at hdoing
      split_ifs at hdoing
      · exact hdoing
      · cases hdoing
    obtain ⟨move, hmem, rfl⟩ := List.mem_map.1 hoffers
    have hseats : ticket ∈ seats (v.movesFor client.clientId place m) :=
      List.mem_filterMap.2 ⟨move, hmem, hseat⟩
    rw [seats_movesFor] at hseats
    cases hseats
  | settle slot =>
    obtain ⟨rfl, rfl⟩ := mem_doneIf.1 hdoing
    obtain rfl := Option.some.inj hseat
    exact .inr (.inl rfl)
  | giveUp slot =>
    obtain ⟨rfl, rfl⟩ := mem_doneIf.1 hdoing
    obtain rfl := Option.some.inj hseat
    exact .inr (.inr rfl)
  | create kind parent draw => cases hdoing
  | stop other => exact absurd hdoing (hnone rfl)
  | mark other => exact absurd hdoing (hnone rfl)
  | dispose other => exact absurd hdoing (hnone rfl)
  | remove other => cases hdoing
  | endParent name =>
    simp only [doings] at hdoing
    split at hdoing
    · split_ifs at hdoing
      · rw [List.mem_singleton.1 hdoing] at hseat
        cases hseat
      · cases hdoing
    · cases hdoing

theorem turn?_of_holder? {st : Step σ} (h : st.holder? = some (some number)) :
    st.turn? = some number := by
  cases st with
  | exchange now k queues => exact Option.some.inj h
  | abort k => exact Option.some.inj h
  | act signals now a => cases a <;> cases h
  | _ => cases h

/-- Nothing is done in the name of an exchange that has no turn. -/
theorem Spares.seat (hspares : v.Spares clientId number h) (hseated : v.Seated)
    (hturn : h.turn? ≠ some number) {slot : Slot} (hheld : v.held (some number) = some slot) :
    ∀ doing ∈ v.doings service slot.session h, doing.seat? ≠ some slot.ticket := by
  intro doing hdoing hseat
  rcases seat_happen service hdoing hseat with ⟨st, holder, rfl, hholder, hplace⟩ | rfl | rfl
  · obtain rfl := hseated.apart hplace hheld
    exact hturn (turn?_of_holder? hholder)
  · exact hspares.settle _ rfl hheld
  · exact hspares.giveUp _ rfl hheld

/-- A session that is gone stays gone. -/
theorem gone_happen (service : Queue.Service σ) (hkeyed : v.table.Keyed)
    (hfresh : h.drawn? ≠ some clientId) (hgone : v.table.Gone clientId) :
    (v.happen service h).table.Gone clientId := by
  intro place s' hfind hs' hattends
  have hbefore := (turnover_happen service v h).find? hkeyed hfresh hfind
  have hlt := hkeyed.place_lt _ (SessionTable.mem_live_of_find? hbefore)
  have hs : v.table.session? place = some v.table.opened[place] := List.getElem?_eq_getElem hlt
  rw [session_happen service h hs] at hs'
  obtain rfl := Option.some.inj hs'
  exact hgone place _ hbefore hs (Session.attends_of_foldl _ hattends)

/-- An exchange that has no turn stands where it stood. -/
theorem at_happen (service : Queue.Service σ) (ho : v.Ordinary)
    (hspares : v.Spares client.clientId number h) (hturn : h.turn? ≠ some number)
    (he : v.exchange? number = some e) (hat : At first v.table client messages k e) :
    At first (v.happen service h).table client messages k e := by
  have howner : (v.happen service h).table.instanceId = v.table.instanceId :=
    instanceId_happen service v h
  cases hat with
  | free hslot hrest => exact .free hslot hrest
  | inLine slot m s hslot hnear hfirst hrest hs hawaits =>
    have hheld : v.held (some number) = some slot := by
      rw [held, he]
      exact hslot
    obtain ⟨s₁, hs₁, hlt⟩ := ho.seated.given hheld
    obtain rfl := Option.some.inj (hs.symm.trans hs₁)
    exact .inLine slot m _ hslot (howner ▸ hnear) hfirst hrest (session_happen service h hs)
      (Session.awaits_foldl _ hlt (hspares.seat ho.seated hturn hheld) hawaits)
  | drops hslot hroute hnear hgone hk =>
    exact .drops hslot hroute (howner ▸ hnear)
      (gone_happen service ho.keyed hspares.fresh hgone) hk

end Server

/-! ## Errands -/

/-- How the messages of an exchange fare: what its turns have put on queues, how many sessions they
have opened, how many of them there were in which it could go on, and what it was answered. -/
structure Errand (σ : Type) where
  server : Server
  puts : List Deposit := []
  opened : Nat := 0
  turns : Nat := 0
  answers : List (Answer σ) := []

namespace Errand

variable {c start : Errand σ}

/-- The exchange goes on. -/
def turn (service : Queue.Service σ) (number : Nat) (c : Errand σ) (now : Nat) (queues : σ) :
    Errand σ :=
  let (reply, server, _, sent) := c.server.stepExchange service.logged now number (queues, [])
  { server
    puts := c.puts ++ (c.server.growth server ++ sent.map fun (queue, text) => .relay queue text)
    opened := c.opened + (server.table.opened.length - c.server.table.opened.length)
    turns := c.turns + if c.server.canTurn number then 1 else 0
    answers := c.answers ++ reply.toList.map fun reply => ⟨c.server, queues, reply⟩ }

/-- The errand after something has happened. -/
def next (service : Queue.Service σ) (number : Nat) (c : Errand σ) : Happening σ → Errand σ
  | .step (.exchange now k queues) =>
    if k = number then c.turn service number now queues
    else { c with server := c.server.step service (.exchange now k queues) }
  | h => { c with server := c.server.happen service h }

/-- An errand goes on whatever happens, but for what does not leave the exchange and its client
alone. -/
inductive Run (service : Queue.Service σ) (clientId : String) (number : Nat) (start : Errand σ) :
    Errand σ → Prop
  | refl : Run service clientId number start start
  | step {c : Errand σ} (h : Happening σ) (hrun : Run service clientId number start c)
    (hspares : c.server.Spares clientId number h) :
    Run service clientId number start (c.next service number h)

/-- Steps that open no session under the id of the client leave the exchange alone. -/
theorem Run.steps : ∀ (steps : List (Step σ)) {c : Errand σ},
    Run service clientId number start c →
    (∀ st ∈ steps, (Happening.step st).drawn? ≠ some clientId) →
      Run service clientId number start
        ((steps.map Happening.step).foldl (next service number) c)
  | [], _, hrun, _ => hrun
  | st :: rest, _, hrun, hfresh => by
    obtain ⟨hst, hrest⟩ := List.forall_mem_cons.1 hfresh
    exact Run.steps rest (hrun.step (.step st) ⟨hst, nofun, nofun⟩) hrest

theorem turn_server (service : Queue.Service σ) (number : Nat) (c : Errand σ) (now : Nat)
    (queues : σ) :
    (c.turn service number now queues).server =
      c.server.step service (.exchange now number queues) := by
  obtain ⟨log, hlogged⟩ := Server.stepExchange_logged service c.server queues [] now number
  simp only [turn, hlogged]
  rfl

theorem next_server (service : Queue.Service σ) (number : Nat) (c : Errand σ) (h : Happening σ) :
    (c.next service number h).server = c.server.happen service h := by
  cases h with
  | step st =>
    cases st with
    | exchange now k queues =>
      simp only [next]
      split_ifs with hk
      · rw [hk]
        exact c.turn_server service number now queues
      · rfl
    | _ => rfl
  | _ => rfl

/-- An errand follows what happens at the instance, and nothing else. -/
theorem Run.server (hrun : Run service clientId number start c) :
    ∃ events : List (Happening σ),
      c.server = events.foldl (Server.happen service) start.server := by
  induction hrun with
  | refl => exact ⟨[], rfl⟩
  | step h _ _ ih =>
    obtain ⟨events, hserver⟩ := ih
    exact ⟨events ++ [h], by rw [next_server, hserver, List.foldl_append]; rfl⟩

/-- What others do leaves the errand where it is. -/
theorem next_of_other (service : Queue.Service σ) (c : Errand σ) (hturn : h.turn? ≠ some number) :
    c.next service number h = { c with server := c.server.happen service h } := by
  cases h with
  | step st =>
    cases st with
    | exchange now k queues => exact if_neg fun hk => hturn (congrArg some hk)
    | _ => rfl
  | _ => rfl

/-! ## Where an errand stands -/

/-- The exchange has put the first `k` of its messages, and goes on. -/
structure Pending (first : SessionTable) (client : ClientState) (purpose : Purpose)
    (messages : List Rpc.Message) (number k : Nat) (c : Errand σ) (e : Exchange) : Prop where
  find : c.server.exchange? number = some e
  purpose : e.purpose = purpose
  stands : At first c.server.table client messages k e
  answers : c.answers = []
  turns : c.turns + Server.turnsLeft e ≤ 2 * messages.length

/-- The exchange has put the first `k` of its messages, and was answered; or its client went away
before that. -/
structure Over (service : Queue.Service σ) (client : ClientState) (purpose : Purpose)
    (messages : List Rpc.Message) (number k : Nat) (c : Errand σ) : Prop where
  find : c.server.exchange? number = none
  answers : c.answers = [] ∧ c.turns ≤ 2 * messages.length ∨
    ∃ a, c.answers = [a] ∧ Verdict service client purpose messages k a

inductive Stands (service : Queue.Service σ) (first : SessionTable) (client : ClientState)
    (purpose : Purpose) (messages : List Rpc.Message) (number k : Nat) (c : Errand σ) : Prop
  | pending (e : Exchange) (h : c.Pending first client purpose messages number k e)
  | ended (h : c.Over service client purpose messages number k)

structure Sound (service : Queue.Service σ) (first : SessionTable) (client : ClientState)
    (purpose : Purpose) (messages : List Rpc.Message) (number k : Nat) (c : Errand σ) : Prop where
  ordinary : c.server.Ordinary
  owner : first.instanceId = c.server.instanceId
  leads : ∀ place, c.server.table.find? client.clientId = some place →
    first.find? client.clientId = some place
  number_lt : number < c.server.nextExchange
  opened : c.opened = 0
  le : k ≤ messages.length
  puts : c.puts.map some = (messages.take k).map (first.destination? client)
  stands : c.Stands service first client purpose messages number k

/-- What happens keeps the instance as it should be. -/
theorem Sound.keeps (h : c.Sound service first client purpose messages number k)
    {what : Happening σ} (hspares : c.server.Spares client.clientId number what) {c' : Errand σ}
    (hserver : c'.server = c.server.happen service what) {k' : Nat} (hopened : c'.opened = 0)
    (hle : k' ≤ messages.length)
    (hputs : c'.puts.map some = (messages.take k').map (first.destination? client))
    (hstands : c'.Stands service first client purpose messages number k') :
    c'.Sound service first client purpose messages number k' where
  ordinary := hserver ▸ h.ordinary.happen service what
  owner := by
    rw [hserver, Server.instanceId_happen]
    exact h.owner
  leads := by
    intro place hfind
    rw [hserver] at hfind
    exact h.leads place ((Server.turnover_happen service c.server what).find? h.ordinary.keyed
      hspares.fresh hfind)
  number_lt := hserver ▸ Nat.lt_of_lt_of_le h.number_lt (Server.nextExchange_happen service _ what)
  opened := hopened
  le := hle
  puts := hputs
  stands := hstands

theorem Sound.other (h : c.Sound service first client purpose messages number k)
    {what : Happening σ} (hspares : c.server.Spares client.clientId number what)
    (hturn : what.turn? ≠ some number) :
    (c.next service number what).Sound service first client purpose messages number k := by
  rw [next_of_other service c hturn]
  refine h.keeps hspares rfl h.opened h.le h.puts ?_
  have hexchange := Server.exchange?_happen service hturn h.number_lt
  cases h.stands with
  | pending e hpending =>
    exact .pending e ⟨hexchange.trans hpending.find, hpending.purpose,
      Server.at_happen service h.ordinary hspares hturn hpending.find hpending.stands,
      hpending.answers, hpending.turns⟩
  | ended hover => exact .ended ⟨hexchange.trans hover.find, hover.answers⟩

/-- The client goes away before the answer, or after it. -/
theorem Sound.abort (h : c.Sound service first client purpose messages number k) :
    (c.next service number (.step (.abort number))).Sound service first client purpose messages
      number k := by
  have hspares : c.server.Spares client.clientId number (.step (.abort number) : Happening σ) :=
    ⟨nofun, nofun, nofun⟩
  refine h.keeps hspares rfl h.opened h.le h.puts (.ended ⟨?_, ?_⟩)
  · show (c.server.abort number).exchange? number = none
    unfold Server.abort
    split
    · assumption
    · split <;> exact Server.exchange?_removeExchange_self _ number
  · cases h.stands with
    | pending e hpending =>
      have hturns := hpending.turns
      exact .inl ⟨hpending.answers, by simp only [next]; omega⟩
    | ended hover => exact hover.answers

/-- The turn of an exchange that is over is none. -/
theorem turn_of_none (service : Queue.Service σ) (h : c.server.exchange? number = none)
    (now : Nat) (queues : σ) : c.turn service number now queues = c := by
  have hstep : c.server.stepExchange service.logged now number (queues, []) =
      (none, c.server, queues, []) := by
    rw [Server.exchange?] at h
    simp only [Server.stepExchange, h]
  simp only [turn, hstep, Server.growth_of_same fun _ => rfl, Server.canTurn, h, Option.any_none,
    Nat.sub_self, List.map_nil, List.append_nil, Option.toList_none, Nat.add_zero,
    Bool.false_eq_true, if_false]

/-- A turn that puts so much on queues, and may be the last one. -/
theorem Sound.turn_of (h : c.Sound service first client purpose messages number k) {now : Nat}
    {queues queues' : σ} {reply : Option Reply} {v' : Server} {sent : List (String × String)}
    {ds : List Deposit} {k' : Nat}
    (hstep : c.server.stepExchange service.logged now number (queues, []) =
      (reply, v', queues', sent)) (hlays : c.server.Lays v' sent ds) (hle : k' ≤ messages.length)
    (hputs : (c.puts ++ ds).map some = (messages.take k').map (first.destination? client))
    (hstands : Stands service first client purpose messages number k'
      { server := v'
        turns := c.turns + if c.server.canTurn number then 1 else 0
        answers := c.answers ++ reply.toList.map fun reply => ⟨c.server, queues, reply⟩ }) :
    (c.turn service number now queues).Sound service first client purpose messages number k' := by
  have hspares : c.server.Spares client.clientId number
      (.step (.exchange now number queues) : Happening σ) := ⟨nofun, nofun, nofun⟩
  have hkept := (Server.kept_stepExchange service.logged c.server now number (queues, [])).opened
  have hserver := c.turn_server service number now queues
  rw [hstep] at hkept
  simp only at hkept
  simp only [turn, hstep, hlays.deposits, h.opened, hkept, Nat.sub_self] at hserver ⊢
  refine h.keeps hspares hserver rfl hle hputs ?_
  cases hstands with
  | pending e hpending =>
    exact .pending e ⟨hpending.find, hpending.purpose, hpending.stands, hpending.answers,
      hpending.turns⟩
  | ended hover => exact .ended ⟨hover.find, hover.answers⟩

section Turn

variable {now : Nat} {queues queues' : σ} {v' : Server} {sent : List (String × String)}
  {ds : List Deposit}

/-- An exchange that goes on stands where its turn has left it. -/
theorem Pending.goesOn (hpending : c.Pending first client purpose messages number k e)
    (h : c.Sound service first client purpose messages number k) {e' : Exchange} {k' : Nat}
    (hproceed : c.server.proceed service.logged now e (queues, []) =
      (.goesOn e', v', queues', sent)) (hlays : c.server.Lays v' sent ds)
    (hat : At first v'.table client messages k' e') (hle : k' ≤ messages.length)
    (hputs : (c.puts ++ ds).map some = (messages.take k').map (first.destination? client)) :
    (c.turn service number now queues).Sound service first client purpose messages number k' := by
  have hfind := hpending.find
  have hturns := hpending.turns
  obtain ⟨hnumber, hpurpose, -⟩ := Server.proceed_goesOn (congrArg Prod.fst hproceed)
  have hless := Server.turnsLeft_of_goesOn (congrArg Prod.fst hproceed)
  have hframed := (Server.touched_proceed service.logged c.server now e (queues, []) 0).toFramed
  rw [hproceed] at hframed
  have hstep : c.server.stepExchange service.logged now number (queues, []) =
      (none, v'.setExchange e', queues', sent) := by
    rw [Server.stepExchange_of_find _ now hfind, hproceed]
  refine h.turn_of hstep (hlays.setExchange e') hle hputs (.pending e' ⟨?_, ?_, hat, ?_, ?_⟩)
  · exact Server.exchange?_setExchange_self ((Server.exchange?_framed hframed number).trans hfind)
      (hnumber.trans (Server.number_of_exchange? hfind))
  · exact hpurpose.trans hpending.purpose
  · simp only [hpending.answers, Option.toList_none, List.map_nil, List.append_nil]
  · simp only
    split_ifs <;> omega

theorem Pending.waits (hpending : c.Pending first client purpose messages number k e)
    (h : c.Sound service first client purpose messages number k)
    (hproceed : c.server.proceed service.logged now e (queues, []) =
      (.blocked, c.server, queues', [])) :
    (c.turn service number now queues).Sound service first client purpose messages number k := by
  have hfind := hpending.find
  have hblocked := Server.canProceed_of_blocked (congrArg Prod.fst hproceed)
  have hcan : c.server.canTurn number = false := by
    rw [Server.canTurn, hfind, Option.any_some, hblocked]
  have hstep : c.server.stepExchange service.logged now number (queues, []) =
      (none, c.server, queues', []) := by
    rw [Server.stepExchange_of_find _ now hfind, hproceed]
  refine h.turn_of hstep (.refl c.server) h.le ?_
    (.pending e ⟨hfind, hpending.purpose, hpending.stands, ?_, ?_⟩)
  · rw [List.append_nil, h.puts]
  · simp only [hpending.answers, Option.toList_none, List.map_nil, List.append_nil]
  · simp only [hcan, Bool.false_eq_true, if_false, Nat.add_zero, hpending.turns]

theorem Pending.answered (hpending : c.Pending first client purpose messages number k e)
    (h : c.Sound service first client purpose messages number k) {reply : Reply}
    (hproceed : c.server.proceed service.logged now e (queues, []) =
      (.replies reply, c.server, queues', []))
    (hverdict : Verdict service client purpose messages k ⟨c.server, queues, reply⟩) :
    (c.turn service number now queues).Sound service first client purpose messages number k := by
  have hstep : c.server.stepExchange service.logged now number (queues, []) =
      (some reply, c.server.removeExchange number, queues', []) := by
    rw [Server.stepExchange_of_find _ now hpending.find, hproceed]
  refine h.turn_of hstep (.nothing fun _ => rfl) h.le ?_ (.ended ⟨?_, .inr ⟨_, ?_, hverdict⟩⟩)
  · rw [List.append_nil, h.puts]
  · exact Server.exchange?_removeExchange_self _ number
  · simp only [hpending.answers, Option.toList_some, List.map_singleton, List.nil_append]

end Turn

theorem Pending.turn (hpending : c.Pending first client purpose messages number k e)
    (h : c.Sound service first client purpose messages number k) (hfor : purpose.For client)
    (now : Nat) (queues : σ) :
    ∃ k', (c.turn service number now queues).Sound service first client purpose messages
      number k' := by
  obtain ⟨progress, v', queues', sent, hproceed, hturnout⟩ := Server.turnout_proceed service now
    queues (hpending.purpose ▸ hfor) hpending.stands h.le h.owner h.leads h.ordinary.tidy
  rw [hpending.purpose] at hturnout
  cases hturnout with
  | waits => exact ⟨k, hpending.waits h hproceed⟩
  | stays hlays hat =>
    exact ⟨k, hpending.goesOn h hproceed hlays hat h.le (by rw [List.append_nil, h.puts])⟩
  | puts hm hd hlays hat =>
    refine ⟨k + 1, hpending.goesOn h hproceed hlays hat (List.getElem?_eq_some_iff.1 hm).1 ?_⟩
    rw [List.map_append, h.puts, List.take_add_one, hm, List.map_append, Option.toList_some,
      List.map_singleton, List.map_singleton, hd]
  | replies hverdict => exact ⟨k, hpending.answered h hproceed hverdict⟩

theorem Sound.next (h : c.Sound service first client purpose messages number k)
    (hfor : purpose.For client) {what : Happening σ}
    (hspares : c.server.Spares client.clientId number what) :
    ∃ k', (c.next service number what).Sound service first client purpose messages number k' := by
  by_cases hturn : what.turn? = some number
  · cases what with
    | step st =>
      cases st with
      | exchange now k' queues =>
        obtain rfl := Option.some.inj hturn
        simp only [Errand.next, if_true]
        cases h.stands with
        | pending e hpending => exact hpending.turn h hfor now queues
        | ended hover =>
          rw [turn_of_none service hover.find]
          exact ⟨k, h⟩
      | abort k' =>
        obtain rfl := Option.some.inj hturn
        exact ⟨k, h.abort⟩
      | _ => cases hturn
    | _ => cases hturn
  · exact ⟨k, h.other hspares hturn⟩

theorem Run.sound (hfor : purpose.For client) (hrun : Run service client.clientId number start c)
    (h : start.Sound service first client purpose messages number k) :
    ∃ k', c.Sound service first client purpose messages number k' := by
  induction hrun with
  | refl => exact ⟨k, h⟩
  | step what _ hspares ih =>
    obtain ⟨k', hsound⟩ := ih
    exact hsound.next hfor hspares

theorem Sound.grows (h : c.Sound service first client purpose messages number k)
    (hfor : purpose.For client) (now : Nat) (queues : σ) (place : Nat) :
    c.server.queueOf place <+:
      (c.server.step service (.exchange now number queues)).queueOf place := by
  rw [← c.turn_server]
  cases h.stands with
  | pending e hpending =>
    obtain ⟨progress, v', queues', sent, hproceed, hturnout⟩ := Server.turnout_proceed service now
      queues (hpending.purpose ▸ hfor) hpending.stands h.le h.owner h.leads h.ordinary.tidy
    have hgrows := hturnout.grows place
    simp only [turn, Server.stepExchange_of_find _ now hpending.find, hproceed]
    cases progress <;> exact hgrows
  | ended hover =>
    simp only [turn_of_none service hover.find, List.prefix_refl]

end Errand

namespace Server

/-! ## Requests with messages -/

/-- A request that brings messages for the client of a token: to the message box, or as an exchange
in which there is no request. -/
inductive Brings (v : Server) (r : Http.Request) (client : ClientState)
    (messages : List Rpc.Message) : Purpose → Prop
  | post {body token : String} (hroute : v.site.route r.method r.path = .found .messageBox)
    (hbody : Utf8.decode r.body = .ok body) (hstate : Url.Form.get? r.query "state" = some token)
    (hclient : v.readToken token = some client)
    (hmessages : Rpc.Message.ofBody body = .ok messages) : Brings v r client messages (.post client)
  | route {body token : String} (hroute : v.site.route r.method r.path = .found .exchange)
    (hbody : Utf8.decode r.body = .ok body) (hjson : r.accepts "application/json" = true)
    (hstream : r.accepts "text/event-stream" = true) (hnamed : r.header? sessionHeader = some token)
    (hclient : v.readToken token = some client) (hmessages : Rpc.Message.ofBody body = .ok messages)
    (hnone : ∀ m ∈ messages, m.isRequest = false) : Brings v r client messages (.route client)

variable {r : Http.Request}

theorem Brings.receive (h : v.Brings r client messages purpose) (hfits : r.Fits) (now : Nat)
    (draw : Draw) : v.receive now draw r = v.start purpose messages := by
  cases h with
  | post hroute hbody hstate hclient hmessages =>
    exact receive_post hfits hroute hbody hstate hclient hmessages now draw
  | route hroute hbody hjson hstream hnamed hclient hmessages hnone =>
    have haddressed : v.addressed r = .ok (some client) := by
      simp only [addressed, hnamed, hclient]
    have hcount : messages.countP Rpc.Message.isRequest = 0 :=
      List.countP_eq_zero.2 fun m hm => by simp [hnone m hm]
    simp only [receive_of_fits hfits.target, handle, hroute]
    have haccepts : (r.accepts "application/json" && r.accepts "text/event-stream") = true := by
      rw [hjson, hstream]
      rfl
    exact admitExchange_route (bodyText_eq_ok.2 ⟨hfits.body, hbody⟩) haccepts haddressed hmessages
      hcount

end Server

end SessionRelay
