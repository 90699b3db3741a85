import SessionRelay.Proofs.Server.Seats

/-!
# Posts to a live session

A course follows one exchange that posts messages to a session while the instance makes its steps.
As long as the session is live, the exchange puts its messages on the session's queue in order and
touches nothing else, and it is answered when all of them are there; it waits only while the queue is
full (`Sound.delivers`).
-/

namespace SessionRelay

open Session (Doing Attends)
open Inbound (Tidy)

variable {σ : Type} {service : Queue.Service σ} {place number : Nat} {clientId : String}
  {client : ClientState} {messages : List Rpc.Message}

/-- A session that takes messages takes every message, or puts its writer in line. -/
theorem Session.offer_of_attends {s : Session} (h : s.Attends) (m : Rpc.Message) :
    s.offer m =
      (if s.transport.inbound.hasRoom then .accepted else .waiting s.transport.inbound.nextTicket,
        s.mapInbound fun q => (q.offer m).2) := by
  obtain ⟨hheld, hreader⟩ := h
  simp only [Session.offer, Transport.offer, hheld, Bool.false_eq_true, if_false, mapInbound]
  cases hroom : s.transport.inbound.hasRoom <;> simp [Inbound.offer, hreader, hroom]

namespace Server

variable {v v' : Server} {s : Session} {e : Exchange} {queues : σ} {now : Nat}

/-- Whether the session at a place is live for a client: the table leads there, and the session
takes messages. -/
structure Live (v : Server) (clientId : String) (place : Nat) : Prop where
  listed : v.table.find? clientId = some place
  attends : ∃ s, v.table.session? place = some s ∧ s.Attends

instance (v : Server) (clientId : String) (place : Nat) : Decidable (v.Live clientId place) :=
  decidable_of_iff (v.table.find? clientId = some place ∧
      (v.table.session? place).any (fun s => decide s.Attends) = true)
    ⟨fun h => ⟨h.1, by simpa [Option.any_eq_true] using h.2⟩,
      fun h => ⟨h.listed, by simpa [Option.any_eq_true] using h.attends⟩⟩

theorem deliver_of_live (service : Queue.Service σ) (hlocal : client.isLocal v.instanceId = true)
    (hlisted : v.table.find? client.clientId = some place)
    (hs : v.table.session? place = some s) (hattends : s.Attends) (m : Rpc.Message) (queues : σ) :
    v.deliver service client m queues =
      (if s.transport.inbound.hasRoom then .queued
        else .waiting ⟨place, s.transport.inbound.nextTicket⟩,
        v.modify place fun _ => s.mapInbound fun q => (q.offer m).2, queues) := by
  have hoffer : v.offer place m =
      (if s.transport.inbound.hasRoom then .accepted else .waiting s.transport.inbound.nextTicket,
        v.modify place fun _ => s.mapInbound fun q => (q.offer m).2) := by
    simp only [Server.offer, hs, Session.offer_of_attends hattends]
  simp only [deliver, hlocal, if_true, deliverLocal, hlisted, hoffer]
  split_ifs <;> rfl

/-- What an exchange that posts to a live session does in its turn, and what is replied. -/
inductive Turn (v : Server) (place : Nat) (s : Session) (e : Exchange) :
    Option Reply → Server → Prop
  | delivers (m : Rpc.Message) (rest : List Rpc.Message) (hslot : e.slot = none)
    (hrest : e.rest = m :: rest) (hroom : s.transport.inbound.hasRoom = true) :
    Turn v place s e none
      ((v.modify place fun _ => s.mapInbound fun q => (q.offer m).2).setExchange { e with rest })
  | joins (m : Rpc.Message) (rest : List Rpc.Message) (hslot : e.slot = none)
    (hrest : e.rest = m :: rest) (hfull : s.transport.inbound.hasRoom = false) :
    Turn v place s e none
      ((v.modify place fun _ => s.mapInbound fun q => (q.offer m).2).setExchange
        { e with rest, slot := some ⟨place, s.transport.inbound.nextTicket⟩ })
  | waits (ticket : Nat) (hslot : e.slot = some ⟨place, ticket⟩)
    (hstanding : s.transport.inbound.standing ticket = .waiting) : Turn v place s e none v
  | enters (ticket : Nat) (hslot : e.slot = some ⟨place, ticket⟩)
    (hstanding : s.transport.inbound.standing ticket = .admitted) :
    Turn v place s e none
      ((v.modify place (Session.mapInbound fun q => q.enter ticket)).setExchange
        { e with slot := none })
  | answers (hslot : e.slot = none) (hrest : e.rest = []) :
    Turn v place s e (some (.plain accepted)) (v.removeExchange e.number)

/-- Whether an exchange posts for a client, and waits in line at a place with a message, if it
waits. -/
structure Posts (e : Exchange) (client : ClientState) (place : Nat) (s : Session) : Prop where
  purpose : e.purpose = .post client
  slot : ∀ slot, e.slot = some slot →
    slot.session = place ∧ ∃ m, s.transport.inbound.waits? slot.ticket = some m

theorem turn_stepExchange (service : Queue.Service σ) (hfind : v.exchange? number = some e)
    (hposts : Posts e client place s) (hlocal : client.isLocal v.instanceId = true)
    (hlisted : v.table.find? client.clientId = some place)
    (hs : v.table.session? place = some s) (hattends : s.Attends) (now : Nat) (queues : σ) :
    ∃ reply v', v.stepExchange service now number queues = (reply, v', queues) ∧
      Turn v place s e reply v' := by
  have hnumber := number_of_exchange? hfind
  rw [exchange?] at hfind
  simp only [stepExchange, hfind]
  obtain ⟨k, purpose, rest, slot⟩ := e
  obtain ⟨rfl, hslot⟩ := hposts
  cases slot with
  | some slot =>
    obtain ⟨rfl, m, hwaits⟩ := hslot slot rfl
    obtain ⟨place, ticket⟩ := slot
    cases hcase : s.transport.inbound.standing ticket with
    | waiting =>
      refine ⟨none, v, ?_, .waits ticket rfl hcase⟩
      simp only [proceed, settle?, hs, hcase]
    | admitted =>
      refine ⟨none, _, ?_, .enters ticket rfl hcase⟩
      simp only [proceed, settle?, hs, hcase]
    | dismissed => exact absurd hcase (Inbound.standing_of_waits? hwaits)
  | none =>
    cases rest with
    | nil =>
      refine ⟨_, _, ?_, .answers rfl rfl⟩
      simp only [proceed, complete, ← hnumber]
    | cons m rest =>
      have hdeliver := deliver_of_live service hlocal hlisted hs hattends m queues
      cases hroom : s.transport.inbound.hasRoom with
      | true =>
        refine ⟨none, _, ?_, .delivers m rest rfl rfl hroom⟩
        simp only [proceed, deliverFor, hdeliver, hroom, if_true]
      | false =>
        refine ⟨none, _, ?_, .joins m rest rfl rfl hroom⟩
        simp only [proceed, deliverFor, hdeliver, hroom, Bool.false_eq_true, if_false]

/-! ## Turns -/

/-- The messages on the queue of the session at a place. -/
def queueOf (v : Server) (place : Nat) : List Rpc.Message :=
  ((v.table.session? place).map fun s => s.transport.inbound.queue).getD []

theorem queueOf_eq (hs : v.table.session? place = some s) :
    v.queueOf place = s.transport.inbound.queue := by
  rw [queueOf, hs]
  rfl

variable {reply : Option Reply}

/-- A turn leaves every other session alone. -/
theorem Turn.others (h : Turn v place s e reply v') {other : Nat} (hne : other ≠ place) :
    v'.table.session? other = v.table.session? other := by
  have hmodify : ∀ f, (v.modify place f).table.session? other = v.table.session? other := by
    intro f
    rw [modify, SessionTable.session?_modify]
    cases v.table.session? other with
    | none => rfl
    | some s => rw [Option.map_some, if_neg (Ne.symm hne)]
  cases h with
  | delivers m rest hslot hrest hroom => exact hmodify _
  | joins m rest hslot hrest hfull => exact hmodify _
  | waits ticket hslot hstanding => rfl
  | enters ticket hslot hstanding => exact hmodify _
  | answers hslot hrest => rfl

/-- The messages that an exchange has still to put on the queue, the one in line first. -/
def outstanding (s : Session) (e : Exchange) : List Rpc.Message :=
  match e.slot with
  | some slot => (s.transport.inbound.waits? slot.ticket).toList ++ e.rest
  | none => e.rest

/-- How many turns an exchange has at most before the one in which it is answered. -/
def turnsLeft (e : Exchange) : Nat := 2 * e.rest.length + if e.slot.isSome then 1 else 0

/-- Whether the exchange of a number can go on. -/
def canTurn (v : Server) (number : Nat) : Bool := (v.exchange? number).any v.canProceed

/-- What an exchange is after a turn without a reply, next to what it was. -/
structure GoesOn (v v' : Server) (client : ClientState) (place number : Nat) (s : Session)
    (e : Exchange) (s' : Session) (e' : Exchange) : Prop where
  find : v'.exchange? number = some e'
  session : v'.table.session? place = some s'
  posts : Posts e' client place s'
  grows : v.queueOf place <+: v'.queueOf place
  put : (v'.queueOf place).drop (v.queueOf place).length ++ outstanding s' e' = outstanding s e
  turns : turnsLeft e' + (if v.canTurn number then 1 else 0) ≤ turnsLeft e

/-- An exchange goes on when the session has so much more on its queue. -/
theorem GoesOn.of_modify {f : Session → Session} {e' : Exchange} (put : List Rpc.Message)
    (hfind : v.exchange? number = some e) (hs : v.table.session? place = some s)
    (hnumber : e'.number = e.number) (hposts : Posts e' client place (f s))
    (hqueue : (f s).transport.inbound.queue = s.transport.inbound.queue ++ put)
    (hput : put ++ outstanding (f s) e' = outstanding s e)
    (hturns : turnsLeft e' + 1 ≤ turnsLeft e) :
    GoesOn v ((v.modify place f).setExchange e') client place number s e (f s) e' := by
  have hsession : (v.modify place f).table.session? place = some (f s) := by
    rw [modify, SessionTable.session?_modify, hs, Option.map_some, if_pos rfl]
  have hafter : ((v.modify place f).setExchange e').queueOf place = v.queueOf place ++ put := by
    rw [queueOf_eq hs, ← hqueue]
    exact queueOf_eq hsession
  refine ⟨?_, hsession, hposts, ?_, ?_, ?_⟩
  · exact exchange?_setExchange_self (v := v.modify place f) hfind
      (hnumber.trans (number_of_exchange? hfind))
  · rw [hafter]
    exact List.prefix_append _ _
  · rw [hafter, List.drop_left, hput]
  · split_ifs <;> omega

theorem Turn.goesOn (h : Turn v place s e none v') (hfind : v.exchange? number = some e)
    (hposts : Posts e client place s) (hs : v.table.session? place = some s)
    (hattends : s.Attends) (htidy : s.transport.inbound.Tidy) :
    ∃ s' e', GoesOn v v' client place number s e s' e' := by
  have hreader := hattends.reader
  cases h with
  | delivers m rest hslot hrest hroom =>
    refine ⟨_, _, .of_modify [m] hfind hs rfl ⟨hposts.purpose, fun slot h => ?_⟩ ?_ ?_ ?_⟩
    · rw [hslot] at h
      cases h
    · simp only [Session.mapInbound, Inbound.offer_of_room hreader hroom]
    · simp only [outstanding, hslot, hrest, List.singleton_append]
    · simp only [turnsLeft, hslot, hrest, List.length_cons]
      omega
  | joins m rest hslot hrest hfull =>
    have hwaits := htidy.waits?_offer hreader hfull m
    refine ⟨_, _, .of_modify [] hfind hs rfl ⟨hposts.purpose, fun slot h => ?_⟩ ?_ ?_ ?_⟩
    · cases h
      exact ⟨rfl, m, hwaits⟩
    · simp only [Session.mapInbound, Inbound.offer_of_full hreader hfull, List.append_nil]
    · simp only [outstanding, hslot, hrest, Session.mapInbound, hwaits, Option.toList_some,
        List.nil_append, List.singleton_append]
    · simp only [turnsLeft, hslot, hrest, List.length_cons, Option.isSome_some, Option.isSome_none,
        if_true, Bool.false_eq_true, if_false]
      omega
  | waits ticket hslot hstanding =>
    refine ⟨s, e, hfind, hs, hposts, List.prefix_refl _, ?_, ?_⟩
    · rw [List.drop_length, List.nil_append]
    · have hblocked : v.canTurn number = false := by
        simp only [canTurn, hfind, Option.any_some, canProceed, hslot, settle?, hs, hstanding]
        rfl
      rw [hblocked]
      exact Nat.le_refl _
  | enters ticket hslot hstanding =>
    obtain ⟨-, m, hwaits⟩ := hposts.slot _ hslot
    refine ⟨_, _, .of_modify [m] hfind hs rfl ⟨hposts.purpose, by rintro _ ⟨⟩⟩ ?_ ?_ ?_⟩
    · exact Inbound.queue_enter hwaits hstanding
    · simp only [outstanding, hslot, hwaits, Option.toList_some]
    · simp only [turnsLeft, hslot, Option.isSome_some, Option.isSome_none, if_true,
        Bool.false_eq_true, if_false]
      omega

theorem Turn.ends {reply : Reply} (h : Turn v place s e (some reply) v') :
    reply = .plain accepted ∧ v' = v.removeExchange e.number ∧ outstanding s e = [] := by
  cases h with
  | answers hslot hrest =>
    refine ⟨rfl, rfl, ?_⟩
    simp only [outstanding, hslot, hrest]

end Server

/-! ## Courses -/

/-- How an exchange fares: what it has put on the queue of the session at a place, what it was
replied, and how often it went on. -/
structure Course where
  server : Server
  put : List Rpc.Message := []
  replies : List Reply := []
  turns : Nat := 0

namespace Course

variable {c start : Course}

/-- The course after a step. -/
def next (service : Queue.Service σ) (place number : Nat) (c : Course) : Server.Step σ → Course
  | .exchange now k queues =>
    let (reply, server, _) := c.server.stepExchange service now k queues
    if k = number then
      { server
        put := c.put ++ (server.queueOf place).drop (c.server.queueOf place).length
        replies := c.replies ++ reply.toList
        turns := c.turns + if c.server.canTurn number then 1 else 0 }
    else { c with server }
  | st => { c with server := c.server.step service st }

/-- A course goes on as long as the session is live and the client waits for the reply. -/
inductive Run (service : Queue.Service σ) (clientId : String) (place number : Nat)
    (start : Course) : Course → Prop
  | refl : Run service clientId place number start start
  | step {c : Course} (st : Server.Step σ) (hrun : Run service clientId place number start c)
    (hstays : st ≠ .abort number)
    (hlive : (c.next service place number st).server.Live clientId place) :
    Run service clientId place number start (c.next service place number st)

/-- Whether a course can go on with some steps, one after another. -/
def canMake (service : Queue.Service σ) (clientId : String) (place number : Nat) :
    List (Server.Step σ) → Course → Bool
  | [], _ => true
  | .abort _ :: _, _ => false
  | st :: rest, c =>
    decide ((c.next service place number st).server.Live clientId place) &&
      canMake service clientId place number rest (c.next service place number st)

theorem Run.steps : ∀ (steps : List (Server.Step σ)) {c : Course},
    Run service clientId place number start c →
    canMake service clientId place number steps c = true →
      Run service clientId place number start (steps.foldl (next service place number) c)
  | [], _, hrun, _ => hrun
  | st :: rest, c, hrun, h => by
    have hstays : st ≠ .abort number := by
      rintro rfl
      cases h
    have hnext : (c.next service place number st).server.Live clientId place ∧
        canMake service clientId place number rest (c.next service place number st) = true := by
      cases st with
      | abort k => cases h
      | _ => simpa [canMake] using h
    exact Run.steps rest (hrun.step st hstays hnext.1) hnext.2

/-- The exchange has messages to put, in their order, and no reply yet. -/
structure Pending (client : ClientState) (place number : Nat) (messages : List Rpc.Message)
    (c : Course) (s : Session) (e : Exchange) : Prop where
  find : c.server.exchange? number = some e
  session : c.server.table.session? place = some s
  posts : Server.Posts e client place s
  replies : c.replies = []
  put : c.put ++ Server.outstanding s e = messages
  turns : c.turns + Server.turnsLeft e ≤ 2 * messages.length

/-- The exchange put all its messages and was answered. -/
structure Answered (number : Nat) (messages : List Rpc.Message) (c : Course) : Prop where
  find : c.server.exchange? number = none
  replies : c.replies = [.plain Server.accepted]
  put : c.put = messages

/-- Where the exchange stands. -/
inductive Stands (client : ClientState) (place number : Nat) (messages : List Rpc.Message)
    (c : Course) : Prop
  | pending (s : Session) (e : Exchange) (h : c.Pending client place number messages s e)
  | answered (h : c.Answered number messages)

structure Sound (client : ClientState) (place number : Nat) (messages : List Rpc.Message)
    (c : Course) : Prop where
  live : c.server.Live client.clientId place
  near : client.isLocal c.server.instanceId = true
  seated : c.server.Seated
  number_lt : number < c.server.nextExchange
  tidy : ∀ s, c.server.table.session? place = some s → s.transport.inbound.Tidy
  stands : c.Stands client place number messages

theorem next_server (service : Queue.Service σ) (place number : Nat) (c : Course)
    (st : Server.Step σ) :
    (c.next service place number st).server = c.server.step service st := by
  cases st with
  | exchange now k queues =>
    simp only [next]
    split_ifs <;> rfl
  | _ => rfl

theorem next_of_other (service : Queue.Service σ) (c : Course) {st : Server.Step σ}
    (hother : st.turn? ≠ some number) (hstays : st ≠ .abort number) :
    c.next service place number st = { c with server := c.server.step service st } := by
  cases st with
  | exchange now k queues =>
    have hk : k ≠ number := fun h => hother (congrArg some h)
    simp only [next, if_neg hk]
    rfl
  | _ => rfl

/-! ## Steps of others -/

/-- A writer of an exchange that has no turn keeps its place. -/
theorem waits?_step (h : c.server.Seated) {st : Server.Step σ} {s : Session} {e : Exchange}
    {slot : Slot} {m : Rpc.Message} (hother : st.turn? ≠ some number)
    (hfind : c.server.exchange? number = some e) (hslot : e.slot = some slot)
    (hwaits : s.transport.inbound.waits? slot.ticket = some m)
    (hattends : ((c.server.doings service slot.session (.step st)).foldl
      (Session.after c.server.router) s).Attends) :
    ((c.server.doings service slot.session (.step st)).foldl
      (Session.after c.server.router) s).transport.inbound.waits? slot.ticket = some m := by
  have hheld : c.server.held (some number) = some slot := by
    rw [Server.held, hfind]
    exact hslot
  refine Session.waits?_foldl _ hattends (fun doing hdoing hseat => ?_) hwaits
  obtain ⟨holder, hholder, hplace⟩ := Server.holder?_of_doing service hdoing hseat
  obtain rfl := h.apart hplace hheld
  refine hother ?_
  cases st with
  | act signals now a => cases a <;> cases hholder
  | exchange => exact Option.some.inj hholder
  | abort => exact Option.some.inj hholder
  | _ => cases hholder

theorem Sound.stands_other (h : c.Sound client place number messages) {st : Server.Step σ}
    (hother : st.turn? ≠ some number)
    (hlive : (c.server.step service st).Live client.clientId place) :
    Stands client place number messages { c with server := c.server.step service st } := by
  have hexchange := Server.exchange?_step service (v := c.server) hother
  cases h.stands with
  | pending s e hpending =>
    have hs' := Server.session_doings service st hpending.session
    obtain ⟨s', hlater, hattends⟩ := hlive.attends
    obtain rfl := Option.some.inj (hs'.symm.trans hlater)
    have hfind : (c.server.step service st).exchange? number = some e := by
      rcases hexchange with hsame | ⟨hnone, -⟩
      · rw [hsame, hpending.find]
      · rw [hpending.find] at hnone
        cases hnone
    cases hslot : e.slot with
    | none =>
      refine .pending _ e ⟨hfind, hs', ⟨hpending.posts.purpose, fun slot h => ?_⟩,
        hpending.replies, ?_, hpending.turns⟩
      · rw [hslot] at h
        cases h
      · rw [← hpending.put]
        simp only [Server.outstanding, hslot]
    | some slot =>
      obtain ⟨rfl, m, hwaits⟩ := hpending.posts.slot slot hslot
      have hwaits' := waits?_step h.seated hother hpending.find hslot hwaits hattends
      refine .pending _ e ⟨hfind, hs', ⟨hpending.posts.purpose, fun slot' h => ?_⟩,
        hpending.replies, ?_, hpending.turns⟩
      · obtain rfl := Option.some.inj (hslot.symm.trans h)
        exact ⟨rfl, m, hwaits'⟩
      · rw [← hpending.put]
        simp only [Server.outstanding, hslot, hwaits, hwaits']
  | answered hanswered =>
    refine .answered ⟨?_, hanswered.replies, hanswered.put⟩
    rcases hexchange with hsame | ⟨-, hnew, -⟩
    · rw [← hanswered.find, ← hsame]
    · exact absurd h.number_lt (by omega)

/-! ## Turns of the exchange -/

theorem next_own (service : Queue.Service σ) (c : Course) {now : Nat} {queues : σ}
    {reply : Option Reply} {v' : Server}
    (hstep : c.server.stepExchange service now number queues = (reply, v', queues)) :
    c.next service place number (.exchange now number queues) =
      { server := v'
        put := c.put ++ (v'.queueOf place).drop (c.server.queueOf place).length
        replies := c.replies ++ reply.toList
        turns := c.turns + if c.server.canTurn number then 1 else 0 } := by
  simp only [next, hstep, if_true]

/-- What a turn of the exchange is: one of those of an exchange that posts, or nothing if it is
over. -/
theorem Sound.turn (h : c.Sound client place number messages) (service : Queue.Service σ)
    (now : Nat) (queues : σ) :
    (∃ s e reply v', c.Pending client place number messages s e ∧ s.Attends ∧
      c.server.stepExchange service now number queues = (reply, v', queues) ∧
        Server.Turn c.server place s e reply v') ∨
      c.Answered number messages ∧
        c.server.stepExchange service now number queues = (none, c.server, queues) := by
  cases h.stands with
  | pending s e hpending =>
    obtain ⟨s', hlater, hattends⟩ := h.live.attends
    obtain rfl := Option.some.inj (hpending.session.symm.trans hlater)
    obtain ⟨reply, v', hstep, hturn⟩ := Server.turn_stepExchange service
      hpending.find hpending.posts h.near h.live.listed hpending.session hattends now queues
    exact .inl ⟨s, e, reply, v', hpending, hattends, hstep, hturn⟩
  | answered hanswered =>
    refine .inr ⟨hanswered, ?_⟩
    have hnone := hanswered.find
    rw [Server.exchange?] at hnone
    simp only [Server.stepExchange, hnone]

theorem Sound.stands_own (h : c.Sound client place number messages) (service : Queue.Service σ)
    (now : Nat) (queues : σ) : Stands client place number messages
      (c.next service place number (.exchange now number queues)) := by
  rcases h.turn service now queues with
    ⟨s, e, reply, v', hpending, hattends, hstep, hturn⟩ | ⟨hanswered, hstep⟩
  · rw [next_own service c hstep]
    have hput := hpending.put
    have hturns := hpending.turns
    cases reply with
    | none =>
      obtain ⟨s', e', hgoes⟩ := hturn.goesOn hpending.find hpending.posts hpending.session hattends
        (h.tidy s hpending.session)
      refine .pending s' e' ⟨hgoes.find, hgoes.session, hgoes.posts, ?_, ?_, ?_⟩
      · rw [hpending.replies]
        rfl
      · rw [List.append_assoc, hgoes.put, hput]
      · have hless := hgoes.turns
        simp only
        omega
    | some reply =>
      obtain ⟨rfl, rfl, hall⟩ := hturn.ends
      rw [hall, List.append_nil] at hput
      refine .answered ⟨?_, ?_, ?_⟩
      · rw [Server.number_of_exchange? hpending.find]
        exact Server.exchange?_removeExchange_self _ number
      · rw [hpending.replies]
        rfl
      · show c.put ++ List.drop _ (c.server.queueOf place) = messages
        rw [List.drop_length, List.append_nil, hput]
  · rw [next_own service c hstep]
    refine .answered ⟨hanswered.find, ?_, ?_⟩
    · rw [hanswered.replies]
      rfl
    · rw [List.drop_length, List.append_nil, hanswered.put]

theorem Sound.step (h : c.Sound client place number messages) {st : Server.Step σ}
    (hstays : st ≠ .abort number)
    (hlive : (c.next service place number st).server.Live client.clientId place) :
    (c.next service place number st).Sound client place number messages := by
  have hserver := next_server service place number c st
  have halike := Server.alike_step service c.server st
  have hchange := Server.change_step service c.server st
  refine ⟨hlive, ?_, ?_, ?_, fun s hs => ?_, ?_⟩
  · rw [hserver, Server.instanceId, halike.2.1.owner]
    exact h.near
  · rw [hserver]
    exact h.seated.step service st
  · rw [hserver]
    exact Nat.lt_of_lt_of_le h.number_lt hchange.frame.1
  · obtain ⟨old, hold, -⟩ := h.live.attends
    rw [hserver, Server.session_doings service st hold] at hs
    obtain rfl := Option.some.inj hs
    exact Session.tidy_foldl _ _ (h.tidy old hold)
  · by_cases hturn : st.turn? = some number
    · cases st with
      | exchange now k queues =>
        obtain rfl := Option.some.inj hturn
        exact h.stands_own service now queues
      | abort k =>
        obtain rfl := Option.some.inj hturn
        exact absurd rfl hstays
      | _ => cases hturn
    · rw [next_of_other service c hturn hstays]
      exact h.stands_other hturn (hserver ▸ hlive)

theorem Run.sound (hrun : Run service client.clientId place number start c)
    (h : start.Sound client place number messages) : c.Sound client place number messages := by
  induction hrun with
  | refl => exact h
  | step st _ hstays hlive ih => exact ih.step hstays hlive

/-! ## Deliveries -/

/-- What a post to a live session comes to, at any time: its messages come to the queue of the
session in order and nowhere else, and when all are there it is answered. It goes on as long as there
is room, and not more often than twice for each message before it is answered. -/
structure Delivers (service : Queue.Service σ) (place number : Nat) (messages : List Rpc.Message)
    (c : Course) : Prop where
  put : c.put <+: messages
  replies : c.replies = [] ∨ c.replies = [.plain Server.accepted] ∧ c.put = messages
  prompt : 2 * messages.length < c.turns → c.replies = [.plain Server.accepted]
  waits : c.replies = [] → c.server.canTurn number = true ∨
    ∃ s, c.server.table.session? place = some s ∧
      s.transport.inbound.capacity ≤ s.transport.inbound.occupied
  grows : ∀ now queues, c.server.queueOf place <+:
    (c.server.stepExchange service now number queues).2.1.queueOf place
  alone : ∀ now queues, (c.server.stepExchange service now number queues).2.2 = queues ∧
    ∀ other ≠ place, (c.server.stepExchange service now number queues).2.1.table.session? other =
      c.server.table.session? other

theorem Sound.waits (h : c.Sound client place number messages) {s : Session} {e : Exchange}
    (hpending : c.Pending client place number messages s e) : c.server.canTurn number = true ∨
      s.transport.inbound.capacity ≤ s.transport.inbound.occupied := by
  rw [Server.canTurn, hpending.find, Option.any_some, Server.canProceed]
  cases hslot : e.slot with
  | none => exact .inl rfl
  | some slot =>
    obtain ⟨rfl, -⟩ := hpending.posts.slot slot hslot
    simp only [Server.settle?, hpending.session]
    cases hstanding : s.transport.inbound.standing slot.ticket with
    | waiting => exact .inr ((h.tidy s hpending.session).full_of_waiting hstanding)
    | admitted => exact .inl rfl
    | dismissed => exact .inl rfl

theorem Sound.delivers (h : c.Sound client place number messages) (service : Queue.Service σ) :
    c.Delivers service place number messages := by
  have hturn := h.turn service
  refine ⟨?_, ?_, fun hmany => ?_, fun hnone => ?_, fun now queues => ?_, fun now queues => ?_⟩
  · cases h.stands with
    | pending s e hpending => exact ⟨_, hpending.put⟩
    | answered hanswered => exact hanswered.put ▸ List.prefix_refl _
  · cases h.stands with
    | pending s e hpending => exact .inl hpending.replies
    | answered hanswered => exact .inr ⟨hanswered.replies, hanswered.put⟩
  · cases h.stands with
    | pending s e hpending =>
      have hfew := hpending.turns
      omega
    | answered hanswered => exact hanswered.replies
  · cases h.stands with
    | pending s e hpending =>
      exact (h.waits hpending).imp_right fun hfull => ⟨s, hpending.session, hfull⟩
    | answered hanswered =>
      rw [hanswered.replies] at hnone
      cases hnone
  · rcases hturn now queues with
      ⟨s, e, reply, v', hpending, hattends, hstep, hturn⟩ | ⟨-, hstep⟩
    · rw [hstep]
      cases reply with
      | none =>
        obtain ⟨s', e', hgoes⟩ := hturn.goesOn hpending.find hpending.posts hpending.session
          hattends (h.tidy s hpending.session)
        exact hgoes.grows
      | some reply =>
        obtain ⟨-, rfl, -⟩ := hturn.ends
        exact List.prefix_refl _
    · simp only [hstep, List.prefix_refl]
  · rcases hturn now queues with ⟨s, e, reply, v', -, -, hstep, hturn⟩ | ⟨-, hstep⟩
    · rw [hstep]
      exact ⟨rfl, fun other hne => hturn.others hne⟩
    · rw [hstep]
      exact ⟨rfl, fun _ _ => rfl⟩

end Course

end SessionRelay
