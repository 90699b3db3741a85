import SessionRelay.Proofs.Server.Entries
import SessionRelay.Proofs.Server.Post

/-!
# Turns of an exchange for a client

An exchange that was posted, or that holds no request, is for the client of a token. In each of its
turns it puts its next message where that belongs, or none, and what it is answered fits what it has
put so far (`turnout_proceed`). What it sends over the relay is read off the log of a service that
is the same otherwise (`stepExchange_logged`).
-/

namespace SessionRelay

/-- A service that keeps a log of what was sent, each with its queue. -/
def Queue.Service.logged {σ : Type} (service : Queue.Service σ) :
    Queue.Service (σ × List (String × String)) where
  create queue s := ((service.create queue s.1).1, (service.create queue s.1).2, s.2)
  drop queue s := ((service.drop queue s.1).1, (service.drop queue s.1).2, s.2)
  send queue body s :=
    match service.send queue body s.1 with
    | (.ok (), queues) => (.ok (), queues, s.2 ++ [(queue, body)])
    | (.error e, queues) => (.error e, queues, s.2)
  receive queue max timeout s :=
    ((service.receive queue max timeout s.1).1, (service.receive queue max timeout s.1).2, s.2)
  delete queue id receipt s :=
    ((service.delete queue id receipt s.1).1, (service.delete queue id receipt s.1).2, s.2)
  elapse ms s := (service.elapse ms s.1, s.2)

/-- A message that was put on the queue of a session, or a text on one of the relay's. -/
inductive Deposit
  | session (place : Nat) (message : Rpc.Message)
  | relay (queue text : String)

namespace SessionTable

variable {t : SessionTable} {place : Nat} {s : Session}

/-- No session that a table leads to takes messages for a client. -/
def Gone (t : SessionTable) (clientId : String) : Prop :=
  ∀ place s, t.find? clientId = some place → t.session? place = some s → ¬ s.Attends

/-- Where a message for a client belongs: on the queue of its session, or of its instance. -/
def destination? (t : SessionTable) (client : ClientState) (m : Rpc.Message) : Option Deposit :=
  if client.isLocal t.instanceId then
    (t.find? client.clientId).map fun place => .session place m
  else some (.relay (QueueName.ofInstance client.instanceId)
    (Envelope.text ⟨client.instanceId, client.clientId, m⟩))

theorem destination?_near {client : ClientState} (hnear : client.isLocal t.instanceId = true)
    (hfind : t.find? client.clientId = some place) (m : Rpc.Message) :
    t.destination? client m = some (.session place m) := by
  rw [destination?, if_pos hnear, hfind, Option.map_some]

theorem destination?_far {client : ClientState} (hfar : ¬ client.isLocal t.instanceId = true)
    (m : Rpc.Message) : t.destination? client m =
      some (.relay (QueueName.ofInstance client.instanceId)
        (Envelope.text ⟨client.instanceId, client.clientId, m⟩)) :=
  if_neg hfar

theorem modify_self (hs : t.session? place = some s) : (t.modify place fun _ => s) = t := by
  have hreplace := modify_eq_replace hs id
  rw [modify, List.modify_id] at hreplace
  exact hreplace.symm

end SessionTable

theorem Session.offer_of_not_attends {s : Session} (h : ¬ s.Attends) (m : Rpc.Message) :
    s.offer m = (.refused, s) := by
  simp only [Session.offer, Transport.offer]
  split_ifs with hclosed
  · rfl
  · have hreader : s.transport.inbound.reader = .gone := by
      by_contra hnot
      exact h ⟨by simpa using hclosed, hnot⟩
    simp only [Inbound.offer, hreader, if_true]

section Logs

variable {σ : Type} (service : Queue.Service σ) (v : Server) (queues : σ)
  (log : List (String × String))

theorem Backplane.send_logged (e : Envelope) : send service.logged e (queues, log) =
      ((send service e queues).1, (send service e queues).2,
        match (send service e queues).1 with
        | .ok () => log ++ [(QueueName.ofInstance e.target, e.text)]
        | .error _ => log) := by
  simp only [send, Queue.Service.logged]
  rcases service.create (QueueName.ofInstance e.target) queues with ⟨_ | _, queues⟩
  · rfl
  · simp only
    rcases service.send (QueueName.ofInstance e.target) e.text queues with ⟨_ | _, queues⟩ <;> rfl

namespace Server

/-- The log changes nothing about a delivery. -/
theorem deliver_logged (client : ClientState) (m : Rpc.Message) :
    ∃ log', v.deliver service.logged client m (queues, log) =
      ((v.deliver service client m queues).1, (v.deliver service client m queues).2.1,
        (v.deliver service client m queues).2.2, log') := by
  unfold deliver
  split_ifs
  · exact ⟨log, rfl⟩
  · rw [Backplane.send_logged]
    rcases Backplane.send service _ queues with ⟨_ | _, queues⟩ <;> exact ⟨_, rfl⟩
  · exact ⟨log, rfl⟩

theorem deliverFor_logged (e : Exchange) (m : Rpc.Message) :
    ∃ log', v.deliverFor service.logged e m (queues, log) =
      ((v.deliverFor service e m queues).1, (v.deliverFor service e m queues).2.1,
        (v.deliverFor service e m queues).2.2, log') := by
  unfold deliverFor
  split
  · exact deliver_logged service v queues log _ m
  · exact deliver_logged service v queues log _ m
  · split <;> exact ⟨log, rfl⟩

theorem proceed_logged (now : Nat) (e : Exchange) :
    ∃ log', v.proceed service.logged now e (queues, log) =
      ((v.proceed service now e queues).1, (v.proceed service now e queues).2.1,
        (v.proceed service now e queues).2.2, log') := by
  unfold proceed
  split
  · split <;> exact ⟨log, rfl⟩
  · split
    · exact ⟨log, rfl⟩
    · rename_i m rest _
      obtain ⟨log', h⟩ := deliverFor_logged service v queues log { e with rest } m
      simp only [h]
      rcases v.deliverFor service { e with rest } m queues with ⟨_ | _ | _, v₁, queues₁⟩ <;>
        exact ⟨log', rfl⟩

theorem stepExchange_logged (now number : Nat) :
    ∃ log', v.stepExchange service.logged now number (queues, log) =
      ((v.stepExchange service now number queues).1,
        (v.stepExchange service now number queues).2.1,
        (v.stepExchange service now number queues).2.2, log') := by
  unfold stepExchange
  split
  · exact ⟨log, rfl⟩
  · rename_i e _
    obtain ⟨log', h⟩ := proceed_logged service v queues log now e
    simp only [h]
    rcases v.proceed service now e queues with ⟨_ | _ | _, v₁, queues₁⟩ <;> exact ⟨log', rfl⟩

end Server

end Logs

namespace Server

variable {σ : Type} {service : Queue.Service σ} {queues : σ} {v v' : Server}
  {client : ClientState} {m : Rpc.Message} {s : Session} {place : Nat}
  {sent : List (String × String)} {ds : List Deposit}

/-! ## What is put on queues -/

/-- What has come to the queues of sessions. -/
def growth (v v' : Server) : List Deposit :=
  (List.range v'.table.opened.length).flatMap fun place =>
    ((v'.queueOf place).drop (v.queueOf place).length).map (Deposit.session place)

/-- What an instance puts on queues when some texts are sent besides. -/
inductive Lays (v v' : Server) : List (String × String) → List Deposit → Prop
  | nothing (hsame : ∀ p, v'.queueOf p = v.queueOf p) : Lays v v' [] []
  | here (place : Nat) (m : Rpc.Message) (hlt : place < v'.table.opened.length)
    (hgrown : ∀ p, v'.queueOf p = v.queueOf p ++ if p = place then [m] else []) :
    Lays v v' [] [.session place m]
  | away (queue text : String) (hsame : ∀ p, v'.queueOf p = v.queueOf p) :
    Lays v v' [(queue, text)] [.relay queue text]

theorem growth_of_same (hsame : ∀ p, v'.queueOf p = v.queueOf p) : v.growth v' = [] := by
  rw [growth, List.flatMap_eq_nil_iff]
  intro p _
  rw [hsame, List.drop_length, List.map_nil]

theorem flatMap_range_eq_single {α : Type} {place n : Nat} (h : place < n) (x : α) :
    (List.range n).flatMap (fun p => if p = place then [x] else []) = [x] := by
  induction n with
  | zero => omega
  | succ n ih =>
    rw [List.range_succ, List.flatMap_append, List.flatMap_singleton]
    by_cases hlast : n = place
    · rw [if_pos hlast, List.flatMap_eq_nil_iff.2 fun p hp => if_neg ?_, List.nil_append]
      have hlt := List.mem_range.1 hp
      omega
    · rw [if_neg hlast, List.append_nil, ih (by omega)]

theorem Lays.deposits (h : Lays v v' sent ds) :
    v.growth v' ++ sent.map (fun (queue, text) => .relay queue text) = ds := by
  cases h with
  | nothing hsame => rw [growth_of_same hsame, List.map_nil, List.append_nil]
  | here place m hlt hgrown =>
    rw [List.map_nil, List.append_nil, growth, ← flatMap_range_eq_single hlt]
    refine congrArg (List.flatMap · _) (funext fun p => ?_)
    rw [hgrown, List.drop_left]
    split_ifs with hplace
    · rw [hplace]
      rfl
    · rfl
  | away queue text hsame =>
    rw [growth_of_same hsame]
    rfl

/-- Nothing is taken off a queue. -/
theorem Lays.grows (h : Lays v v' sent ds) (p : Nat) : v.queueOf p <+: v'.queueOf p := by
  cases h with
  | nothing hsame => exact hsame p ▸ List.prefix_refl _
  | here place m hlt hgrown => exact hgrown p ▸ List.prefix_append _ _
  | away queue text hsame => exact hsame p ▸ List.prefix_refl _

theorem Lays.setExchange (h : Lays v v' sent ds) (e : Exchange) :
    Lays v (v'.setExchange e) sent ds := by
  cases h with
  | nothing hsame => exact .nothing hsame
  | here place m hlt hgrown => exact .here place m hlt hgrown
  | away queue text hsame => exact .away queue text hsame

theorem queueOf_modify {f : Session → Session} {put : List Rpc.Message}
    (hs : v.table.session? place = some s)
    (hqueue : (f s).transport.inbound.queue = s.transport.inbound.queue ++ put) (p : Nat) :
    (v.modify place f).queueOf p = v.queueOf p ++ if p = place then put else [] := by
  rw [queueOf, modify, SessionTable.session?_modify, queueOf]
  by_cases hplace : place = p
  · subst hplace
    rw [hs, Option.map_some, if_pos rfl, if_pos rfl]
    exact hqueue
  · rw [if_neg (Ne.symm hplace), List.append_nil]
    cases v.table.session? p with
    | none => rfl
    | some s => rw [Option.map_some, if_neg hplace]

theorem Lays.of_modify {f : Session → Session} (hs : v.table.session? place = some s)
    (hqueue : (f s).transport.inbound.queue = s.transport.inbound.queue ++ [m]) :
    Lays v (v.modify place f) [] [.session place m] := by
  refine .here place m ?_ (queueOf_modify hs hqueue)
  exact Nat.lt_of_lt_of_eq (SessionTable.lt_of_session? hs) (List.length_modify ..).symm

theorem Lays.of_modify_same {f : Session → Session} (hs : v.table.session? place = some s)
    (hqueue : (f s).transport.inbound.queue = s.transport.inbound.queue) :
    Lays v (v.modify place f) [] [] := by
  refine .nothing fun p => ?_
  rw [queueOf_modify hs (hqueue.trans (List.append_nil _).symm), ite_self, List.append_nil]

/-! ## Deliveries -/

theorem deliver_of_gone (service : Queue.Service σ) (hnear : client.isLocal v.instanceId = true)
    (hgone : v.table.Gone client.clientId) (m : Rpc.Message) (queues : σ) :
    v.deliver service client m queues =
      (.failed (.sessionNotFound client.clientId), v, queues) := by
  simp only [deliver, hnear, if_true, deliverLocal]
  cases hfind : v.table.find? client.clientId with
  | none => rfl
  | some place =>
    simp only [Server.offer]
    cases hs : v.table.session? place with
    | none => rfl
    | some s =>
      simp only [Session.offer_of_not_attends (hgone place s hfind hs), modify,
        SessionTable.modify_self hs]

end Server

/-! ## Where an exchange stands -/

/-- What an exchange was replied, by the instance as it was then, with the queues as they were. -/
structure Answer (σ : Type) where
  server : Server
  queues : σ
  reply : Reply

def Reply.status : Reply → Nat
  | .plain r => r.status
  | .stream _ _ => 200

/-- An exchange for a client: its messages were posted, or hold no request. -/
inductive Purpose.For (client : ClientState) : Purpose → Prop
  | post : For client (.post client)
  | route : For client (.route client)

/-- What a post is told of a message that it could not put where it belongs: to reconnect, if its
session is gone, or is on another instance and there is no relay; and that the owner is unreachable,
if the relay failed. -/
def Answer.Explains {σ : Type} (a : Answer σ) (service : Queue.Service σ) (client : ClientState)
    (failed? : Option Rpc.Message) : Prop :=
  if client.isLocal a.server.instanceId then
    a.server.table.Gone client.clientId ∧ a.reply = .plain a.server.sessionLost
  else if a.server.linked then
    ∃ m e, failed? = some m ∧
      (Backplane.send service ⟨client.instanceId, client.clientId, m⟩ a.queues).1 = .error e ∧
        a.reply = .plain (Server.unreachable (toFault e))
  else a.reply = .plain a.server.sessionLost

/-- What an answer says of an exchange that has put the first `k` of its messages on queues: that
they are accepted, if those are all. An exchange that is no post is told so also when its session is
gone. -/
structure Verdict {σ : Type} (service : Queue.Service σ) (client : ClientState) (purpose : Purpose)
    (messages : List Rpc.Message) (k : Nat) (a : Answer σ) : Prop where
  accepted : a.reply.status = 202 ↔ k = messages.length ∨
    purpose = .route client ∧ client.isLocal a.server.instanceId = true ∧
      a.server.table.Gone client.clientId
  refused : purpose = .post client → k < messages.length →
    a.Explains service client messages[k]?

/-- What is not accepted is not all of the messages, and not dropped. -/
theorem Verdict.of_refused {σ : Type} {service : Queue.Service σ} {client : ClientState}
    {purpose : Purpose} {messages : List Rpc.Message} {k : Nat} {a : Answer σ}
    (hstatus : a.reply.status ≠ 202) (hlt : k < messages.length)
    (hkept : purpose = .route client → ¬ client.isLocal a.server.instanceId = true)
    (hexplains : purpose = .post client → a.Explains service client messages[k]?) :
    Verdict service client purpose messages k a := by
  refine ⟨iff_of_false hstatus ?_, fun hpost _ => hexplains hpost⟩
  rintro (hall | ⟨hroute, hnear, -⟩)
  · omega
  · exact hkept hroute hnear

/-- Where an exchange stands that has put the first `k` of its messages, the table having led to a
session for its client at first: the rest is still to come; or the next one waits in line; or the
session is gone, and the rest is dropped. -/
inductive At (first t : SessionTable) (client : ClientState) (messages : List Rpc.Message) (k : Nat)
    (e : Exchange) : Prop
  | free (hslot : e.slot = none) (hrest : messages.drop k = e.rest)
  | inLine (slot : Slot) (m : Rpc.Message) (s : Session) (hslot : e.slot = some slot)
    (hnear : client.isLocal t.instanceId = true)
    (hfirst : first.find? client.clientId = some slot.session)
    (hrest : messages.drop k = m :: e.rest) (hs : t.session? slot.session = some s)
    (hawaits : s.Awaits slot.ticket m)
  | drops (hslot : e.slot = none) (hroute : e.purpose = .route client)
    (hnear : client.isLocal t.instanceId = true) (hgone : t.Gone client.clientId)
    (hk : k < messages.length)

namespace Server

/-- What a turn of an exchange comes to that has put the first `k` of its messages. -/
inductive Turnout {σ : Type} (service : Queue.Service σ) (first : SessionTable)
    (client : ClientState) (purpose : Purpose) (messages : List Rpc.Message) (v : Server)
    (queues : σ) (k : Nat) : Progress → Server → List (String × String) → Prop
  | waits : Turnout service first client purpose messages v queues k .blocked v []
  | stays {e' : Exchange} {v' : Server} (hlays : v.Lays v' [] [])
    (hat : At first v'.table client messages k e') :
    Turnout service first client purpose messages v queues k (.goesOn e') v' []
  | puts {e' : Exchange} {v' : Server} {sent : List (String × String)} {d : Deposit}
    {m : Rpc.Message} (hm : messages[k]? = some m) (hd : first.destination? client m = some d)
    (hlays : v.Lays v' sent [d]) (hat : At first v'.table client messages (k + 1) e') :
    Turnout service first client purpose messages v queues k (.goesOn e') v' sent
  | replies {reply : Reply}
    (hverdict : Verdict service client purpose messages k ⟨v, queues, reply⟩) :
    Turnout service first client purpose messages v queues k (.replies reply) v []

variable {σ : Type} {service : Queue.Service σ} {queues : σ} {v v' : Server}
  {client : ClientState} {m : Rpc.Message} {s : Session} {e : Exchange} {k : Nat}
  {messages rest : List Rpc.Message} {first : SessionTable}

/-- An exchange that has put the first messages puts the next one next. -/
theorem next_of_drop (hdrop : messages.drop k = m :: rest) :
    messages[k]? = some m ∧ k < messages.length ∧ messages.drop (k + 1) = rest := by
  have hm : messages[k]? = some m := by
    rw [← List.head?_drop, hdrop, List.head?_cons]
  refine ⟨hm, (List.getElem?_eq_some_iff.1 hm).1, ?_⟩
  rw [← List.tail_drop, hdrop, List.tail_cons]

theorem Lays.refl (v : Server) : Lays v v [] [] := .nothing fun _ => rfl

/-- All messages are put. -/
theorem turnout_complete (service : Queue.Service σ) (first : SessionTable) (v : Server)
    (now : Nat) (queues : σ) (hfor : e.purpose.For client) (hall : k = messages.length) :
    Turnout service first client e.purpose messages v queues k
      (.replies (v.complete now e).1) (v.complete now e).2 [] := by
  obtain ⟨number, purpose, rest, slot⟩ := e
  cases hfor <;>
    exact .replies ⟨iff_of_true rfl (.inl hall), fun _ hlt => absurd hlt (by omega)⟩

/-- The session of the client is gone. -/
theorem turnout_gone (service : Queue.Service σ) (first : SessionTable) (now : Nat) (queues : σ)
    (id : String) (hfor : e.purpose.For client) (hnear : client.isLocal v.instanceId = true)
    (hgone : v.table.Gone client.clientId) (hlt : k < messages.length) :
    Turnout service first client e.purpose messages v queues k
      (v.fail now e (.sessionNotFound id)).1 (v.fail now e (.sessionNotFound id)).2 [] := by
  obtain ⟨number, purpose, rest, slot⟩ := e
  cases hfor with
  | post =>
    refine .replies (.of_refused (show (400 : Nat) ≠ 202 by decide) hlt (fun h => by cases h)
      fun _ => ?_)
    rw [Answer.Explains, if_pos hnear]
    exact ⟨hgone, rfl⟩
  | route =>
    simp only [fail, hnear, if_true]
    exact .stays (.refl v) (.drops rfl rfl hnear hgone hlt)

/-- The session of the client is elsewhere, and there is no relay. -/
theorem turnout_unlinked (service : Queue.Service σ) (first : SessionTable) (now : Nat)
    (queues : σ) (id : String) (hfor : e.purpose.For client)
    (hfar : ¬ client.isLocal v.instanceId = true) (hlinked : ¬ v.linked = true)
    (hlt : k < messages.length) :
    Turnout service first client e.purpose messages v queues k
      (v.fail now e (.sessionNotFound id)).1 (v.fail now e (.sessionNotFound id)).2 [] := by
  obtain ⟨number, purpose, rest, slot⟩ := e
  cases hfor with
  | post =>
    refine .replies (.of_refused (show (400 : Nat) ≠ 202 by decide) hlt (fun h => by cases h)
      fun _ => ?_)
    rw [Answer.Explains, if_neg hfar, if_neg hlinked]
  | route =>
    simp only [fail, if_neg hfar]
    exact .replies (.of_refused (show (400 : Nat) ≠ 202 by decide) hlt (fun _ => hfar)
      fun h => by cases h)

/-- The relay failed. -/
theorem turnout_failed (first : SessionTable) (now : Nat) {error : Queue.Error}
    (hfor : e.purpose.For client) (hfar : ¬ client.isLocal v.instanceId = true)
    (hlinked : v.linked = true) (hm : messages[k]? = some m)
    (hsend : (Backplane.send service ⟨client.instanceId, client.clientId, m⟩ queues).1 =
      .error error) :
    Turnout service first client e.purpose messages v queues k
      (v.fail now e (toFault error)).1 (v.fail now e (toFault error)).2 [] := by
  have hverdict : Verdict service client e.purpose messages k
      ⟨v, queues, .plain (unreachable (toFault error))⟩ := by
    refine .of_refused (show (503 : Nat) ≠ 202 by decide) (List.getElem?_eq_some_iff.1 hm).1
      (fun _ => hfar) fun _ => ?_
    rw [Answer.Explains, if_neg hfar, if_pos hlinked]
    exact ⟨m, error, hm, hsend, rfl⟩
  obtain ⟨number, purpose, rest, slot⟩ := e
  cases hfor <;> exact .replies hverdict

/-! ## Turns -/

theorem proceed_of_slot (service : Queue.Service σ) (v : Server) (now : Nat) {slot : Slot}
    (hslot : e.slot = some slot) (queues : σ) : v.proceed service now e queues =
      match v.settle? slot with
      | none => (.blocked, v, queues)
      | some (true, v) => (.goesOn { e with slot := none }, v, queues)
      | some (false, v) => ((v.fail now e (lost e)).1, (v.fail now e (lost e)).2, queues) := by
  rcases hsettle : v.settle? slot with _ | ⟨_ | _, _⟩ <;> simp only [proceed, hslot, hsettle]

theorem proceed_of_cons (service : Queue.Service σ) (v : Server) (now : Nat)
    (hfor : e.purpose.For client) (hslot : e.slot = none) (hrest : e.rest = m :: rest)
    (queues : σ) : v.proceed service now e queues =
      match v.deliver service client m queues with
      | (.queued, v, queues) => (.goesOn { e with rest }, v, queues)
      | (.waiting slot, v, queues) => (.goesOn { e with rest, slot := some slot }, v, queues)
      | (.failed fault, v, queues) => ((v.fail now { e with rest } fault).1,
          (v.fail now { e with rest } fault).2, queues) := by
  obtain ⟨number, purpose, _, _⟩ := e
  cases hslot
  cases hrest
  cases hfor <;> rfl

/-- The next message is delivered. -/
theorem turnout_deliver (now : Nat) (hfor : e.purpose.For client) (hslot : e.slot = none)
    (hrest : e.rest = m :: rest) (hdrop : messages.drop k = m :: rest)
    (howner : first.instanceId = v.instanceId)
    (hleads : ∀ place, v.table.find? client.clientId = some place →
      first.find? client.clientId = some place) (htidy : v.table.Tidy) :
    ∃ progress v' queues' sent,
      v.proceed service.logged now e (queues, []) = (progress, v', queues', sent) ∧
        Turnout service first client e.purpose messages v queues k progress v' sent := by
  obtain ⟨hm, hlt, hnext⟩ := next_of_drop hdrop
  rw [proceed_of_cons service.logged v now hfor hslot hrest]
  by_cases hnear : client.isLocal v.instanceId = true
  · by_cases hgone : v.table.Gone client.clientId
    · rw [deliver_of_gone service.logged hnear hgone]
      exact ⟨_, _, _, _, rfl,
        turnout_gone service first now queues _ (e := { e with rest }) hfor hnear hgone hlt⟩
    · simp only [SessionTable.Gone, not_forall, not_not] at hgone
      obtain ⟨place, s, hfind, hs, hattends⟩ := hgone
      have hfirst := hleads place hfind
      rw [deliver_of_live service.logged hnear hfind hs hattends]
      cases hroom : s.transport.inbound.hasRoom with
      | true =>
        refine ⟨_, _, _, _, rfl, .puts hm (SessionTable.destination?_near (howner ▸ hnear) hfirst m)
          (.of_modify hs ?_) (.free hslot hnext)⟩
        simp only [Session.mapInbound, Inbound.offer_of_room hattends.reader hroom]
      | false =>
        have hawaits := (htidy place s hs).waits?_offer hattends.reader hroom m
        refine ⟨_, _, _, _, rfl, .stays (.of_modify_same hs ?_)
          (.inLine _ m (s.mapInbound fun q => (q.offer m).2) rfl hnear hfirst hdrop ?_
            (.inl hawaits))⟩
        · simp only [Session.mapInbound, Inbound.offer_of_full hattends.reader hroom]
        · rw [modify, SessionTable.session?_modify, hs, Option.map_some, if_pos rfl]
  · by_cases hlinked : v.linked = true
    · have hsend := Backplane.send_logged service queues []
        ⟨client.instanceId, client.clientId, m⟩
      simp only [deliver, if_neg hnear, if_pos hlinked, hsend]
      rcases hresult : Backplane.send service ⟨client.instanceId, client.clientId, m⟩ queues with
        ⟨error | _, queues'⟩
      · exact ⟨_, _, _, _, rfl, turnout_failed first now (e := { e with rest }) hfor hnear hlinked
          hm (congrArg Prod.fst hresult)⟩
      · exact ⟨_, _, _, _, rfl, .puts hm (SessionTable.destination?_far (howner ▸ hnear) m)
          (.away _ _ fun _ => rfl) (.free hslot hnext)⟩
    · simp only [deliver, if_neg hnear, if_neg hlinked]
      exact ⟨_, _, _, _, rfl,
        turnout_unlinked service first now queues _ (e := { e with rest }) hfor hnear hlinked hlt⟩

/-- The message that waits in line looks whether it has come to its turn. -/
theorem turnout_line (now : Nat) {slot : Slot} (hfor : e.purpose.For client)
    (hslot : e.slot = some slot) (hdrop : messages.drop k = m :: e.rest)
    (hnear : client.isLocal v.instanceId = true) (howner : first.instanceId = v.instanceId)
    (hfirst : first.find? client.clientId = some slot.session)
    (hleads : ∀ place, v.table.find? client.clientId = some place →
      first.find? client.clientId = some place)
    (hs : v.table.session? slot.session = some s) (hawaits : s.Awaits slot.ticket m) :
    ∃ progress v' queues' sent,
      v.proceed service.logged now e (queues, []) = (progress, v', queues', sent) ∧
        Turnout service first client e.purpose messages v queues k progress v' sent := by
  obtain ⟨hm, hlt, hnext⟩ := next_of_drop hdrop
  rw [proceed_of_slot service.logged v now hslot]
  simp only [settle?, hs]
  cases hstanding : s.transport.inbound.standing slot.ticket with
  | waiting => exact ⟨_, _, _, _, rfl, .waits⟩
  | admitted =>
    rcases hawaits with hwaits | ⟨-, hnone⟩
    · exact ⟨_, _, _, _, rfl, .puts hm (SessionTable.destination?_near (howner ▸ hnear) hfirst m)
        (.of_modify hs (Inbound.queue_enter hwaits hstanding)) (.free rfl hnext)⟩
    · rw [Inbound.standing, hnone] at hstanding
      cases hstanding
  | dismissed =>
    rcases hawaits with hwaits | ⟨hnot, -⟩
    · exact absurd hstanding (Inbound.standing_of_waits? hwaits)
    · have hgone : v.table.Gone client.clientId := by
        intro place s' hfind hs'
        obtain rfl := Option.some.inj (hfirst.symm.trans (hleads place hfind))
        obtain rfl := Option.some.inj (hs.symm.trans hs')
        exact hnot
      have hlost : lost e = .sessionNotFound client.clientId := by
        obtain ⟨number, purpose, rest, slot⟩ := e
        cases hfor <;> rfl
      rw [hlost]
      exact ⟨_, _, _, _, rfl, turnout_gone service first now queues _ hfor hnear hgone hlt⟩

/-- Every turn of an exchange for a client puts its next message where it belongs, or none. -/
theorem turnout_proceed (service : Queue.Service σ) (now : Nat) (queues : σ)
    (hfor : e.purpose.For client) (hat : At first v.table client messages k e)
    (hk : k ≤ messages.length) (howner : first.instanceId = v.instanceId)
    (hleads : ∀ place, v.table.find? client.clientId = some place →
      first.find? client.clientId = some place) (htidy : v.table.Tidy) :
    ∃ progress v' queues' sent,
      v.proceed service.logged now e (queues, []) = (progress, v', queues', sent) ∧
        Turnout service first client e.purpose messages v queues k progress v' sent := by
  cases hat with
  | free hslot hdrop =>
    cases hrest : e.rest with
    | nil =>
      have hall : k = messages.length := by
        rw [hrest, List.drop_eq_nil_iff] at hdrop
        omega
      have hproceed : v.proceed service.logged now e (queues, []) =
          (.replies (v.complete now e).1, (v.complete now e).2, queues, []) := by
        simp only [proceed, hslot, hrest]
      exact ⟨_, _, _, _, hproceed, turnout_complete service first v now queues hfor hall⟩
    | cons m rest =>
      exact turnout_deliver now hfor hslot hrest (hdrop.trans hrest) howner hleads htidy
  | inLine slot m s hslot hnear hfirst hdrop hs hawaits =>
    exact turnout_line now hfor hslot hdrop hnear howner hfirst hleads hs hawaits
  | drops hslot hroute hnear hgone hlt =>
    cases hrest : e.rest with
    | nil =>
      have hproceed : v.proceed service.logged now e (queues, []) =
          (.replies (v.complete now e).1, (v.complete now e).2, queues, []) := by
        simp only [proceed, hslot, hrest]
      refine ⟨_, _, _, _, hproceed, ?_⟩
      obtain ⟨number, purpose, rest, slot⟩ := e
      cases hroute
      exact .replies ⟨iff_of_true rfl (.inr ⟨rfl, hnear, hgone⟩), fun h => by cases h⟩
    | cons m rest =>
      rw [proceed_of_cons service.logged v now hfor hslot hrest,
        deliver_of_gone service.logged hnear hgone]
      exact ⟨_, _, _, _, rfl,
        turnout_gone service first now queues _ (e := { e with rest }) hfor hnear hgone hlt⟩

/-- No turn takes anything off a queue. -/
theorem Turnout.grows {purpose : Purpose} {progress : Progress} {sent : List (String × String)}
    (h : Turnout service first client purpose messages v queues k progress v' sent) (place : Nat) :
    v.queueOf place <+: v'.queueOf place := by
  cases h with
  | waits => exact List.prefix_refl _
  | stays hlays => exact hlays.grows place
  | puts _ _ hlays => exact hlays.grows place
  | replies => exact List.prefix_refl _

theorem stepExchange_of_find (service : Queue.Service σ) (now : Nat) {number : Nat}
    (hfind : v.exchange? number = some e) (queues : σ) :
    v.stepExchange service now number queues =
      match v.proceed service now e queues with
      | (.blocked, v, queues) => (none, v, queues)
      | (.goesOn e', v, queues) => (none, v.setExchange e', queues)
      | (.replies reply, v, queues) => (some reply, v.removeExchange number, queues) := by
  rw [exchange?] at hfind
  rcases hproceed : v.proceed service now e queues with ⟨_ | _ | _, _, _⟩ <;>
    simp only [stepExchange, hfind, hproceed]

/-! ## How long it takes -/

/-- An exchange that goes on has fewer turns left. -/
theorem turnsLeft_of_goesOn {now : Nat} {e' : Exchange}
    (h : (v.proceed service now e queues).1 = .goesOn e') : turnsLeft e' + 1 ≤ turnsLeft e := by
  obtain ⟨number, purpose, rest, slot⟩ := e
  cases slot with
  | some slot =>
    have hslot : e'.slot = none ∧ e'.rest = rest := by
      rw [proceed_of_slot service v now rfl] at h
      split at h
      · cases h
      · cases h
        exact ⟨rfl, rfl⟩
      · rw [fail_goesOn h]
        exact ⟨rfl, rfl⟩
    simp only [turnsLeft, hslot, Option.isSome_some, Option.isSome_none, if_true,
      Bool.false_eq_true, if_false]
    omega
  | none =>
    obtain ⟨-, -, ⟨hslot, -⟩ | ⟨-, m, hrest⟩⟩ := proceed_goesOn h
    · exact absurd rfl hslot
    · simp only at hrest
      simp only [turnsLeft, hrest, List.length_cons, Option.isSome_none, Bool.false_eq_true,
        if_false]
      split_ifs <;> omega

/-- An exchange that does not go on could not. -/
theorem canProceed_of_blocked {now : Nat} (h : (v.proceed service now e queues).1 = .blocked) :
    v.canProceed e = false := by
  cases hslot : e.slot with
  | none => exact absurd hslot (proceed_blocked h)
  | some slot =>
    rw [proceed_of_slot service v now hslot] at h
    rw [canProceed, hslot]
    cases hsettle : v.settle? slot with
    | none => simp only [hsettle, Option.isSome_none]
    | some settled =>
      obtain ⟨entered, v'⟩ := settled
      rw [hsettle] at h
      cases entered with
      | true => cases h
      | false => exact absurd h (fail_ne_blocked v' now e _)

end Server

end SessionRelay
