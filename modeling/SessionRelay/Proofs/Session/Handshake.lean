import SessionRelay.Proofs.Session.Cancellation
import SessionRelay.Proofs.Session.Stream

/-!
# The handshake over a run

Requests for a handshake are answered on the spot and every other request is worked on beside the
queue, so what a session has agreed on is a function of the messages it has handled, in their order,
and of nothing that still runs (`Hears.handshake`). The first request that succeeds settles version
and client, and a confirmation counts if it comes after one that succeeded
(`handshake_follows_first_success`).
-/

namespace SessionRelay

/-! ## Requests for a handshake -/

namespace Rpc.Request

/-- A request for a handshake that succeeds: it names the right version, and its parameters, if it
has any, decode. -/
structure Greets (r : Request) : Prop where
  version : r.version = Rpc.version
  method : r.method = Mcp.handshakeMethod
  decodes : ∀ v, r.params = some v → ∃ params, Mcp.HandshakeParams.ofJson v = .ok params

/-- What a request for a handshake says, if it succeeds. Absent parameters say nothing. -/
def greeting? (r : Request) : Option Mcp.HandshakeParams :=
  if r.version = Rpc.version ∧ r.method = Mcp.handshakeMethod then
    (Mcp.HandshakeParams.ofJson (r.params.getD (.object []))).toOption
  else none

variable {r : Request} {params : Mcp.HandshakeParams}

theorem greeting?_eq_some (h : r.greeting? = some params) : r.version = Rpc.version ∧
    r.method = Mcp.handshakeMethod ∧
      Mcp.HandshakeParams.ofJson (r.params.getD (.object [])) = .ok params := by
  unfold greeting? at h
  split_ifs at h with hcalled
  cases hread : Mcp.HandshakeParams.ofJson (r.params.getD (.object [])) with
  | error e =>
    rw [hread] at h
    cases h
  | ok read =>
    rw [hread] at h
    cases h
    exact ⟨hcalled.1, hcalled.2, rfl⟩

theorem greets_iff : r.Greets ↔ ∃ params, r.greeting? = some params := by
  constructor
  · intro h
    have hread : ∃ params, Mcp.HandshakeParams.ofJson (r.params.getD (.object [])) = .ok params := by
      cases hparams : r.params with
      | none => exact ⟨⟨none, .null, none⟩, rfl⟩
      | some v => exact h.decodes v hparams
    obtain ⟨params, hread⟩ := hread
    refine ⟨params, ?_⟩
    rw [greeting?, if_pos ⟨h.version, h.method⟩, hread]
    rfl
  · rintro ⟨params, h⟩
    obtain ⟨hversion, hmethod, hread⟩ := greeting?_eq_some h
    refine ⟨hversion, hmethod, fun v hv => ⟨params, ?_⟩⟩
    rw [hv] at hread
    exact hread

theorem not_greets_iff : ¬ r.Greets ↔ r.greeting? = none := by
  rw [greets_iff, Option.eq_none_iff_forall_not_mem]
  exact not_exists

/-- What the session keeps of the client is read from the parameters a second time, and without
regard to what counts as absent; it is the same. -/
theorem introduction_eq (h : r.greeting? = some params) :
    Session.introduction r = params.clientInfo := by
  obtain ⟨-, -, hread⟩ := greeting?_eq_some h
  cases hparams : r.params with
  | none =>
    rw [hparams] at hread
    cases hread
    rw [Session.introduction, hparams]
    rfl
  | some v =>
    rw [hparams, Option.getD_some] at hread
    rw [Session.introduction, hparams, Option.bind_some, hread]
    rfl

end Rpc.Request

open Rpc (Message Request)

/-! ## The answer to one -/

theorem Mcp.HandshakeResult.version_canonical (r : Mcp.HandshakeResult) :
    r.toJson.canonical.member? "protocolVersion" = some (.string r.protocolVersion) := by
  obtain ⟨version, hasTools, hasResources, info, instructions⟩ := r
  cases instructions <;> rfl

namespace Router

variable {r : Request} {params : Mcp.HandshakeParams}

/-- The answer to a request for a handshake that succeeds. -/
def welcome (router : Router) (r : Request) (params : Mcp.HandshakeParams) : Rpc.Response :=
  .result r.id (router.handshake params).toJson.canonical

theorem respond_greeting (router : Router) (h : r.greeting? = some params) (clientId : String)
    (cancelled : Bool) :
    router.respond clientId cancelled r = .done (router.welcome r params) := by
  obtain ⟨hversion, hmethod, hread⟩ := Request.greeting?_eq_some h
  simp only [respond, Request.validate, if_pos hversion, Mcp.Operation.ofRequest, if_pos hmethod,
    hread, Except.map, perform, Activity.map, responseTo, welcome]

theorem respond_refused (router : Router) (hmethod : r.method = Mcp.handshakeMethod) (h : r.greeting? = none) :
    ∃ e, ∀ clientId cancelled,
      router.respond clientId cancelled r = .done (.error (some r.id) e) := by
  unfold respond
  cases hvalid : r.validate with
  | error e => exact ⟨e, fun _ _ => rfl⟩
  | ok =>
    have hversion : r.version = Rpc.version := by
      by_contra hother
      rw [Request.validate, if_neg hother] at hvalid
      cases hvalid
    cases hread : Mcp.HandshakeParams.ofJson (r.params.getD (.object [])) with
    | error e =>
      simp only [Mcp.Operation.ofRequest, if_pos hmethod, hread, Except.map]
      exact ⟨_, fun _ _ => rfl⟩
    | ok params =>
      rw [Request.greeting?, if_pos ⟨hversion, hmethod⟩, hread] at h
      cases h

end Router

/-! ## What one message does -/

namespace Handshake

/-- The handshake of a session after it has handled one message more. -/
def heard (current : Option Handshake) : Message → Option Handshake
  | .request r =>
    match r.greeting? with
    | some params => some (establish current (negotiate params.protocolVersion) params.clientInfo)
    | none => current
  | .notification n =>
    if n.method = "notifications/initialized" then current.map fun h => h.confirmed.1 else current
  | .success _ | .failure _ => current

end Handshake

namespace Session

variable {s s' : Session} {router : Router} {signals : List String} {ticket number : Nat}
  {r : Request}

/-- No job is for a handshake. -/
def Aside (s : Session) : Prop := ∀ a ∈ s.pending, a.2.method ≠ Mcp.handshakeMethod

theorem handshake_writeBack (s : Session) (response : Option Rpc.Response) :
    (s.writeBack response).handshake = s.handshake := by
  obtain ⟨queue, hwritten⟩ := s.writeBack_queue response
  rw [hwritten]

theorem agree_of_ne (hmethod : r.method ≠ Mcp.handshakeMethod) (response : Rpc.Response) :
    s.agree r response = s := by
  cases response with
  | success _ => exact if_neg hmethod
  | failure _ => rfl

theorem handshake_agree (h : s.handshake = s'.handshake) (response : Rpc.Response) :
    (s.agree r response).handshake = (s'.agree r response).handshake := by
  cases response with
  | success answer =>
    simp only [agree]
    split_ifs
    · rw [establish, establish, h]
    · exact h
  | failure _ => exact h

theorem agree_welcome {params : Mcp.HandshakeParams} (h : r.greeting? = some params) :
    (s.agree r (router.welcome r params)).handshake =
      Handshake.heard s.handshake (.request r) := by
  have hmethod := (Request.greeting?_eq_some h).2.1
  have hversion : agreedVersion (router.handshake params).toJson.canonical =
      negotiate params.protocolVersion := by
    rw [agreedVersion, Mcp.HandshakeResult.version_canonical]
    rfl
  simp only [Router.welcome, Rpc.Response.result, agree, if_pos hmethod, establish, hversion,
    Request.introduction_eq h, Handshake.heard, h]

/-- Work on anything but a handshake leaves the handshake alone. -/
theorem handshake_goOn {job : Job} (hmethod : job.request.method ≠ Mcp.handshakeMethod)
    (work : Activity Rpc.Response) :
    (s.goOn signals job number work).handshake = s.handshake := by
  unfold goOn
  split
  · rfl
  · rw [handshake_writeBack, answered]
    split_ifs
    · rfl
    · rw [agree_of_ne hmethod]
      rfl
  · rw [handshake_writeBack]
    rfl

/-- Work that returns has the session keep what the response agrees on, if its request was not
cancelled. -/
theorem handshake_goOn_done {job : Job} {work : Activity Rpc.Response} {response : Rpc.Response}
    (hdone : work.proceed (s.happened signals number) = .done response)
    (hcancelled : s.isCancelled number = false) :
    (s.goOn signals job number work).handshake = (s.agree job.request response).handshake := by
  have hfinish : ((s.removeJob job.ticket).finish job.request.id number).isCancelled number =
      false := by
    rw [isCancelled, InFlight.isCancelled, finish, InFlight.finish_cancelled]
    exact hcancelled
  unfold goOn
  rw [hdone]
  have hsame : ((s.removeJob job.ticket).finish job.request.id number).handshake = s.handshake :=
    rfl
  simp only [answered, hfinish, handshake_writeBack, if_neg Bool.false_ne_true]
  exact handshake_agree hsame response

theorem handshake_runJob (h : s.Aside) (router : Router) (signals : List String) (ticket : Nat) :
    (s.runJob router signals ticket).handshake = s.handshake := by
  unfold runJob
  split
  · rfl
  · rename_i job hjob
    have hmethod : job.request.method ≠ Mcp.handshakeMethod :=
      h (job.ticket, job.request) (mem_pending_iff.2 ⟨job, (job?_eq_some hjob).1, rfl, rfl⟩)
    split <;> exact handshake_goOn hmethod _

theorem job?_addJob (h : s.Inv) (r : Request) :
    (s.addJob r).job? s.nextJob = some { ticket := s.nextJob, request := r } :=
  (job?_eq_some_iff (kept_addJob h r).inv).2 ⟨List.mem_append_right _ List.mem_cons_self, rfl⟩

/-- A request that is answered at once is over with its first run. -/
theorem runJob_addJob (h : s.Inv) (hopen : s.Open) (signals : List String)
    {response : Rpc.Response} (hrespond : ∀ cancelled, router.respond s.clientId cancelled r = .done response) :
    ((s.addJob r).runJob router signals s.nextJob).handshake = (s.agree r response).handshake ∧
      (s.addJob r).added ((s.addJob r).runJob router signals s.nextJob) =
        [.message response.toMessage] := by
  have hinv := (kept_addJob h r).inv
  have hjob := job?_addJob h r
  have hcancelled : ((s.addJob r).register r.id).2.isCancelled ((s.addJob r).register r.id).1 =
      false := by
    rw [isCancelled_register hinv]
    exact hopen.going
  have hfired : (s.addJob r).fired s.nextJob = false := by
    rw [fired, hjob]
    exact hopen.going
  have hdone := congrArg (Activity.proceed (((s.addJob r).register r.id).2.happened signals
    ((s.addJob r).register r.id).1)) (hrespond
      (((s.addJob r).register r.id).2.isCancelled ((s.addJob r).register r.id).1))
  have hcame : (s.addJob r).cameTo? router signals s.nextJob = some (.done response) := by
    simp only [cameTo?, hjob]
    exact congrArg some hdone
  have hsame : ((s.addJob r).register r.id).2.handshake = s.handshake := rfl
  refine ⟨?_, ?_⟩
  · simp only [runJob, hjob]
    exact (handshake_goOn_done hdone hcancelled).trans (handshake_agree hsame response)
  · rw [runJob_done hinv ⟨hopen.going, hopen.held, hopen.reader⟩ hcame, hfired,
      if_neg Bool.false_ne_true]

/-- A request for a handshake is answered at once, and no job is left of it. -/
theorem handle_handshake (h : s.Inv) (hopen : s.Open) (router : Router) (signals : List String)
    (hmethod : r.method = Mcp.handshakeMethod) :
    (s.handle router signals (.request r)).handshake = Handshake.heard s.handshake (.request r) ∧
      (s.handle router signals (.request r)).pending = s.pending ∧
      ∀ params, r.greeting? = some params → s.added (s.handle router signals (.request r)) =
        [.message (router.welcome r params).toMessage] := by
  have hhandle : s.handle router signals (.request r) =
      (s.addJob r).runJob router signals s.nextJob := if_pos hmethod
  have hanswered : ∃ response, ((s.agree r response).handshake =
      Handshake.heard s.handshake (.request r)) ∧
      (∀ cancelled, router.respond s.clientId cancelled r = .done response) ∧
      ∀ params, r.greeting? = some params → response = router.welcome r params := by
    cases hgreeting : r.greeting? with
    | some params =>
      refine ⟨_, agree_welcome hgreeting, router.respond_greeting hgreeting s.clientId, ?_⟩
      rintro _ ⟨⟩
      rfl
    | none =>
      obtain ⟨e, hrefused⟩ := router.respond_refused hmethod hgreeting
      refine ⟨_, ?_, hrefused s.clientId, fun _ hparams => by cases hparams⟩
      simp only [Rpc.Response.error, agree, Handshake.heard, hgreeting]
  obtain ⟨response, hagree, hrespond, hwelcome⟩ := hanswered
  obtain ⟨hhandshake, hadded⟩ := runJob_addJob h hopen signals hrespond
  refine ⟨?_, ?_, fun params hparams => ?_⟩
  · rw [hhandle, hhandshake, hagree]
  · obtain ⟨-, -, ⟨-, htransport⟩ | ⟨-, -, hpending, -⟩⟩ :=
      handle_request_spec h hopen router signals r
    · rw [hhandle] at htransport
      rw [added_of_transport (s := s.addJob r) (by rw [htransport]; rfl)] at hadded
      cases hadded
    · exact hpending
  · rw [hhandle, ← hwelcome params hparams]
    exact hadded

theorem notice_handshake (s : Session) (n : Rpc.Notification) :
    (s.notice n).handshake = Handshake.heard s.handshake (.notification n) := by
  unfold notice Mcp.Signal.ofNotification Handshake.heard
  by_cases hconfirms : n.method = "notifications/initialized"
  · simp only [if_pos hconfirms]
  · simp only [if_neg hconfirms]
    by_cases hcancels : n.method = "notifications/cancelled"
    · rw [if_pos hcancels]
      cases Mcp.CancelParams.ofJson (n.params.getD (.object [])) <;> rfl
    · rw [if_neg hcancels]

theorem heard_of_ne (hmethod : r.method ≠ Mcp.handshakeMethod) (current : Option Handshake) :
    Handshake.heard current (.request r) = current := by
  rw [Handshake.heard, Request.greeting?, if_neg fun h => hmethod h.2]

/-- What handling a message does to the handshake, and that it leaves no job for one. -/
theorem handle_heard (h : s.Inv) (hopen : s.Open) (haside : s.Aside) (router : Router)
    (signals : List String) (m : Message) :
    (s.handle router signals m).handshake = Handshake.heard s.handshake m ∧
      (s.handle router signals m).Aside := by
  cases m with
  | request r =>
    by_cases hmethod : r.method = Mcp.handshakeMethod
    · obtain ⟨hhandshake, hpending, -⟩ :=
        handle_handshake h hopen router signals hmethod
      exact ⟨hhandshake, fun a ha => haside a (hpending ▸ ha)⟩
    · have hhandle : s.handle router signals (.request r) = s.addJob r := if_neg hmethod
      rw [hhandle, heard_of_ne hmethod]
      refine ⟨rfl, fun a ha => ?_⟩
      rw [pending_addJob] at ha
      rcases List.mem_append.1 ha with ha | ha
      · exact haside a ha
      · rw [List.mem_singleton.1 ha]
        exact hmethod
  | notification n =>
    obtain ⟨-, hjobs, -⟩ := notice_spec h n
    refine ⟨notice_handshake s n, fun a ha => haside a ?_⟩
    rwa [pending, handle, hjobs] at ha
  | success _ => exact ⟨rfl, haside⟩
  | failure _ => exact ⟨rfl, haside⟩

/-- The message that a move takes from the queue. -/
def Move.heard? (s : Session) : Move → Option Message
  | .pump _ => s.take?.map Prod.fst
  | _ => none

theorem Move.taken?_eq (s : Session) (move : Move) :
    move.taken? s = (move.heard? s).bind Message.request? := by
  cases move with
  | pump signals =>
    simp only [Move.taken?, Move.heard?]
    cases s.take? with
    | none => rfl
    | some taken =>
      obtain ⟨m, s'⟩ := taken
      cases m <;> rfl
  | _ => rfl

/-- A move changes the handshake only by the message that it takes from the queue. -/
theorem apply_heard (h : s.Inv) (hopen : s.Open) (haside : s.Aside) (router : Router)
    (move : Move) :
    (s.apply router move).handshake = (move.heard? s).toList.foldl Handshake.heard s.handshake ∧
      (s.apply router move).Aside := by
  cases move with
  | pump signals =>
    cases htake : s.take? with
    | none =>
      simp only [apply, pump, Move.heard?, htake]
      exact ⟨rfl, haside⟩
    | some taken =>
      obtain ⟨m, s₀⟩ := taken
      obtain ⟨inbound, -, rfl⟩ := take?_eq_some htake
      simp only [apply, pump, Move.heard?, htake]
      exact handle_heard (s := { s with transport := { s.transport with inbound } }) h
        ⟨hopen.going, hopen.held, hopen.reader⟩ haside router signals m
  | work ticket signals =>
    refine ⟨handshake_runJob haside router signals ticket, fun a ha => ?_⟩
    obtain ⟨-, -, ⟨hpending, -⟩ | ⟨-, -, -, -, hpending, -⟩⟩ :=
      runJob_spec h hopen router signals ticket
    · exact haside a (hpending ▸ ha)
    · rw [apply, hpending] at ha
      exact haside a (List.mem_of_mem_filter ha)
  | offer m => exact ⟨rfl, haside⟩
  | enter ticket => exact ⟨rfl, haside⟩
  | leave ticket => exact ⟨rfl, haside⟩
  | openStream =>
    simp only [apply]
    rcases events_cases s with hsame | ⟨-, hopened⟩
    · rw [hsame]
      exact ⟨rfl, haside⟩
    · rw [hopened]
      exact ⟨rfl, haside⟩
  | read =>
    rw [apply, next_outbound hopen]
    exact ⟨rfl, haside⟩
  | reject id error =>
    rw [apply, send_of_open hopen]
    exact ⟨rfl, haside⟩

end Session

/-! ## What a session has heard -/

theorem Phase.rank_le (p : Phase) : p.rank ≤ Phase.initialized.rank := by
  cases p <;> decide

namespace Handshake

variable {agreed : Handshake} {m : Message}

/-- Whether a message confirms the handshake. -/
def confirms : Message → Bool
  | .notification n => n.method = "notifications/initialized"
  | _ => false

theorem confirms_iff : confirms m = true ↔
    ∃ n : Rpc.Notification, m = .notification n ∧ n.method = "notifications/initialized" := by
  cases m <;> simp [confirms]

theorem heard_of_not_greets (h : ∀ r, m = .request r → ¬ r.Greets) : heard none m = none := by
  cases m with
  | request r => rw [heard, Request.not_greets_iff.1 (h r rfl)]
  | notification n => exact ite_self _
  | success _ => rfl
  | failure _ => rfl

/-- Without a request that succeeds there is no handshake. -/
theorem foldl_heard_none : ∀ messages : List Message,
    (∀ r, .request r ∈ messages → ¬ r.Greets) → messages.foldl heard none = none
  | [], _ => rfl
  | m :: rest, h => by
    rw [List.foldl_cons, heard_of_not_greets fun r hr => h r (hr ▸ List.mem_cons_self)]
    exact foldl_heard_none rest fun r hr => h r (List.mem_cons_of_mem m hr)

/-- Once there is a handshake, only a confirmation counts, and only once. -/
theorem heard_some (hbegun : agreed.phase ≠ .uninitialized) (m : Message) :
    heard (some agreed) m =
      some (if confirms m then { agreed with phase := .initialized } else agreed) := by
  obtain ⟨phase, version, client⟩ := agreed
  cases m with
  | request r =>
    cases hgreeting : r.greeting? with
    | none => simp [heard, hgreeting, confirms]
    | some params =>
      simp only [heard, hgreeting, confirms]
      exact congrArg some (congrArg Prod.fst (if_neg hbegun))
  | notification n =>
    by_cases hconfirms : n.method = "notifications/initialized"
    · cases phase with
      | uninitialized => exact absurd rfl hbegun
      | initializing => simp [heard, confirms, hconfirms, confirmed, move]
      | initialized => simp [heard, confirms, hconfirms, confirmed, move]
    · simp [heard, confirms, hconfirms]
  | success _ => rfl
  | failure _ => rfl

/-- What becomes of a handshake: all that changes is whether it is confirmed. -/
theorem foldl_heard_some : ∀ (messages : List Message) (agreed : Handshake),
    agreed.phase ≠ .uninitialized → messages.foldl heard (some agreed) =
      some (if messages.any confirms then { agreed with phase := .initialized } else agreed)
  | [], _, _ => rfl
  | m :: rest, agreed, hbegun => by
    rw [List.foldl_cons, heard_some hbegun]
    by_cases hconfirms : confirms m = true
    · rw [if_pos hconfirms, foldl_heard_some rest _ (by simp)]
      simp [hconfirms]
    · rw [if_neg hconfirms, foldl_heard_some rest agreed hbegun]
      simp [hconfirms]

/-- The first request that succeeds settles everything but whether the handshake is confirmed. -/
theorem foldl_heard_first {before after : List Message} {r : Request}
    {params : Mcp.HandshakeParams} (hgreeting : r.greeting? = some params)
    (hfirst : ∀ r, .request r ∈ before → ¬ r.Greets) :
    (before ++ .request r :: after).foldl heard none = some
      { phase := if after.any confirms then .initialized else .initializing
        protocolVersion := negotiate params.protocolVersion
        client := params.clientInfo } := by
  have hheard : heard none (.request r) = some
      { phase := .initializing
        protocolVersion := negotiate params.protocolVersion
        client := params.clientInfo } := by
    simp only [heard, hgreeting]
    rfl
  rw [List.foldl_append, foldl_heard_none before hfirst, List.foldl_cons, hheard,
    foldl_heard_some after _ (by simp)]
  split_ifs <;> rfl

theorem exists_first : ∀ messages : List Message, (∃ r, .request r ∈ messages ∧ r.Greets) →
    ∃ before r after, messages = before ++ .request r :: after ∧ r.Greets ∧
      ∀ r, .request r ∈ before → ¬ r.Greets
  | [], ⟨_, hmem, _⟩ => by cases hmem
  | m :: rest, ⟨r, hmem, hr⟩ => by
    by_cases hm : ∃ r, m = .request r ∧ r.Greets
    · obtain ⟨r, rfl, hr⟩ := hm
      exact ⟨[], r, rest, rfl, hr, by simp⟩
    · have hrest : Message.request r ∈ rest :=
        (List.mem_cons.1 hmem).resolve_left fun heq => hm ⟨r, heq.symm, hr⟩
      obtain ⟨before, r, after, rfl, hr, hfirst⟩ := exists_first rest ⟨r, hrest, hr⟩
      refine ⟨m :: before, r, after, rfl, hr, fun r' hmem' hr' => ?_⟩
      rcases List.mem_cons.1 hmem' with rfl | hmem'
      · exact hm ⟨r', rfl, hr'⟩
      · exact hfirst r' hmem' hr'

theorem foldl_heard_eq_none_iff (messages : List Message) :
    messages.foldl heard none = none ↔ ∀ r, .request r ∈ messages → ¬ r.Greets := by
  refine ⟨fun hnone r hmem hr => ?_, foldl_heard_none messages⟩
  obtain ⟨before, r, after, rfl, hr, hfirst⟩ := exists_first messages ⟨r, hmem, hr⟩
  obtain ⟨params, hgreeting⟩ := Request.greets_iff.1 hr
  rw [foldl_heard_first hgreeting hfirst] at hnone
  cases hnone

/-- A session that has a handshake has answered. -/
theorem phase_of_foldl_heard {messages : List Message}
    (h : messages.foldl heard none = some agreed) : agreed.phase ≠ .uninitialized := by
  have hgreets : ∃ r, Message.request r ∈ messages ∧ r.Greets := by
    by_contra hnone
    rw [foldl_heard_none messages fun r hmem hr => hnone ⟨r, hmem, hr⟩] at h
    cases h
  obtain ⟨before, r, after, rfl, hr, hfirst⟩ := exists_first messages hgreets
  obtain ⟨params, hgreeting⟩ := Request.greets_iff.1 hr
  rw [foldl_heard_first hgreeting hfirst] at h
  cases h
  split_ifs <;> simp

/-- The messages hold a confirmation that comes after a request that succeeds. -/
def Confirmed (messages : List Message) : Prop :=
  ∃ r n, r.Greets ∧ n.method = "notifications/initialized" ∧
    [.request r, .notification n].Sublist messages

/-- The first request that succeeds comes before all confirmations that count. -/
theorem confirmed_iff {before after : List Message} {r : Request} (hr : r.Greets)
    (hfirst : ∀ r, .request r ∈ before → ¬ r.Greets) :
    Confirmed (before ++ .request r :: after) ↔ after.any confirms = true := by
  constructor
  · rintro ⟨r', n, hr', hn, hsub⟩
    obtain ⟨left, right, hsplit, hleft, hright⟩ := List.sublist_append_iff.1 hsub
    cases left with
    | nil =>
      rw [List.nil_append] at hsplit
      rw [← hsplit] at hright
      have hmem : Message.notification n ∈ after := List.singleton_sublist.1 hright.tail
      exact List.any_eq_true.2 ⟨_, hmem, confirms_iff.2 ⟨n, rfl, hn⟩⟩
    | cons m left =>
      obtain ⟨rfl, -⟩ := List.cons.inj hsplit
      exact absurd hr' (hfirst r' (hleft.subset List.mem_cons_self))
  · intro h
    obtain ⟨m, hmem, hconfirms⟩ := List.any_eq_true.1 h
    obtain ⟨n, rfl, hn⟩ := confirms_iff.1 hconfirms
    have hafter : [Message.request r, .notification n].Sublist (.request r :: after) :=
      List.cons_sublist_cons.2 (List.singleton_sublist.2 hmem)
    exact ⟨r, n, hr, hn, hafter.trans (List.sublist_append_right before _)⟩

end Handshake

namespace History

open Session (Move)
open Handshake (heard Confirmed)

variable {router : Router} {h h' start : History} {messages more : List Message}

/-- A run in which the session takes these messages from its queue, in this order. -/
inductive Hears (router : Router) (start : History) : List Message → History → Prop
  | refl : Hears router start [] start
  | move {messages : List Message} {h : History} (move : Move) (hrun : Hears router start messages h)
    (hopen : h.session.Open) :
    Hears router start (messages ++ (move.heard? h.session).toList) (h.next router move)

namespace Hears

theorem run (hrun : Hears router start messages h) : Run router start h := by
  induction hrun with
  | refl => exact .refl
  | move m _ hopen ih => exact ih.move m hopen

/-- The handshake is what the messages make of it, and nothing that runs beside them. -/
theorem handshake (hrun : Hears router start messages h) (l : start.Ledger)
    (haside : start.session.Aside) :
    h.session.handshake = messages.foldl heard start.session.handshake ∧ h.session.Aside := by
  induction hrun with
  | refl => exact ⟨rfl, haside⟩
  | move m hrun hopen ih =>
    obtain ⟨hhandshake, haside'⟩ :=
      Session.apply_heard (hrun.run.ledger l).inv hopen ih.2 router m
    rw [List.foldl_append, ← ih.1]
    exact ⟨hhandshake, haside'⟩

/-- The requests that were taken are those among the messages. -/
theorem asked (hrun : Hears router start messages h) :
    h.asked.map Prod.snd = start.asked.map Prod.snd ++ Rpc.requests messages := by
  induction hrun with
  | refl => exact (List.append_nil _).symm
  | move m hrun hopen ih =>
    rename_i messages h
    have htaken : (m.taken? h.session).toList = Rpc.requests (m.heard? h.session).toList := by
      rw [Move.taken?_eq]
      cases m.heard? h.session with
      | none => rfl
      | some message => cases message <;> rfl
    rw [Rpc.requests_append, ← htaken, ← List.append_assoc, ← ih, next, List.map_append]
    cases m.taken? h.session <;> rfl

/-- A run in which a message was taken takes it at some point. -/
theorem split {m : Message} {before after : List Message}
    (hrun : Hears router start (before ++ m :: after) h) :
    ∃ h₀ signals, Hears router start before h₀ ∧ h₀.session.Open ∧
      Move.heard? h₀.session (.pump signals) = some m ∧
      Hears router (h₀.next router (.pump signals)) after h := by
  generalize hall : before ++ m :: after = all at hrun
  induction hrun generalizing after with
  | refl => simp at hall
  | move mv hrun hopen ih =>
    rename_i messages h
    cases hheard : mv.heard? h.session with
    | none =>
      rw [hheard, Option.toList_none, List.append_nil] at hall
      obtain ⟨h₀, signals, hbefore, hopen₀, hm, hafter⟩ := ih hall
      have hafter' := hafter.move mv hopen
      rw [hheard, Option.toList_none, List.append_nil] at hafter'
      exact ⟨h₀, signals, hbefore, hopen₀, hm, hafter'⟩
    | some last =>
      rw [hheard, Option.toList_some] at hall
      -- Either the message is the last one, or the last one comes after it.
      rcases List.eq_nil_or_concat after with rfl | ⟨inner, last', rfl⟩
      · obtain ⟨rfl, hlast⟩ := List.append_inj' hall rfl
        obtain ⟨rfl, -⟩ := List.cons.inj hlast
        cases mv with
        | pump signals => exact ⟨h, signals, hrun, hopen, hheard, .refl⟩
        | _ => cases hheard
      · rw [List.concat_eq_append, ← List.cons_append, ← List.append_assoc] at hall
        obtain ⟨hinner, hlast⟩ := List.append_inj' hall rfl
        obtain ⟨rfl, -⟩ := List.cons.inj hlast
        obtain ⟨h₀, signals, hbefore, hopen₀, hm, hafter⟩ := ih hinner
        have hafter' := hafter.move mv hopen
        rw [hheard, Option.toList_some] at hafter'
        rw [List.concat_eq_append]
        exact ⟨h₀, signals, hbefore, hopen₀, hm, hafter'⟩

end Hears

/-! ## The response to a request for a handshake -/

/-- Certain requests were taken, then this one, and all that was ever left for it is one response. -/
def Replied (h : History) (earlier : List Request) (r : Request) (response : Rpc.Response) : Prop :=
  ∃ first ticket later, h.asked = first ++ (ticket, r) :: later ∧ first.map Prod.snd = earlier ∧
    (ticket, r) ∉ h.session.pending ∧
      h.entries ticket = [⟨some ticket, false, .message response.toMessage⟩]

/-- Nothing more is left for a request that is over. -/
theorem Ledger.stays_over (l : h.Ledger) (hopen : h.session.Open) (router : Router) (move : Move)
    {a : Nat × Request} (ha : a ∈ h.asked) (hover : a ∉ h.session.pending) :
    a ∉ (h.next router move).session.pending ∧
      (h.next router move).entries a.1 = h.entries a.1 := by
  obtain ⟨-, heffect⟩ := Session.effect_of_move l.inv hopen router move
  cases heffect with
  | quiet hpending _ _ hadded =>
    refine ⟨fun h => hover (hpending ▸ h), ?_⟩
    rcases hadded with hadded | hticket
    · exact entries_next_none hadded
    · exact entries_next_ne (by simp [hticket])
  | accepted r hpending _ _ hadded =>
    refine ⟨fun hmem => ?_, entries_next_none hadded⟩
    rw [next, hpending] at hmem
    rcases List.mem_append.1 hmem with hmem | hmem
    · exact hover hmem
    · have hlt := l.lt a ha
      rw [List.mem_singleton.1 hmem] at hlt
      exact Nat.lt_irrefl _ hlt
  | answered r item hpending _ _ hticket =>
    refine ⟨fun h => hover (hpending ▸ h), entries_next_ne ?_⟩
    rw [hticket]
    exact fun heq => Nat.ne_of_lt (l.lt a ha) (Option.some.inj heq).symm
  | finished ticket r item hjob hpending _ _ hticket =>
    refine ⟨fun hmem => hover ?_, entries_next_ne ?_⟩
    · rw [next, hpending] at hmem
      exact List.mem_of_mem_filter hmem
    · rw [hticket]
      intro heq
      have hsame := l.eq_of_ticket (l.pending _ hjob).1 ha (Option.some.inj heq)
      exact hover (hsame ▸ hjob)

variable {earlier : List Request} {r : Request} {response : Rpc.Response}

theorem Replied.next (hreplied : h.Replied earlier r response) (l : h.Ledger)
    (hopen : h.session.Open) (router : Router) (move : Move) :
    (h.next router move).Replied earlier r response := by
  obtain ⟨first, ticket, later, hasked, hearlier, hover, hentries⟩ := hreplied
  have hmem : (ticket, r) ∈ h.asked := by
    rw [hasked]
    exact List.mem_append_right _ List.mem_cons_self
  obtain ⟨hover', hentries'⟩ := l.stays_over hopen router move hmem hover
  have hasked' : (h.next router move).asked = first ++ (ticket, r) :: (later ++
      ((move.taken? h.session).map fun r => (h.session.nextJob, r)).toList) := by
    rw [History.next, hasked, List.append_assoc, List.cons_append]
  exact ⟨first, ticket, _, hasked', hearlier, hover', hentries'.trans hentries⟩

theorem Replied.run (hreplied : start.Replied earlier r response) (l : start.Ledger)
    (hrun : Run router start h) : h.Replied earlier r response := by
  induction hrun with
  | refl => exact hreplied
  | move m hrun hopen ih => exact ih.next (hrun.ledger l) hopen router m

theorem replied_pump (l : h.Ledger) (hopen : h.session.Open) (router : Router)
    {signals : List String} {params : Mcp.HandshakeParams} (hgreeting : r.greeting? = some params)
    (hheard : Move.heard? h.session (.pump signals) = some (.request r)) :
    (h.next router (.pump signals)).Replied (h.asked.map Prod.snd) r
      (router.welcome r params) := by
  obtain ⟨⟨m, s₀⟩, htake, rfl⟩ := Option.map_eq_some_iff.1 hheard
  obtain ⟨inbound, -, rfl⟩ := Session.take?_eq_some htake
  have htaken : Move.taken? h.session (.pump signals) = some r := by
    simp only [Move.taken?, htake]
  have hpump : h.session.pump router signals = Session.handle
      { h.session with transport := { h.session.transport with inbound } } router signals
        (.request r) := by
    simp only [Session.pump, htake]
  obtain ⟨-, hpending, hadded⟩ := Session.handle_handshake
    (s := { h.session with transport := { h.session.transport with inbound } }) l.inv
    ⟨hopen.going, hopen.held, hopen.reader⟩ router signals (Request.greeting?_eq_some hgreeting).2.1
  have hfired : h.session.fired h.session.nextJob = false := by
    rw [Session.fired_nextJob l.inv]
    exact hopen.going
  refine ⟨h.asked, h.session.nextJob, [], asked_next_some htaken, rfl, fun hmem => ?_, ?_⟩
  · rw [History.next, Session.apply, hpump, hpending] at hmem
    exact Nat.lt_irrefl _ (Session.pending_lt l.inv hmem)
  · have hadded' : h.session.added (h.session.apply router (.pump signals)) =
        [.message (router.welcome r params).toMessage] := by
      rw [Session.apply, hpump]
      exact hadded params hgreeting
    rw [entries_next_self rfl hadded', l.entries_new, hfired]
    rfl

/-- Whatever a session takes while it is open, and whatever else is worked on: it has a handshake
exactly if it has taken a request for one that succeeds. The first of them settles version and
client for good: the version is the one in the response that was left for it, and the client is the
one that its parameters name. The handshake is confirmed if a confirmation came after any request
that succeeds, and only answered otherwise; it never goes back, and no further request changes
it. -/
theorem handshake_follows_first_success {s : Session} (hs : Fresh s) (hnone : s.handshake = none)
    (hrun : Hears router { session := s } messages h) :
    (h.session.handshake = none ↔ ∀ r, .request r ∈ messages → ¬ r.Greets) ∧
      (∀ before r after, messages = before ++ .request r :: after → r.Greets →
        (∀ r', .request r' ∈ before → ¬ r'.Greets) →
          ∃ agreed params result, h.session.handshake = some agreed ∧
            h.Replied (Rpc.requests before) r (.result r.id result) ∧
            result.member? "protocolVersion" = some (.string agreed.protocolVersion) ∧
            Mcp.HandshakeParams.ofJson (r.params.getD (.object [])) = .ok params ∧
            agreed.client = params.clientInfo ∧
            (Confirmed messages → agreed.phase = .initialized) ∧
            (¬ Confirmed messages → agreed.phase = .initializing)) ∧
      (∀ more h', Hears router h more h' → ∀ agreed, h.session.handshake = some agreed →
        ∃ agreed', h'.session.handshake = some agreed' ∧
          agreed'.protocolVersion = agreed.protocolVersion ∧ agreed'.client = agreed.client ∧
          agreed.phase.rank ≤ agreed'.phase.rank ∧ agreed'.phase ≠ .uninitialized) ∧
      (h.session.Open → ∀ move r, Move.taken? h.session move = some r →
        h.session.handshake ≠ none →
          (h.next router move).session.handshake = h.session.handshake) := by
  have l₀ : Ledger { session := s } := .of_fresh hs
  have haside₀ : s.Aside := by
    rw [Session.Aside, Session.pending, hs.jobs]
    exact fun a ha => by cases ha
  have l := hrun.run.ledger l₀
  obtain ⟨hhandshake, haside⟩ := hrun.handshake l₀ haside₀
  rw [hnone] at hhandshake
  have hbegun : ∀ agreed, h.session.handshake = some agreed → agreed.phase ≠ .uninitialized :=
    fun agreed hagreed => Handshake.phase_of_foldl_heard (hhandshake ▸ hagreed)
  refine ⟨?_, ?_, ?_, ?_⟩
  · rw [hhandshake]
    exact Handshake.foldl_heard_eq_none_iff messages
  · rintro before r after rfl hr hfirst
    obtain ⟨params, hgreeting⟩ := Request.greets_iff.1 hr
    obtain ⟨h₀, signals, hbefore, hopen₀, hheard, hafter⟩ := hrun.split
    have l₁ := hbefore.run.ledger l₀
    have hreplied := (replied_pump l₁ hopen₀ router hgreeting hheard).run
      (l₁.next hopen₀ router _) hafter.run
    rw [hbefore.asked] at hreplied
    rw [Handshake.foldl_heard_first hgreeting hfirst] at hhandshake
    refine ⟨_, params, _, hhandshake, hreplied, ?_, (Request.greeting?_eq_some hgreeting).2.2, rfl,
      fun hconfirmed => ?_, fun hnot => ?_⟩
    · exact Mcp.HandshakeResult.version_canonical _
    · exact if_pos ((Handshake.confirmed_iff hr hfirst).1 hconfirmed)
    · exact if_neg fun hconfirmed => hnot ((Handshake.confirmed_iff hr hfirst).2 hconfirmed)
  · intro more h' hmore agreed hagreed
    obtain ⟨hlater, -⟩ := hmore.handshake l haside
    rw [hagreed, Handshake.foldl_heard_some more agreed (hbegun agreed hagreed)] at hlater
    by_cases hconfirmed : more.any Handshake.confirms = true
    · rw [if_pos hconfirmed] at hlater
      exact ⟨_, hlater, rfl, rfl, agreed.phase.rank_le, by simp⟩
    · rw [if_neg hconfirmed] at hlater
      exact ⟨_, hlater, rfl, rfl, Nat.le_refl _, hbegun agreed hagreed⟩
  · intro hopen move r htaken hsome
    obtain ⟨agreed, hagreed⟩ := Option.ne_none_iff_exists'.1 hsome
    obtain ⟨m, hheard, hrequest⟩ := Option.bind_eq_some_iff.1 (Move.taken?_eq _ _ ▸ htaken)
    cases m with
    | request r =>
      obtain ⟨hnext, -⟩ := Session.apply_heard l.inv hopen haside router move
      rw [hheard, hagreed] at hnext
      have hsame : heard (some agreed) (.request r) = some agreed :=
        Handshake.heard_some (hbegun agreed hagreed) _
      rw [hagreed]
      exact hnext.trans hsame
    | _ => cases hrequest

/-- A request for a handshake from a client with a name. -/
def greet (id : Int) (protocolVersion client : String) : Request where
  id := .number id
  method := Mcp.handshakeMethod
  params := some (.object
    [("clientInfo", .object [("name", .string client), ("version", .string "1")]),
      ("protocolVersion", .string protocolVersion)])

def confirmation : Message := .notification { method := "notifications/initialized" }

/-- A confirmation comes too early, then a request for a handshake, another one, and a confirmation,
while a first request is still worked on. -/
def greetings : List Message :=
  [confirmation, .request ping, .request (greet 2 "2024-11-05" "first"),
    .request (greet 3 "2025-06-18" "second"), confirmation]

/-- A session that has taken so many of these messages. -/
def greeted : Nat → History
  | 0 => opened greetings
  | taken + 1 => (greeted taken).next {} (.pump [])

theorem hears_greeted : Hears {} (opened greetings) greetings (greeted 5) :=
  ((((Hears.refl.move (.pump []) ⟨rfl, rfl, rfl⟩).move (.pump []) ⟨rfl, rfl, rfl⟩).move (.pump [])
    ⟨rfl, rfl, rfl⟩).move (.pump []) ⟨rfl, rfl, rfl⟩).move (.pump []) ⟨rfl, rfl, rfl⟩

theorem handshake_follows_first_success_greeted : Fresh (opened greetings).session ∧
    (opened greetings).session.handshake = none ∧
    (greeted 5).session.handshake = some ⟨.initialized, "2024-11-05", some ⟨"first", "1"⟩⟩ ∧
    ∃ result, (greeted 5).Replied [ping] (greet 2 "2024-11-05" "first")
        (.result (.number 2) result) ∧
      result.member? "protocolVersion" = some (.string "2024-11-05") := by
  have hagreed : (greeted 5).session.handshake =
      some ⟨.initialized, "2024-11-05", some ⟨"first", "1"⟩⟩ := rfl
  have hgreets : (greet 2 "2024-11-05" "first").Greets :=
    ⟨rfl, rfl, fun v hv => by cases hv; exact ⟨_, rfl⟩⟩
  have hping : ∀ r, Message.request r ∈ [confirmation, .request ping] → ¬ r.Greets := by
    intro r hr h
    obtain rfl : r = ping := by simpa [confirmation] using hr
    exact absurd h.method (by decide)
  obtain ⟨-, hfirst, -, -⟩ := handshake_follows_first_success ⟨rfl, rfl⟩ rfl hears_greeted
  obtain ⟨agreed, params, result, hhandshake, hreplied, hversion, -⟩ :=
    hfirst [confirmation, .request ping] _ _ rfl hgreets hping
  obtain rfl := Option.some.inj (hagreed.symm.trans hhandshake)
  exact ⟨⟨rfl, rfl⟩, rfl, hagreed, result, hreplied, hversion⟩

end History

end SessionRelay
