import SessionRelay.Proofs.Session.History

/-!
# Which requests a cancellation reaches

A cancellation reaches every request with its id that has begun: from then on the request counts as
cancelled, and its work gets no response when it returns. A request that was taken but has not begun
is not in the table of running requests yet, so the cancellation passes it by: when it does begin,
it begins as if nobody had cancelled it (`cancellation_reaches_begun`).
-/

namespace SessionRelay

namespace Session

open History (Run)

variable {s s' : Session} {router : Router} {signals : List String} {ticket number : Nat}
  {job : Job}

/-- The id whose requests a move cancels. -/
def Move.cancels? (s : Session) : Move → Option Rpc.Id
  | .pump _ =>
    match s.take? with
    | some (.notification n, _) =>
      match Mcp.Signal.ofNotification n with
      | .ok (.cancelled params) => some params.requestId
      | _ => none
    | _ => none
  | _ => none

/-- Whether the work on a request has begun. -/
def Begun (s : Session) (ticket : Nat) : Prop :=
  ∃ job ∈ s.jobs, job.ticket = ticket ∧ ∃ number work, job.stage = .begun number work

/-- What the work of a job has come to when the job is run. -/
def cameTo? (s : Session) (router : Router) (signals : List String) (ticket : Nat) :
    Option (Activity Rpc.Response) :=
  match s.job? ticket with
  | none => none
  | some job =>
    match job.stage with
    | .queued =>
      let (number, s) := s.register job.request.id
      some ((router.respond s.clientId (s.isCancelled number) job.request).proceed
        (s.happened signals number))
    | .begun number work => some (work.proceed (s.happened signals number))

/-! ## The end of a job -/

/-- A job that returns leaves its response, unless its request was cancelled. -/
theorem goOn_done (hopen : s.Open) {work : Activity Rpc.Response} {response : Rpc.Response}
    (hdone : work.proceed (s.happened signals number) = .done response) :
    s.added (s.goOn signals job number work) =
      [if s.isCancelled number then .abandoned else .message response.toMessage] := by
  rcases goOn_cases hopen signals job number work with ⟨_, _, hawait, -⟩ | ⟨item, hleaves, hover⟩
  · rw [hdone] at hawait
    cases hawait
  · rw [hdone] at hleaves
    rw [added_of_put hover.transport]
    cases hleaves with
    | answered _ h => rw [h, if_neg Bool.false_ne_true]
    | dropped _ h => rw [h, if_pos rfl]

theorem runJob_done (h : s.Inv) (hopen : s.Open) {response : Rpc.Response}
    (hdone : s.cameTo? router signals ticket = some (.done response)) :
    s.added (s.runJob router signals ticket) =
      [if s.fired ticket then .abandoned else .message response.toMessage] := by
  unfold cameTo? at hdone
  cases hjob : s.job? ticket with
  | none =>
    rw [hjob] at hdone
    cases hdone
  | some job =>
    cases hstage : job.stage with
    | queued =>
      simp only [hjob, hstage, Option.some.injEq] at hdone
      have hfired : s.fired ticket = (s.register job.request.id).2.isCancelled
          (s.register job.request.id).1 := by
        rw [isCancelled_register h, fired, hjob, Option.map_some, hstage]
      have hopen' : (s.register job.request.id).2.Open := ⟨hopen.going, hopen.held, hopen.reader⟩
      simp only [runJob, hjob, hstage]
      rw [hfired]
      exact goOn_done hopen' hdone
    | begun number work =>
      simp only [hjob, hstage, Option.some.injEq] at hdone
      rw [runJob_begun hjob hstage, fired, hjob, Option.map_some, hstage]
      exact goOn_done hopen hdone

/-! ## Cancelled requests -/

theorem begun_iff (h : s.Inv) (hjob : job ∈ s.jobs) :
    s.Begun job.ticket ↔ ∃ number work, job.stage = .begun number work := by
  refine ⟨fun ⟨j, hj, hticket, hstage⟩ => ?_, fun hstage => ⟨job, hjob, rfl, hstage⟩⟩
  rwa [h.eq_of_ticket hj hjob hticket] at hstage

theorem fired_of_begun (h : s.Inv) (hjob : job ∈ s.jobs) {work : Activity Rpc.Response}
    (hstage : job.stage = .begun number work) : s.fired job.ticket = s.isCancelled number := by
  rw [fired, (job?_eq_some_iff h).2 ⟨hjob, rfl⟩, Option.map_some, hstage]

theorem fired_of_not_begun (h : s.Inv) (hjob : job ∈ s.jobs) (hnot : ¬ s.Begun job.ticket) :
    s.fired job.ticket = s.cancelled := by
  rw [begun_iff h hjob] at hnot
  rw [fired, (job?_eq_some_iff h).2 ⟨hjob, rfl⟩, Option.map_some]
  cases hstage : job.stage with
  | queued => rfl
  | begun number work => exact absurd ⟨number, work, hstage⟩ hnot

variable (router) in
/-- A session that takes a cancellation goes on with the same jobs. -/
theorem pump_of_cancels {id : Rpc.Id} (hcancel : Move.cancels? s (.pump signals) = some id) :
    (s.pump router signals).jobs = s.jobs ∧
      (s.pump router signals).inFlight = (s.inFlight.cancel id).2 ∧
      (s.pump router signals).cancelled = s.cancelled := by
  simp only [Move.cancels?] at hcancel
  split at hcancel
  · rename_i n s₀ htake
    split at hcancel
    · rename_i params hsignal
      cases hcancel
      obtain ⟨inbound, -, rfl⟩ := take?_eq_some htake
      simp only [pump, htake, handle, notice, hsignal]
      exact ⟨rfl, rfl, rfl⟩
    · cases hcancel
  · cases hcancel

variable (router) in
/-- Of the requests with an id, a cancellation reaches those that have begun, and no other. -/
theorem fired_pump_iff (h : s.Inv) (hopen : s.Open) {id : Rpc.Id}
    (hcancel : Move.cancels? s (.pump signals) = some id) (hjob : job ∈ s.jobs)
    (hid : job.request.id = id) :
    (s.pump router signals).fired job.ticket = true ↔ s.Begun job.ticket := by
  obtain ⟨hkept, -⟩ := effect_of_pump h hopen router signals
  obtain ⟨hjobs, hinFlight, hcancelled⟩ := pump_of_cancels router hcancel
  have hjob' : job ∈ (s.pump router signals).jobs := hjobs ▸ hjob
  have hbegun : (s.pump router signals).Begun job.ticket ↔ s.Begun job.ticket := by
    rw [Begun, hjobs, Begun]
  refine ⟨fun hfired => Classical.byContradiction fun hnot => ?_, fun hstage => ?_⟩
  · rw [fired_of_not_begun hkept.inv hjob' (hbegun.not.2 hnot), hcancelled, hopen.going] at hfired
    cases hfired
  · obtain ⟨number, work, hstage⟩ := (begun_iff h hjob).1 hstage
    have hknown := (h.fits job hjob number work hstage).2.1
    rw [fired_of_begun hkept.inv hjob' hstage, isCancelled, InFlight.isCancelled, hinFlight,
      InFlight.cancel_cancelled, List.contains_eq_mem, Bool.or_eq_true, decide_eq_true_eq]
    exact .inr (List.mem_append.2 (hid ▸ hknown).symm)

/-- What was cancelled stays cancelled for as long as the work on it goes on. -/
theorem Onward.fired (honward : s.Onward s') (h : s.Inv) (h' : s'.Inv)
    (hcancelled : s'.cancelled = s.cancelled) {a : Nat × Rpc.Request} (ha : a ∈ s.pending)
    (ha' : a ∈ s'.pending) (hbegun : s.Begun a.1) (hfired : s.fired a.1 = true) :
    s'.fired a.1 = true := by
  obtain ⟨job, hjob, hticket, number, work, hstage⟩ := hbegun
  obtain ⟨job', hjob', hticket', -⟩ := mem_pending_iff.1 ha'
  rcases honward.jobs job' hjob' with hnew | ⟨j, hj, hsame, -, hgoes⟩
  · exact absurd (pending_lt h ha) (by omega)
  · obtain rfl := h.eq_of_ticket hj hjob (hsame.trans (hticket'.trans hticket.symm))
    obtain ⟨work', hstage'⟩ := hgoes number work hstage
    rw [← hticket, fired_of_begun h hj hstage, isCancelled, InFlight.isCancelled, Bool.or_eq_true,
      List.contains_iff_mem] at hfired
    rw [← hticket', fired_of_begun h' hjob' hstage', isCancelled, InFlight.isCancelled,
      Bool.or_eq_true, List.contains_iff_mem, hcancelled]
    exact hfired.imp_right fun hmem => honward.cancelled hmem

end Session

namespace History

open Session (Move)

variable {router : Router} {h h' start : History}

theorem Run.kept (hrun : Run router start h) (l : start.Ledger) :
    start.session.Onward h.session ∧ h.session.cancelled = start.session.cancelled := by
  induction hrun with
  | refl => exact ⟨.refl _, rfl⟩
  | move m hrun hopen ih =>
    obtain ⟨hkept, -⟩ := Session.effect_of_move (hrun.ledger l).inv hopen router m
    exact ⟨ih.1.trans hkept.onward, hkept.cancelled.trans ih.2⟩

/-- A server with a resource whose reading goes on until it is cancelled. -/
def patient : Router where
  registry :=
    { resources :=
        [{ uri := "wait:", handler := fun _ => .await .cancellation (.done (.ok (.text ""))) }] }

def waitRead : Rpc.Request where
  id := .number 1
  method := "resources/read"
  params := some (.object [("uri", .string "wait:")])

def cancelOne : Rpc.Notification where
  method := "notifications/cancelled"
  params := some (.object [("requestId", .number (.int 1))])

/-- Two requests with one id and a cancellation of it are in the queue. The session takes the
requests, the first of them begins, and the session takes the cancellation. -/
def halfBegun : History :=
  (((opened [.request waitRead, .request ping, .notification cancelOne]).next
    patient (.pump [])).next patient (.pump [])).next patient (.work 0 [])

end History

end SessionRelay
