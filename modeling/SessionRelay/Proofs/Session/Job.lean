import SessionRelay.Session.Work
import SessionRelay.Proofs.Session.InFlight

/-!
# What one run of a job does

A job that is run for the first time is begun under a fresh number, and then does what any begun job
does (`runJob_queued`). A begun job waits for an event, or it is over (`goOn_cases`): it is
taken out of the jobs and of the table of running requests, and leaves the one item that belongs to
the way in which its work ended.
-/

namespace SessionRelay

namespace Activity

variable {α β : Type}

/-- Every value that the work can end with has a property. -/
def All (P : α → Prop) : Activity α → Prop
  | .done a => P a
  | .crash _ => True
  | .await _ next => All P next

theorem all_map {f : α → β} {P : β → Prop} (h : ∀ a, P (f a)) : ∀ work : Activity α,
    (work.map f).All P
  | .done a => h a
  | .crash _ => trivial
  | .await _ next => all_map h next

theorem all_proceed {P : α → Prop} (happened : Event → Bool) : ∀ work : Activity α,
    work.All P → (work.proceed happened).All P
  | .done _, h => h
  | .crash _, h => h
  | .await event next, h => by
    unfold proceed
    split_ifs
    · exact all_proceed happened next h
    · exact h

end Activity

theorem Rpc.Response.id?_toMessage (r : Rpc.Response) : r.toMessage.id? = r.id? := by
  cases r <;> rfl

theorem Rpc.Response.isResponse_toMessage (r : Rpc.Response) : r.toMessage.isResponse = true := by
  cases r <;> rfl

/-- Whatever a request asks for, the answer has its id. -/
theorem Router.respond_all (router : Router) (clientId : String) (cancelled : Bool)
    (request : Rpc.Request) :
    (router.respond clientId cancelled request).All fun r => r.id? = some request.id := by
  unfold Router.respond
  split
  · rfl
  · split
    · rfl
    · refine Activity.all_map (fun result => ?_) _
      cases result <;> rfl

namespace Session

variable {s : Session} {router : Router} {signals : List String} {ticket number : Nat} {job : Job}

/-! ## Writing -/

/-- Whether what is written still reaches a reader. -/
structure Open (s : Session) : Prop where
  going : s.cancelled = false
  held : s.transport.closed = false
  reader : s.transport.outbound.hasReader = true

/-- The session with one more item for the client. -/
def put (s : Session) (item : OutboundItem) : Session :=
  { s with
    transport :=
      { s.transport with
        outbound := { s.transport.outbound with queue := s.transport.outbound.queue ++ [item] } } }

/-- What a request that came to this leaves for the client. -/
def itemOf : Option Rpc.Response → OutboundItem
  | some r => .message r.toMessage
  | none => .abandoned

theorem Transport.push_of_open {t : Transport} (hclosed : t.closed = false)
    (hreader : t.outbound.hasReader = true) (item : OutboundItem) :
    t.push item =
      .ok { t with outbound := { t.outbound with queue := t.outbound.queue ++ [item] } } := by
  simp [Transport.push, hclosed, hreader]

theorem writeBack_of_open (hclosed : s.transport.closed = false)
    (hreader : s.transport.outbound.hasReader = true) (response : Option Rpc.Response) :
    s.writeBack response = s.put (itemOf response) := by
  cases response <;>
    simp [writeBack, send, abandon, Transport.send, Transport.abandon,
      Transport.push_of_open hclosed hreader, Except.map, Except.toOption, put, itemOf]

/-- Whether or not anybody reads, an item for the client changes nothing but the queue. -/
theorem push_queue (s : Session) (item : OutboundItem) : ∃ queue,
    ((s.transport.push item).map fun transport => { s with transport }).toOption.getD s =
      { s with
        transport := { s.transport with outbound := { s.transport.outbound with queue } } } := by
  unfold Transport.push
  split_ifs
  · exact ⟨s.transport.outbound.queue, rfl⟩
  · exact ⟨_, rfl⟩

theorem writeBack_queue (s : Session) : ∀ response : Option Rpc.Response, ∃ queue,
    s.writeBack response =
      { s with
        transport := { s.transport with outbound := { s.transport.outbound with queue } } }
  | none => s.push_queue .abandoned
  | some r => s.push_queue (.message r.toMessage)

/-! ## Jobs that run for the first time -/

theorem job?_eq_some (h : s.job? ticket = some job) : job ∈ s.jobs ∧ job.ticket = ticket :=
  ⟨List.mem_of_find?_eq_some h, by simpa using List.find?_some h⟩

/-- The session in which a job has just begun. -/
def begin (s : Session) (router : Router) (job : Job) : Session :=
  let (number, s) := s.register job.request.id
  s.setStage job.ticket
    (.begun number (router.respond s.clientId (s.isCancelled number) job.request))

theorem job?_setStage (h : s.job? ticket = some job) (stage : Stage) :
    (s.setStage ticket stage).job? ticket = some { job with stage } := by
  have hticket := (job?_eq_some h).2
  have hfind : ∀ jobs : List Job, (jobs.find? fun j => j.ticket == ticket) = some job →
      ((jobs.map fun j => if j.ticket == ticket then { j with stage } else j).find?
        fun j => j.ticket == ticket) = some { job with stage } := by
    intro jobs
    induction jobs with
    | nil => exact fun h => by cases h
    | cons j jobs ih =>
      intro h
      by_cases hj : j.ticket = ticket
      · have hjob : j = job := by simpa [hj] using h
        simp [hjob, hticket]
      · rw [List.find?_cons_of_neg (by simpa using hj)] at h
        rw [List.map_cons, if_neg (by simpa using hj), List.find?_cons_of_neg (by simpa using hj)]
        exact ih h
  exact hfind s.jobs h

theorem setStage_setStage (s : Session) (ticket : Nat) (first second : Stage) :
    (s.setStage ticket first).setStage ticket second = s.setStage ticket second := by
  simp only [setStage, List.map_map]
  congr 1
  refine List.map_congr_left fun j _ => ?_
  by_cases h : j.ticket = ticket <;> simp [h]

theorem removeJob_setStage (s : Session) (ticket : Nat) (stage : Stage) :
    (s.setStage ticket stage).removeJob ticket = s.removeJob ticket := by
  simp only [setStage, removeJob, beq_iff_eq]
  congr 1
  induction s.jobs with
  | nil => rfl
  | cons j jobs ih => by_cases h : j.ticket = ticket <;> simp [h, ih]

theorem runJob_begun {work : Activity Rpc.Response} (hjob : s.job? ticket = some job)
    (hstage : job.stage = .begun number work) :
    s.runJob router signals ticket = s.goOn signals job number work := by
  simp only [runJob, hjob, hstage]

theorem goOn_setStage (s : Session) (signals : List String) (job : Job) (number : Nat)
    (work : Activity Rpc.Response) (stage old : Stage) :
    (s.setStage job.ticket stage).goOn signals { job with stage := old } number work =
      s.goOn signals job number work := by
  have hsame : (s.setStage job.ticket stage).happened signals number =
      s.happened signals number := rfl
  simp only [goOn, hsame, setStage_setStage, removeJob_setStage]

/-- A job that is run for the first time is begun and goes on from there. -/
theorem runJob_queued (hjob : s.job? ticket = some job) (hstage : job.stage = .queued) :
    s.runJob router signals ticket = (s.begin router job).runJob router signals ticket := by
  have hticket := (job?_eq_some hjob).2
  subst hticket
  have hbegun := job?_setStage (s := (s.register job.request.id).2) hjob
    (.begun s.inFlight.nextNumber (router.respond s.clientId
      ((s.register job.request.id).2.isCancelled s.inFlight.nextNumber) job.request))
  refine Eq.trans ?_ (runJob_begun hbegun rfl).symm
  rw [goOn_setStage]
  simp only [runJob, hjob, hstage]
  rfl

/-! ## Jobs that have begun -/

/-- What a request leaves for the client by the way in which its work ended: a request that was
cancelled gets no response, but a crash is always told. -/
inductive Leaves (id : Rpc.Id) (cancelled : Bool) : Activity Rpc.Response → OutboundItem → Prop
  | answered (r : Rpc.Response) (h : cancelled = false) :
    Leaves id cancelled (.done r) (.message r.toMessage)
  | dropped (r : Rpc.Response) (h : cancelled = true) : Leaves id cancelled (.done r) .abandoned
  | crashed (message : Option String) : Leaves id cancelled (.crash message)
    (.message (Rpc.Response.error (some id) (.internalError (message.getD silentCrash))).toMessage)

/-- The second session is the first without a job that is over, with the item that the job left. -/
structure Over (s : Session) (job : Job) (number : Nat) (item : OutboundItem) (s' : Session) :
    Prop where
  jobs : s'.jobs = s.jobs.filter fun j => j.ticket != job.ticket
  inFlight : s'.inFlight = s.inFlight.finish job.request.id number
  nextJob : s'.nextJob = s.nextJob
  transport : s'.transport = (s.put item).transport
  cancelled : s'.cancelled = s.cancelled
  clientId : s'.clientId = s.clientId

theorem over_agree {response : Rpc.Response} {item : OutboundItem} :
    Over s job number item
      ((((s.removeJob job.ticket).finish job.request.id number).agree job.request response).put
        item) := by
  unfold agree
  split
  · split_ifs <;> exact ⟨rfl, rfl, rfl, rfl, rfl, rfl⟩
  · exact ⟨rfl, rfl, rfl, rfl, rfl, rfl⟩

theorem agree_transport (s : Session) (request : Rpc.Request) (response : Rpc.Response) :
    (s.agree request response).transport = s.transport := by
  unfold agree
  split
  · split_ifs <;> rfl
  · rfl

/-- A begun job waits, or it is over and leaves one item. -/
theorem goOn_cases (hopen : s.Open) (signals : List String) (job : Job) (number : Nat)
    (work : Activity Rpc.Response) :
    (∃ event next, work.proceed (s.happened signals number) = .await event next ∧
      s.goOn signals job number work =
        s.setStage job.ticket (.begun number (.await event next))) ∨
    ∃ item, Leaves job.request.id (s.isCancelled number)
        (work.proceed (s.happened signals number)) item ∧
      Over s job number item (s.goOn signals job number work) := by
  unfold goOn
  split
  · rename_i event next hproceed
    exact .inl ⟨event, next, hproceed, rfl⟩
  · rename_i response hproceed
    rw [hproceed]
    refine .inr ?_
    by_cases hcancelled : s.isCancelled number = true
    · refine ⟨.abandoned, .dropped response hcancelled, ?_⟩
      have hanswered : (s.removeJob job.ticket).answered job.request number response =
          (none, (s.removeJob job.ticket).finish job.request.id number) := by
        simp only [answered, isCancelled, finish, removeJob, InFlight.isCancelled,
          InFlight.finish_cancelled]
        exact if_pos hcancelled
      simp only [hanswered]
      rw [writeBack_of_open (s := (s.removeJob job.ticket).finish job.request.id number) hopen.held
        hopen.reader]
      exact ⟨rfl, rfl, rfl, rfl, rfl, rfl⟩
    · refine ⟨_, .answered response (by simpa using hcancelled), ?_⟩
      have hanswered : (s.removeJob job.ticket).answered job.request number response =
          (some response, ((s.removeJob job.ticket).finish job.request.id number).agree job.request
            response) := by
        simp only [answered, isCancelled, finish, removeJob, InFlight.isCancelled,
          InFlight.finish_cancelled]
        exact if_neg hcancelled
      simp only [hanswered]
      rw [writeBack_of_open (by rw [agree_transport]; exact hopen.held)
        (by rw [agree_transport]; exact hopen.reader)]
      exact over_agree
  · rename_i message hproceed
    rw [hproceed]
    refine .inr ⟨_, .crashed message, ?_⟩
    simp only [crashed]
    rw [writeBack_of_open (s := (s.removeJob job.ticket).finish job.request.id number) hopen.held
      hopen.reader]
    exact ⟨rfl, rfl, rfl, rfl, rfl, rfl⟩

end Session

end SessionRelay
