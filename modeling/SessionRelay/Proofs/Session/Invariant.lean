import Mathlib.Data.List.Nodup
import SessionRelay.Proofs.Session.Job

/-!
# What holds of the jobs of a session

Jobs have tickets of their own, begun jobs have numbers of their own, and the table of running
requests holds just the numbers of begun jobs, each under the id of its request, until the request
is cancelled (`JobsFit`). Every way in which jobs come, begin, go on and end keeps this. Run by run,
a job stays pending or leaves one item for the client (`runJob_spec`).
-/

namespace SessionRelay

/-- A begun job fits the table: its number is known or was cancelled, and whatever its work ends
with has the id of its request. -/
def Job.Fits (t : InFlight) (j : Job) : Prop := ∀ number work, j.stage = .begun number work →
  number < t.nextNumber ∧ (number ∈ t.numbers j.request.id ∨ number ∈ t.cancelled) ∧
    work.All fun r => r.id? = some j.request.id

/-- Jobs, the ticket of the next one and the table of running requests fit together. -/
structure JobsFit (jobs : List Job) (next : Nat) (t : InFlight) : Prop where
  tickets : (jobs.map Job.ticket).Nodup
  ticket_lt : ∀ j ∈ jobs, j.ticket < next
  fits : ∀ j ∈ jobs, j.Fits t
  number_inj : ∀ i ∈ jobs, ∀ j ∈ jobs, ∀ number v w,
    i.stage = .begun number v → j.stage = .begun number w → i.ticket = j.ticket
  noneEmpty : t.NoneEmpty
  running : ∀ id number, number ∈ t.numbers id →
    ∃ j ∈ jobs, j.request.id = id ∧ ∃ work, j.stage = .begun number work
  cancelled_lt : ∀ number ∈ t.cancelled, number < t.nextNumber

namespace JobsFit

variable {jobs : List Job} {next number : Nat} {t : InFlight} {job : Job}
  {old work : Activity Rpc.Response}

theorem empty (next : Nat) : JobsFit [] next {} where
  tickets := List.nodup_nil
  ticket_lt := by simp
  fits := by simp
  number_inj := by simp
  noneEmpty := by simp [InFlight.NoneEmpty]
  running := by simp [InFlight.numbers]
  cancelled_lt := by simp

theorem eq_of_ticket (h : JobsFit jobs next t) {i j : Job} (hi : i ∈ jobs) (hj : j ∈ jobs)
    (hticket : i.ticket = j.ticket) : i = j :=
  List.inj_on_of_nodup_map h.tickets hi hj hticket

/-- With no jobs left no request runs. -/
theorem running_eq_nil (h : JobsFit [] next t) : t.running = [] := by
  refine InFlight.running_eq_nil h.noneEmpty fun id => ?_
  refine List.eq_nil_iff_forall_not_mem.2 fun number hnumber => ?_
  obtain ⟨j, hj, -⟩ := h.running id number hnumber
  cases hj

theorem add (h : JobsFit jobs next t) (request : Rpc.Request) :
    JobsFit (jobs ++ [{ ticket := next, request }]) (next + 1) t where
  tickets := by
    rw [List.map_append, List.map_singleton]
    refine List.nodup_append.2 ⟨h.tickets, List.nodup_singleton _, ?_⟩
    rintro a ha b hb rfl
    obtain ⟨j, hj, rfl⟩ := List.mem_map.1 ha
    exact Nat.ne_of_lt (h.ticket_lt j hj) (List.mem_singleton.1 hb)
  ticket_lt := by
    intro j hj
    rcases List.mem_append.1 hj with hj | hj
    · exact Nat.lt_succ_of_lt (h.ticket_lt j hj)
    · rw [List.mem_singleton.1 hj]
      exact Nat.lt_succ_self _
  fits := by
    intro j hj
    rcases List.mem_append.1 hj with hj | hj
    · exact h.fits j hj
    · rw [List.mem_singleton.1 hj]
      exact fun _ _ hstage => by cases hstage
  number_inj := by
    intro i hi j hj number v w hv hw
    rcases List.mem_append.1 hi with hi | hi
    · rcases List.mem_append.1 hj with hj | hj
      · exact h.number_inj i hi j hj number v w hv hw
      · rw [List.mem_singleton.1 hj] at hw
        cases hw
    · rw [List.mem_singleton.1 hi] at hv
      cases hv
  noneEmpty := h.noneEmpty
  running := by
    intro id number hnumber
    obtain ⟨j, hj, hid⟩ := h.running id number hnumber
    exact ⟨j, List.mem_append_left _ hj, hid⟩
  cancelled_lt := h.cancelled_lt

/-- The jobs with a new stage for one of them. -/
def staged (jobs : List Job) (ticket : Nat) (stage : Stage) : List Job :=
  jobs.map fun j => if j.ticket == ticket then { j with stage } else j

theorem mem_staged (h : JobsFit jobs next t) (hjob : job ∈ jobs) {stage : Stage} {j : Job}
    (hj : j ∈ staged jobs job.ticket stage) :
    j = { job with stage } ∨ j ∈ jobs ∧ j.ticket ≠ job.ticket := by
  obtain ⟨i, hi, rfl⟩ := List.mem_map.1 hj
  split_ifs with hticket
  · rw [h.eq_of_ticket hi hjob (by simpa using hticket)]
    exact .inl rfl
  · exact .inr ⟨hi, by simpa using hticket⟩

theorem mem_staged_self (hjob : job ∈ jobs) (stage : Stage) :
    { job with stage } ∈ staged jobs job.ticket stage :=
  List.mem_map.2 ⟨job, hjob, by simp⟩

theorem mem_staged_ne {j : Job} (hj : j ∈ jobs) {ticket : Nat} (hne : j.ticket ≠ ticket)
    (stage : Stage) : j ∈ staged jobs ticket stage :=
  List.mem_map.2 ⟨j, hj, by simp [hne]⟩

theorem map_staged {β : Type} (f : Nat → Rpc.Request → β) (jobs : List Job) (ticket : Nat)
    (stage : Stage) : (staged jobs ticket stage).map (fun j => f j.ticket j.request) =
      jobs.map fun j => f j.ticket j.request := by
  rw [staged, List.map_map]
  refine List.map_congr_left fun j _ => ?_
  simp only [Function.comp_apply]
  split_ifs <;> rfl

theorem tickets_staged (jobs : List Job) (ticket : Nat) (stage : Stage) :
    (staged jobs ticket stage).map Job.ticket = jobs.map Job.ticket :=
  map_staged (fun ticket _ => ticket) jobs ticket stage

theorem ticket_lt_staged (h : JobsFit jobs next t) (hjob : job ∈ jobs) (stage : Stage) :
    ∀ j ∈ staged jobs job.ticket stage, j.ticket < next := by
  intro j hj
  rcases h.mem_staged hjob hj with rfl | ⟨hj, -⟩
  · exact h.ticket_lt job hjob
  · exact h.ticket_lt j hj

/-- A job begins under the next number. -/
theorem begin (h : JobsFit jobs next t) (hjob : job ∈ jobs) (hqueued : job.stage = .queued)
    (hwork : work.All fun r => r.id? = some job.request.id) :
    JobsFit (staged jobs job.ticket (.begun t.nextNumber work)) next
      (t.register job.request.id).2 where
  tickets := (tickets_staged jobs job.ticket _).symm ▸ h.tickets
  ticket_lt := h.ticket_lt_staged hjob _
  fits := by
    intro j hj number w hstage
    rcases h.mem_staged hjob hj with rfl | ⟨hj, hne⟩
    · cases hstage
      refine ⟨Nat.lt_succ_self _, .inl ?_, hwork⟩
      rw [InFlight.register_numbers, if_pos rfl]
      exact List.mem_append_right _ List.mem_cons_self
    · obtain ⟨hlt, hknown, hall⟩ := h.fits j hj number w hstage
      refine ⟨Nat.lt_succ_of_lt hlt, ?_, hall⟩
      rw [InFlight.register_numbers, InFlight.register_cancelled]
      split_ifs with hid
      · exact hknown.imp_left fun hmem => List.mem_append_left _ (hid ▸ hmem)
      · exact hknown
  number_inj := by
    intro i hi j hj number v w hv hw
    rcases h.mem_staged hjob hi with rfl | ⟨hi, -⟩ <;>
      rcases h.mem_staged hjob hj with rfl | ⟨hj, -⟩
    · rfl
    · cases hv
      exact absurd (h.fits j hj _ w hw).1 (Nat.lt_irrefl _)
    · cases hw
      exact absurd (h.fits i hi _ v hv).1 (Nat.lt_irrefl _)
    · exact h.number_inj i hi j hj number v w hv hw
  noneEmpty := InFlight.noneEmpty_setNumbers h.noneEmpty _ _
  running := by
    intro id number hnumber
    have hold : ∀ number ∈ t.numbers id, ∃ j ∈ staged jobs job.ticket (.begun t.nextNumber work),
        j.request.id = id ∧ ∃ w, j.stage = .begun number w := by
      intro number hnumber
      obtain ⟨j, hj, hid, w, hw⟩ := h.running id number hnumber
      refine ⟨j, mem_staged_ne hj (fun hticket => ?_) _, hid, w, hw⟩
      rw [h.eq_of_ticket hj hjob hticket, hqueued] at hw
      cases hw
    rw [InFlight.register_numbers] at hnumber
    split_ifs at hnumber with hid
    · subst hid
      rcases List.mem_append.1 hnumber with hnumber | hnumber
      · exact hold number hnumber
      · rw [List.mem_singleton.1 hnumber]
        exact ⟨_, mem_staged_self hjob _, rfl, work, rfl⟩
    · exact hold number hnumber
  cancelled_lt := by
    intro number hnumber
    rw [InFlight.register_cancelled] at hnumber
    exact Nat.lt_succ_of_lt (h.cancelled_lt number hnumber)

/-- A begun job goes on with other work. -/
theorem goOn (h : JobsFit jobs next t) (hjob : job ∈ jobs) (hbegun : job.stage = .begun number old)
    (hwork : work.All fun r => r.id? = some job.request.id) :
    JobsFit (staged jobs job.ticket (.begun number work)) next t where
  tickets := (tickets_staged jobs job.ticket _).symm ▸ h.tickets
  ticket_lt := h.ticket_lt_staged hjob _
  fits := by
    intro j hj n w hstage
    rcases h.mem_staged hjob hj with rfl | ⟨hj, -⟩
    · cases hstage
      obtain ⟨hlt, hknown, -⟩ := h.fits job hjob number old hbegun
      exact ⟨hlt, hknown, hwork⟩
    · exact h.fits j hj n w hstage
  number_inj := by
    intro i hi j hj n v w hv hw
    rcases h.mem_staged hjob hi with rfl | ⟨hi, -⟩ <;>
      rcases h.mem_staged hjob hj with rfl | ⟨hj, -⟩
    · rfl
    · cases hv
      exact h.number_inj job hjob j hj number old w hbegun hw
    · cases hw
      exact h.number_inj i hi job hjob number v old hv hbegun
    · exact h.number_inj i hi j hj n v w hv hw
  noneEmpty := h.noneEmpty
  running := by
    intro id n hn
    obtain ⟨j, hj, hid, w, hw⟩ := h.running id n hn
    by_cases hticket : j.ticket = job.ticket
    · obtain rfl := h.eq_of_ticket hj hjob hticket
      rw [hbegun] at hw
      cases hw
      exact ⟨_, mem_staged_self hjob _, hid, work, rfl⟩
    · exact ⟨j, mem_staged_ne hj hticket _, hid, w, hw⟩
  cancelled_lt := h.cancelled_lt

/-- A begun job ends. -/
theorem remove (h : JobsFit jobs next t) (hjob : job ∈ jobs)
    (hbegun : job.stage = .begun number work) :
    JobsFit (jobs.filter fun j => j.ticket != job.ticket) next
      (t.finish job.request.id number) where
  tickets := h.tickets.sublist (List.filter_sublist.map _)
  ticket_lt := fun j hj => h.ticket_lt j (List.mem_of_mem_filter hj)
  fits := by
    intro j hj n w hstage
    obtain ⟨hj, hne⟩ := List.mem_filter.1 hj
    obtain ⟨hlt, hknown, hall⟩ := h.fits j hj n w hstage
    rw [InFlight.finish_numbers, InFlight.finish_nextNumber, InFlight.finish_cancelled]
    refine ⟨hlt, hknown.imp_left fun hmem => ?_, hall⟩
    split_ifs with hid
    · refine List.mem_filter.2 ⟨hid ▸ hmem, ?_⟩
      simp only [bne_iff_ne]
      rintro rfl
      exact absurd (h.number_inj j hj job hjob n w work hstage hbegun) (by simpa using hne)
    · exact hmem
  number_inj := fun i hi j hj =>
    h.number_inj i (List.mem_of_mem_filter hi) j (List.mem_of_mem_filter hj)
  noneEmpty := InFlight.noneEmpty_setNumbers h.noneEmpty _ _
  running := by
    intro id n hn
    rw [InFlight.finish_numbers] at hn
    -- The number of the job itself is gone, and every other number belongs to another job.
    have hkept : n ∈ t.numbers id ∧ (id = job.request.id → n ≠ number) := by
      split_ifs at hn with hid
      · obtain ⟨hmem, hne⟩ := List.mem_filter.1 hn
        exact ⟨hid ▸ hmem, fun _ => by simpa using hne⟩
      · exact ⟨hn, fun h => absurd h hid⟩
    obtain ⟨j, hj, hid, w, hw⟩ := h.running id n hkept.1
    refine ⟨j, List.mem_filter.2 ⟨hj, ?_⟩, hid, w, hw⟩
    simp only [bne_iff_ne]
    intro hticket
    obtain rfl := h.eq_of_ticket hj hjob hticket
    rw [hbegun] at hw
    cases hw
    exact hkept.2 hid.symm rfl
  cancelled_lt := by
    intro n hn
    rw [InFlight.finish_cancelled] at hn
    rw [InFlight.finish_nextNumber]
    exact h.cancelled_lt n hn

/-- Requests are cancelled by their id. -/
theorem cancel (h : JobsFit jobs next t) (id : Rpc.Id) : JobsFit jobs next (t.cancel id).2 where
  tickets := h.tickets
  ticket_lt := h.ticket_lt
  fits := by
    intro j hj n w hstage
    obtain ⟨hlt, hknown, hall⟩ := h.fits j hj n w hstage
    rw [InFlight.cancel_numbers, InFlight.cancel_cancelled, InFlight.cancel_nextNumber]
    refine ⟨hlt, ?_, hall⟩
    split_ifs with hid
    · refine .inr (List.mem_append.2 ?_)
      exact hknown.symm.imp_right fun hmem => hid ▸ hmem
    · exact hknown.imp_right fun hmem => List.mem_append_left _ hmem
  number_inj := h.number_inj
  noneEmpty := InFlight.noneEmpty_cancel h.noneEmpty id
  running := by
    intro key n hn
    rw [InFlight.cancel_numbers] at hn
    split_ifs at hn
    · cases hn
    · exact h.running key n hn
  cancelled_lt := by
    intro n hn
    rw [InFlight.cancel_cancelled] at hn
    rw [InFlight.cancel_nextNumber]
    rcases List.mem_append.1 hn with hn | hn
    · exact h.cancelled_lt n hn
    · obtain ⟨j, hj, -, w, hw⟩ := h.running id n hn
      exact (h.fits j hj n w hw).1

end JobsFit

/-- Whether an item is what a request may come to: a response with its id or, only if the request
was cancelled, the note that there will be none. -/
def OutboundItem.Answers (request : Rpc.Request) (fired : Bool) (item : OutboundItem) : Prop :=
  (∃ m, item = .message m ∧ m.isResponse = true ∧ m.id? = some request.id) ∨
    item = .abandoned ∧ fired = true

namespace Session

variable {s s' : Session} {router : Router} {signals : List String} {ticket number : Nat}
  {job : Job}

def Inv (s : Session) : Prop := JobsFit s.jobs s.nextJob s.inFlight

theorem Inv.congr (h : s.Inv) (hjobs : s'.jobs = s.jobs) (hnext : s'.nextJob = s.nextJob)
    (hinFlight : s'.inFlight = s.inFlight) : s'.Inv := by
  unfold Inv
  rw [hjobs, hnext, hinFlight]
  exact h

/-- The requests that are still worked on, by ticket. -/
def pending (s : Session) : List (Nat × Rpc.Request) := s.jobs.map fun j => (j.ticket, j.request)

/-- Whether a job's request was cancelled; one that is still to be begun can only be cancelled with
its session. -/
def fired (s : Session) (ticket : Nat) : Bool :=
  match (s.job? ticket).map Job.stage with
  | some (.begun number _) => s.isCancelled number
  | _ => s.cancelled

/-- Every job is still to be begun or waits for an event. -/
def Waits (s : Session) : Prop :=
  ∀ j ∈ s.jobs, j.stage = .queued ∨ ∃ number event next, j.stage = .begun number (.await event next)

theorem job?_eq_some_iff (h : s.Inv) :
    s.job? ticket = some job ↔ job ∈ s.jobs ∧ job.ticket = ticket := by
  refine ⟨job?_eq_some, fun ⟨hjob, hticket⟩ => ?_⟩
  cases hfound : s.job? ticket with
  | none => exact absurd hticket (by simpa using List.find?_eq_none.1 hfound job hjob)
  | some j =>
    obtain ⟨hj, hj'⟩ := job?_eq_some hfound
    rw [h.eq_of_ticket hj hjob (hj'.trans hticket.symm)]

theorem mem_pending_iff {p : Nat × Rpc.Request} :
    p ∈ s.pending ↔ ∃ j ∈ s.jobs, j.ticket = p.1 ∧ j.request = p.2 := by
  simp [pending, Prod.ext_iff]

/-- The second session is a later state of the first: what was cancelled stays cancelled, and a job
is a new one or an old one that went on, under the same number once it has begun. -/
structure Onward (s s' : Session) : Prop where
  nextJob : s.nextJob ≤ s'.nextJob
  cancelled : s.inFlight.cancelled ⊆ s'.inFlight.cancelled
  jobs : ∀ j' ∈ s'.jobs, s.nextJob ≤ j'.ticket ∨
    ∃ j ∈ s.jobs, j.ticket = j'.ticket ∧ j.request = j'.request ∧
      ∀ number work, j.stage = .begun number work → ∃ work', j'.stage = .begun number work'

theorem Onward.of_jobs_subset (hnext : s.nextJob ≤ s'.nextJob)
    (hcancelled : s.inFlight.cancelled ⊆ s'.inFlight.cancelled) (hjobs : s'.jobs ⊆ s.jobs) :
    Onward s s' :=
  ⟨hnext, hcancelled, fun j hj => .inr ⟨j, hjobs hj, rfl, rfl, fun _ work h => ⟨work, h⟩⟩⟩

theorem Onward.refl (s : Session) : Onward s s :=
  .of_jobs_subset (Nat.le_refl _) (List.Subset.refl _) (List.Subset.refl _)

theorem Onward.trans {s'' : Session} (h : Onward s s') (h' : Onward s' s'') : Onward s s'' where
  nextJob := Nat.le_trans h.nextJob h'.nextJob
  cancelled := List.Subset.trans h.cancelled h'.cancelled
  jobs := by
    intro j'' hj''
    rcases h'.jobs j'' hj'' with hnew | ⟨j', hj', hticket', hrequest', hstage'⟩
    · exact .inl (Nat.le_trans h.nextJob hnew)
    · rcases h.jobs j' hj' with hnew | ⟨j, hj, hticket, hrequest, hstage⟩
      · exact .inl (hticket' ▸ hnew)
      · refine .inr ⟨j, hj, hticket.trans hticket', hrequest.trans hrequest', fun n w hw => ?_⟩
        obtain ⟨w', hw'⟩ := hstage n w hw
        exact hstage' n w' hw'

theorem Onward.of_staged (h : s.Inv) (hjob : job ∈ s.jobs) {stage : Stage}
    (hstage : ∀ number work, job.stage = .begun number work → ∃ work', stage = .begun number work')
    (hnext : s.nextJob ≤ s'.nextJob) (hcancelled : s.inFlight.cancelled ⊆ s'.inFlight.cancelled)
    (hjobs : s'.jobs = JobsFit.staged s.jobs job.ticket stage) : Onward s s' where
  nextJob := hnext
  cancelled := hcancelled
  jobs := by
    intro j hj
    rw [hjobs] at hj
    rcases h.mem_staged hjob hj with rfl | ⟨hj, -⟩
    · exact .inr ⟨job, hjob, rfl, rfl, hstage⟩
    · exact .inr ⟨j, hj, rfl, rfl, fun _ work hw => ⟨work, hw⟩⟩

theorem pending_staged (s : Session) (ticket : Nat) (stage : Stage) :
    (JobsFit.staged s.jobs ticket stage).map (fun j => (j.ticket, j.request)) = s.pending :=
  JobsFit.map_staged Prod.mk s.jobs ticket stage

/-- What everything that a session does keeps. -/
structure Kept (s s' : Session) : Prop where
  inv : s'.Inv
  onward : s.Onward s'
  waits : s.Waits → s'.Waits
  cancelled : s'.cancelled = s.cancelled

theorem Kept.of_jobs (h : s.Inv) (hjobs : s'.jobs = s.jobs) (hnext : s'.nextJob = s.nextJob)
    (hinFlight : s'.inFlight = s.inFlight) (hcancelled : s'.cancelled = s.cancelled) :
    Kept s s' where
  inv := h.congr hjobs hnext hinFlight
  onward := .of_jobs_subset (Nat.le_of_eq hnext.symm) (hinFlight ▸ List.Subset.refl _)
    (hjobs ▸ List.Subset.refl _)
  waits := fun hwaits j hj => hwaits j (hjobs ▸ hj)
  cancelled := hcancelled

theorem Kept.trans {s'' : Session} (h : Kept s s') (h' : Kept s' s'') : Kept s s'' where
  inv := h'.inv
  onward := h.onward.trans h'.onward
  waits := fun hwaits => h'.waits (h.waits hwaits)
  cancelled := h'.cancelled.trans h.cancelled

/-! ## Runs of jobs -/

/-- The second session is the first with a job of it begun, if it was not begun before. -/
structure Starts (s : Session) (job : Job) (number : Nat) (work : Activity Rpc.Response)
    (s₁ : Session) : Prop where
  inv : s₁.Inv
  found : s₁.job? job.ticket = some { job with stage := .begun number work }
  onward : s.Onward s₁
  fired : s₁.isCancelled number = s.fired job.ticket
  pending : s₁.pending = s.pending
  others : ∀ j ∈ s₁.jobs, j.ticket ≠ job.ticket → j ∈ s.jobs
  transport : s₁.transport = s.transport
  nextJob : s₁.nextJob = s.nextJob
  cancelled : s₁.cancelled = s.cancelled

/-- A request that begins is cancelled only with its session. -/
theorem isCancelled_register (h : s.Inv) (id : Rpc.Id) :
    (s.register id).2.isCancelled (s.register id).1 = s.cancelled := by
  have hsame : (s.register id).2.inFlight.cancelled = s.inFlight.cancelled :=
    InFlight.register_cancelled s.inFlight id
  have hnew : (s.register id).2.inFlight.isCancelled (s.register id).1 = false := by
    rw [InFlight.isCancelled, hsame, List.contains_eq_mem, decide_eq_false_iff_not]
    exact fun hc => Nat.lt_irrefl _ (h.cancelled_lt _ hc)
  rw [isCancelled, hnew, Bool.or_false]
  rfl

theorem cancelled_begin (s : Session) (router : Router) (job : Job) :
    (s.begin router job).inFlight.cancelled = s.inFlight.cancelled :=
  InFlight.register_cancelled _ _

theorem starts_begin (h : s.Inv) (hjob : s.job? job.ticket = some job)
    (hstage : job.stage = .queued) (router : Router) :
    s.Starts job s.inFlight.nextNumber (router.respond s.clientId
      ((s.register job.request.id).2.isCancelled s.inFlight.nextNumber) job.request)
      (s.begin router job) where
  inv := JobsFit.begin h (job?_eq_some hjob).1 hstage (router.respond_all _ _ _)
  found := job?_setStage (s := (s.register job.request.id).2) hjob _
  onward := by
    refine .of_staged h (job?_eq_some hjob).1 (fun n w hw => ?_) (Nat.le_refl _) ?_ rfl
    · rw [hstage] at hw
      cases hw
    · exact cancelled_begin s router job ▸ List.Subset.refl _
  fired := by
    rw [Session.fired, hjob, Option.map_some, hstage]
    exact isCancelled_register h job.request.id
  pending := pending_staged s _ _
  others := fun j hj hne =>
    ((h.mem_staged (job?_eq_some hjob).1 hj).resolve_left fun heq => hne (heq ▸ rfl)).1
  transport := rfl
  nextJob := rfl
  cancelled := rfl

/-- A job that is run has begun or begins first; with the job begun, the run does the same. -/
theorem exists_starts (h : s.Inv) (hjob : s.job? job.ticket = some job) (router : Router)
    (signals : List String) : ∃ number work s₁, s.Starts job number work s₁ ∧
      s.runJob router signals job.ticket = s₁.runJob router signals job.ticket := by
  cases hstage : job.stage with
  | queued => exact ⟨_, _, _, starts_begin h hjob hstage router, runJob_queued hjob hstage⟩
  | begun number work =>
    refine ⟨number, work, s, ⟨h, ?_, .refl s, ?_, rfl, fun j hj _ => hj, rfl, rfl, rfl⟩, rfl⟩
    · rw [hjob, ← hstage]
    · rw [fired, hjob, Option.map_some, hstage]

namespace Starts

variable {work : Activity Rpc.Response} {s₁ : Session}

theorem mem (hstart : s.Starts job number work s₁) :
    { job with stage := .begun number work } ∈ s₁.jobs :=
  (job?_eq_some hstart.found).1

theorem isOpen (hstart : s.Starts job number work s₁) (hopen : s.Open) : s₁.Open where
  going := hstart.cancelled.trans hopen.going
  held := hstart.transport ▸ hopen.held
  reader := hstart.transport ▸ hopen.reader

theorem all (hstart : s.Starts job number work s₁) :
    work.All fun r => r.id? = some job.request.id :=
  (hstart.inv.fits _ hstart.mem number work rfl).2.2

/-- The job waits for an event. -/
theorem kept_of_await (hstart : s.Starts job number work s₁) (event : Event)
    {next : Activity Rpc.Response} (hnext : next.All fun r => r.id? = some job.request.id) :
    Kept s (s₁.setStage job.ticket (.begun number (.await event next))) where
  inv := by
    have hall : (Activity.await event next).All fun r => r.id? = some job.request.id := hnext
    have hfit := hstart.inv.goOn hstart.mem rfl hall
    exact hfit
  onward := by
    refine hstart.onward.trans (.of_staged hstart.inv hstart.mem (fun n w hw => ?_)
      (Nat.le_refl _) (List.Subset.refl _) rfl)
    cases hw
    exact ⟨_, rfl⟩
  waits := fun hwaits j hj => by
    rcases hstart.inv.mem_staged hstart.mem hj with rfl | ⟨hj, hne⟩
    · exact .inr ⟨number, event, next, rfl⟩
    · exact hwaits j (hstart.others j hj hne)
  cancelled := hstart.cancelled

/-- The job is over. -/
theorem kept_of_over (hstart : s.Starts job number work s₁) {item : OutboundItem}
    (hover : s₁.Over { job with stage := .begun number work } number item s') : Kept s s' := by
  have hremaining : ∀ j ∈ s'.jobs, j ∈ s₁.jobs ∧ j.ticket ≠ job.ticket := fun j hj => by
    rw [hover.jobs] at hj
    simpa using List.mem_filter.1 hj
  refine ⟨?_, ?_, fun hwaits j hj => ?_, hover.cancelled.trans hstart.cancelled⟩
  · unfold Inv
    rw [hover.jobs, hover.nextJob, hover.inFlight]
    exact hstart.inv.remove hstart.mem rfl
  · refine hstart.onward.trans (.of_jobs_subset (Nat.le_of_eq hover.nextJob.symm) ?_ fun j hj =>
      (hremaining j hj).1)
    rw [hover.inFlight, InFlight.finish_cancelled]
    exact List.Subset.refl _
  · obtain ⟨hj, hne⟩ := hremaining j hj
    exact hwaits j (hstart.others j hj hne)

end Starts

theorem Leaves.answers {request : Rpc.Request} {cancelled : Bool} {work : Activity Rpc.Response}
    {item : OutboundItem} (h : Leaves request.id cancelled work item)
    (hwork : work.All fun r => r.id? = some request.id) : item.Answers request cancelled := by
  cases h with
  | answered r _ =>
    exact .inl ⟨_, rfl, r.isResponse_toMessage, r.id?_toMessage.trans hwork⟩
  | dropped r h => exact .inr ⟨rfl, h⟩
  | crashed message => exact .inl ⟨_, rfl, rfl, rfl⟩

/-- A run of a job: it stays pending, or it is over and has left the one item that answers its
request. -/
theorem runJob_spec (h : s.Inv) (hopen : s.Open) (router : Router) (signals : List String)
    (ticket : Nat) : Kept s (s.runJob router signals ticket) ∧
      (s.runJob router signals ticket).nextJob = s.nextJob ∧
      ((s.runJob router signals ticket).pending = s.pending ∧
          (s.runJob router signals ticket).transport = s.transport ∨
        ∃ job item, s.job? ticket = some job ∧ item.Answers job.request (s.fired ticket) ∧
          (s.runJob router signals ticket).pending = s.pending.filter (·.1 != ticket) ∧
          (s.runJob router signals ticket).transport = (s.put item).transport) := by
  cases hjob : s.job? ticket with
  | none =>
    have hrun : s.runJob router signals ticket = s := by simp only [runJob, hjob]
    rw [hrun]
    exact ⟨.of_jobs h rfl rfl rfl rfl, rfl, .inl ⟨rfl, rfl⟩⟩
  | some job =>
    obtain ⟨-, rfl⟩ := job?_eq_some hjob
    obtain ⟨number, work, s₁, hstart, hrun⟩ := exists_starts h hjob router signals
    have hproceed := Activity.all_proceed (s₁.happened signals number) _ hstart.all
    rw [hrun, runJob_begun hstart.found rfl]
    rcases goOn_cases (hstart.isOpen hopen) signals { job with stage := .begun number work } number
      work with ⟨event, next, hawait, hgo⟩ | ⟨item, hleaves, hover⟩
    · rw [hawait] at hproceed
      rw [hgo]
      exact ⟨hstart.kept_of_await event hproceed, hstart.nextJob,
        .inl ⟨(pending_staged s₁ _ _).trans hstart.pending, hstart.transport⟩⟩
    · refine ⟨hstart.kept_of_over hover, hover.nextJob.trans hstart.nextJob,
        .inr ⟨job, item, rfl, ?_, ?_, ?_⟩⟩
      · rw [← hstart.fired]
        exact hleaves.answers hproceed
      · rw [← hstart.pending, pending, hover.jobs, pending, List.filter_map]
        rfl
      · rw [hover.transport, put, put, hstart.transport]

/-! ## Messages -/

theorem notice_spec (h : s.Inv) (notification : Rpc.Notification) :
    Kept s (s.notice notification) ∧ (s.notice notification).jobs = s.jobs ∧
      (s.notice notification).nextJob = s.nextJob ∧
      (s.notice notification).transport = s.transport := by
  unfold notice
  split
  · exact ⟨.of_jobs h rfl rfl rfl rfl, rfl, rfl, rfl⟩
  · rename_i params _
    refine ⟨⟨JobsFit.cancel h params.requestId, ?_, id, rfl⟩, rfl, rfl, rfl⟩
    have hcancelled := InFlight.cancel_cancelled s.inFlight params.requestId
    refine .of_jobs_subset (Nat.le_refl _) (fun n hn => ?_) (List.Subset.refl _)
    exact hcancelled ▸ List.mem_append_left _ hn
  · exact ⟨.of_jobs h rfl rfl rfl rfl, rfl, rfl, rfl⟩
  · exact ⟨.of_jobs h rfl rfl rfl rfl, rfl, rfl, rfl⟩

theorem kept_addJob (h : s.Inv) (request : Rpc.Request) : Kept s (s.addJob request) where
  inv := JobsFit.add h request
  onward := by
    refine ⟨Nat.le_succ _, List.Subset.refl _, fun j hj => ?_⟩
    rcases List.mem_append.1 hj with hj | hj
    · exact .inr ⟨j, hj, rfl, rfl, fun _ work hw => ⟨work, hw⟩⟩
    · rw [List.mem_singleton.1 hj]
      exact .inl (Nat.le_refl _)
  waits := by
    intro hwaits j hj
    rcases List.mem_append.1 hj with hj | hj
    · exact hwaits j hj
    · rw [List.mem_singleton.1 hj]
      exact .inl rfl
  cancelled := rfl

theorem pending_addJob (s : Session) (request : Rpc.Request) :
    (s.addJob request).pending = s.pending ++ [(s.nextJob, request)] := by
  simp [pending, Session.addJob]

theorem pending_lt (h : s.Inv) {p : Nat × Rpc.Request} (hp : p ∈ s.pending) :
    p.1 < s.nextJob := by
  obtain ⟨j, hj, rfl⟩ := List.mem_map.1 hp
  exact h.ticket_lt j hj

/-- A request becomes a job or, if it asks for a handshake, may be answered on the spot. -/
theorem handle_request_spec (h : s.Inv) (hopen : s.Open) (router : Router) (signals : List String)
    (r : Rpc.Request) : Kept s (s.handle router signals (.request r)) ∧
      (s.handle router signals (.request r)).nextJob = s.nextJob + 1 ∧
      ((s.handle router signals (.request r)).pending = s.pending ++ [(s.nextJob, r)] ∧
          (s.handle router signals (.request r)).transport = s.transport ∨
        ∃ item, OutboundItem.Answers r s.cancelled item ∧
          (s.handle router signals (.request r)).pending = s.pending ∧
          (s.handle router signals (.request r)).transport = (s.put item).transport) := by
  have hadd := kept_addJob h r
  have hopen' : (s.addJob r).Open := ⟨hopen.going, hopen.held, hopen.reader⟩
  unfold handle
  simp only
  split_ifs
  · obtain ⟨hkept, hnext, hcase⟩ := runJob_spec hadd.inv hopen' router signals s.nextJob
    refine ⟨hadd.trans hkept, hnext, ?_⟩
    rcases hcase with ⟨hpending, htransport⟩ | ⟨job, item, hjob, hanswers, hpending, htransport⟩
    · exact .inl ⟨hpending.trans (pending_addJob s r), htransport⟩
    · have hnew : (s.addJob r).job? s.nextJob = some { ticket := s.nextJob, request := r } :=
        (job?_eq_some_iff hadd.inv).2 ⟨List.mem_append_right _ List.mem_cons_self, rfl⟩
      have hfired : (s.addJob r).fired s.nextJob = s.cancelled := by
        rw [fired, hnew, Option.map_some]
        rfl
      rw [hnew] at hjob
      cases hjob
      refine .inr ⟨item, hfired ▸ hanswers, ?_, htransport⟩
      -- The request is pending no longer, and the tickets before its own are others.
      rw [hpending, pending_addJob, List.filter_append, List.filter_eq_self.2 fun p hp => ?_]
      · simp
      · simpa using Nat.ne_of_lt (pending_lt h hp)
  · exact ⟨hadd, rfl, .inl ⟨pending_addJob s r, rfl⟩⟩

/-- Any other message starts no job and leaves nothing for the client. -/
theorem handle_other_spec (h : s.Inv) (router : Router) (signals : List String) {m : Rpc.Message}
    (hm : m.isRequest = false) :
    Kept s (s.handle router signals m) ∧ (s.handle router signals m).jobs = s.jobs ∧
      (s.handle router signals m).nextJob = s.nextJob ∧
      (s.handle router signals m).transport = s.transport := by
  cases m with
  | request r => cases hm
  | notification n => exact notice_spec h n
  | success r => exact ⟨.of_jobs h rfl rfl rfl rfl, rfl, rfl, rfl⟩
  | failure r => exact ⟨.of_jobs h rfl rfl rfl rfl, rfl, rfl, rfl⟩

end Session

end SessionRelay
