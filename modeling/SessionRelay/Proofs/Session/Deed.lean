import SessionRelay.Proofs.Session.Cancellation

/-!
# What is done to a session

What a session becomes depends on what is done to it and on what the work on its requests comes to,
each time it is gone on with; not on what that work still has to do, and not on the router that the
work is drawn from (`outline_course`).
-/

namespace SessionRelay

/-- What the work on a request has come to. -/
inductive Outcome
  | waits
  | returns (response : Rpc.Response)
  | crashes (message : Option String)

def Activity.outcome : Activity Rpc.Response → Outcome
  | .done response => .returns response
  | .crash message => .crashes message
  | .await _ _ => .waits

/-! ## Sessions without their work -/

/-- A stage without the work that is left to do. -/
def Stage.outline : Stage → Stage
  | .queued => .queued
  | .begun number _ => .begun number (.crash none)

def Job.outline (j : Job) : Job := { j with stage := j.stage.outline }

namespace Session

variable {s s' : Session} {router : Router} {signals : List String} {ticket number : Nat}
  {job : Job}

/-- The session without the work that is left to do on its requests. -/
def outline (s : Session) : Session := { s with jobs := s.jobs.map Job.outline }

/-- The session when the work on one of its jobs has come to something. -/
def conclude (s : Session) (job : Job) (number : Nat) : Outcome → Session
  | .waits => s.setStage job.ticket (.begun number (.crash none))
  | .returns response =>
    let (answer, s) := (s.removeJob job.ticket).answered job.request number response
    s.writeBack answer
  | .crashes message =>
    let (answer, s) := (s.removeJob job.ticket).crashed job.request number message
    s.writeBack answer

/-- The session when a job of it is run and the work on it comes to something. -/
def runTo (s : Session) (ticket : Nat) (outcome : Outcome) : Session :=
  match s.job? ticket with
  | none => s
  | some job =>
    match job.stage with
    | .queued =>
      let (number, s) := s.register job.request.id
      s.conclude job number outcome
    | .begun number _ => s.conclude job number outcome

theorem outline_setStage (s : Session) (ticket : Nat) (stage : Stage) :
    (s.setStage ticket stage).outline = s.outline.setStage ticket stage.outline := by
  simp only [outline, setStage, List.map_map]
  congr 1
  refine List.map_congr_left fun j _ => ?_
  by_cases h : j.ticket = ticket <;> simp [h, Job.outline]

theorem outline_removeJob (s : Session) (ticket : Nat) :
    (s.removeJob ticket).outline = s.outline.removeJob ticket := by
  simp only [outline, removeJob, List.filter_map]
  rfl

theorem job?_outline (s : Session) (ticket : Nat) :
    s.outline.job? ticket = (s.job? ticket).map Job.outline := by
  simp only [job?, outline, List.find?_map]
  rfl

theorem outline_push (s : Session) (item : OutboundItem) :
    (((s.transport.push item).map fun transport => { s with transport }).toOption.getD s).outline =
      ((s.outline.transport.push item).map fun transport =>
        { s.outline with transport }).toOption.getD s.outline := by
  simp only [outline]
  cases s.transport.push item <;> rfl

theorem outline_writeBack (s : Session) : ∀ response : Option Rpc.Response,
    (s.writeBack response).outline = s.outline.writeBack response
  | none => s.outline_push .abandoned
  | some r => s.outline_push (.message r.toMessage)

theorem outline_agree (s : Session) (request : Rpc.Request) (response : Rpc.Response) :
    (s.agree request response).outline = s.outline.agree request response := by
  cases response with
  | success r =>
    unfold agree
    split_ifs <;> rfl
  | failure r => rfl

theorem outline_answered (s : Session) (request : Rpc.Request) (number : Nat)
    (response : Rpc.Response) :
    (s.outline.answered request number response) =
      ((s.answered request number response).1, (s.answered request number response).2.outline) := by
  have hsame : (s.outline.finish request.id number).isCancelled number =
      (s.finish request.id number).isCancelled number := rfl
  simp only [answered, hsame]
  split_ifs
  · rfl
  · rw [outline_agree]
    rfl

/-- What work does to the session depends on what it comes to. -/
theorem outline_goOn (s : Session) (signals : List String) (job : Job) (number : Nat)
    (work : Activity Rpc.Response) : (s.goOn signals job number work).outline =
      s.outline.conclude job.outline number (work.proceed (s.happened signals number)).outcome := by
  unfold goOn
  cases work.proceed (s.happened signals number) with
  | await event next => exact outline_setStage s job.ticket _
  | done response =>
    simp only [Activity.outcome, conclude, Job.outline]
    rw [← outline_removeJob, outline_answered, outline_writeBack]
  | crash message =>
    simp only [Activity.outcome, conclude, Job.outline]
    rw [← outline_removeJob, outline_writeBack]
    rfl

theorem outline_runJob (s : Session) (router : Router) (signals : List String) (ticket : Nat) :
    (s.runJob router signals ticket).outline =
      ((s.cameTo? router signals ticket).map fun work =>
        s.outline.runTo ticket work.outcome).getD s.outline := by
  unfold runJob cameTo? runTo
  rw [job?_outline]
  cases s.job? ticket with
  | none => rfl
  | some job =>
    obtain ⟨ticket, request, stage⟩ := job
    cases stage with
    | queued => exact outline_goOn _ signals _ _ _
    | begun number work => exact outline_goOn s signals _ number work

/-! ## Deeds -/

/-- What is done to a session, by itself or by anybody else. -/
inductive Doing
  | move (move : Move)
  /-- It takes no more messages if it was told to stop. -/
  | stopPump
  | dropStream
  | cancel
  /-- It is marked as closed. -/
  | mark
  | dispose
  | shut
  /-- Its watcher looks whether it has to end. -/
  | watch

/-- The session after something is done to it. -/
def after (router : Router) (s : Session) : Doing → Session
  | .move move => s.apply router move
  | .stopPump => if s.cancelled then s.stopPump else s
  | .dropStream => s.dropStream
  | .cancel => { s with cancelled := true }
  | .mark => { s with closed := true }
  | .dispose => { s with transport := s.transport.dispose }
  | .shut => s.shutDown
  | .watch => if s.isDue then s.shutDown else s

/-- What is done to a session, with what the work that is gone on with comes to. -/
inductive Deed
  /-- It takes a message; if that is answered on the spot, the work comes to this. -/
  | take (outcome : Option Outcome)
  /-- It goes on with a job, if there is one with this ticket. -/
  | work (ticket : Nat) (outcome : Option Outcome)
  /-- Anything that goes on with no work. -/
  | other (doing : Doing)

/-- What the work comes to that a session does on the spot when it takes a message. -/
def answerOutcome (router : Router) (signals : List String) (s : Session) : Option Outcome :=
  match s.take? with
  | some (.request r, s) =>
    if r.method = Mcp.handshakeMethod then
      ((s.addJob r).cameTo? router signals s.nextJob).map Activity.outcome
    else none
  | _ => none

def Doing.deed (router : Router) (s : Session) : Doing → Deed
  | .move (.pump signals) => .take (s.answerOutcome router signals)
  | .move (.work ticket signals) =>
    .work ticket ((s.cameTo? router signals ticket).map Activity.outcome)
  | doing => .other doing

/-- What becomes of a session by a deed. What work comes to is given, so no router is asked. -/
def undergo (s : Session) : Deed → Session
  | .take outcome =>
    match s.take? with
    | none => s
    | some (.request r, s) =>
      if r.method = Mcp.handshakeMethod then
        (outcome.map ((s.addJob r).runTo s.nextJob)).getD (s.addJob r)
      else s.addJob r
    | some (.notification n, s) => s.notice n
    | some (_, s) => s
  | .work ticket outcome => (outcome.map (s.runTo ticket)).getD s
  | .other doing => s.after {} doing

theorem take?_outline (s : Session) :
    s.outline.take? = s.take?.map fun (m, s) => (m, s.outline) := by
  unfold take?
  by_cases h : s.pumping
  · rw [if_pos h, if_pos (by exact h)]
    simp only [outline, Option.map_map]
    rfl
  · rw [if_neg h, if_neg (by exact h)]
    rfl

theorem outline_addJob (s : Session) (r : Rpc.Request) :
    (s.addJob r).outline = s.outline.addJob r := by
  simp [outline, addJob, Job.outline, Stage.outline]

theorem outline_notice (s : Session) (n : Rpc.Notification) :
    (s.notice n).outline = s.outline.notice n := by
  unfold notice
  split <;> rfl

theorem outline_shutDown (s : Session) : s.shutDown.outline = s.outline.shutDown :=
  apply_ite outline _ _ _

theorem outline_pump (s : Session) (router : Router) (signals : List String) :
    (s.pump router signals).outline =
      s.outline.undergo (.take (s.answerOutcome router signals)) := by
  simp only [pump, undergo, take?_outline, answerOutcome]
  cases s.take? with
  | none => rfl
  | some taken =>
    obtain ⟨m, s⟩ := taken
    cases m with
    | request r =>
      simp only [handle, Option.map_some]
      split_ifs
      · rw [outline_runJob, outline_addJob, Option.map_map]
        rfl
      · exact outline_addJob s r
    | notification n => exact outline_notice s n
    | success _ => rfl
    | failure _ => rfl

/-- What becomes of a session by a deed does not depend on the work that is left to do. -/
theorem outline_after (s : Session) (router : Router) (doing : Doing) :
    (s.after router doing).outline = s.outline.undergo (doing.deed router s) := by
  cases doing with
  | move move =>
    cases move with
    | pump signals => exact outline_pump s router signals
    | work ticket signals =>
      simp only [after, apply, outline_runJob, Doing.deed, undergo, Option.map_map]
      rfl
    | offer m => rfl
    | enter ticket => rfl
    | leave ticket => rfl
    | openStream =>
      simp only [after, apply, Doing.deed, undergo, events, outline]
      cases s.transport.events <;> rfl
    | read => rfl
    | reject id error => exact s.outline_push _
  | stopPump => exact apply_ite outline _ _ _
  | dropStream => rfl
  | cancel => rfl
  | mark => rfl
  | dispose => rfl
  | shut => exact outline_shutDown s
  | watch =>
    refine (apply_ite outline _ _ _).trans ?_
    rw [outline_shutDown]
    rfl

/-- What the client reads by a deed, if it does. -/
def Deed.reading? (s : Session) : Deed → Option Reading
  | .other (.move .read) => some s.next.1
  | _ => none

/-- The deeds, one after the other, that some doings are for a session. -/
def course (router : Router) : Session → List Doing → List Deed
  | _, [] => []
  | s, doing :: rest => doing.deed router s :: course router (s.after router doing) rest

/-- What the client reads by some deeds. -/
def readings : Session → List Deed → List Reading
  | _, [] => []
  | s, deed :: rest => (deed.reading? s).toList ++ readings (s.undergo deed) rest

theorem outline_course (router : Router) : ∀ (doings : List Doing) (s : Session),
    (doings.foldl (after router) s).outline = (s.course router doings).foldl undergo s.outline
  | [], _ => rfl
  | doing :: rest, s => by
    rw [List.foldl_cons, outline_course router rest, outline_after]
    rfl

theorem readings_append (s : Session) (deeds more : List Deed) :
    s.readings (deeds ++ more) = s.readings deeds ++ (deeds.foldl undergo s).readings more := by
  induction deeds generalizing s with
  | nil => rfl
  | cons deed rest ih =>
    rw [List.cons_append, readings, ih, readings, List.append_assoc]
    rfl

end Session

end SessionRelay
