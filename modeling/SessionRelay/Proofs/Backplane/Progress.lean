import SessionRelay.Proofs.Backplane.Relaying

/-!
# Polls one call at a time

Between two steps of a poll anything may happen to the queues. A delivery matters to a poll only by
its outcome, so a step is taken here with an outcome in place of the receiver (`go`); whatever the
receiver is, a step is one of these (`step_eq_go`).
-/

namespace SessionRelay.Backplane

/-- The entry that a task is about. -/
def Task.entry : Task → Queue.Lease
  | .read entry | .handOver entry _ | .prepare entry _ | .move entry _ | .delete entry => entry

section

variable {σ δ : Type} (service : Queue.Service σ) (b : Backplane) (outcome : Except Fault Unit)
  (rest : List Task) (s : σ)

/-- The next step of a poll. If it is a delivery, it comes out as told. -/
def go (tasks : List Task) : List Task × σ :=
  let (tasks, s, _) := b.step service (fun _ (u : Unit) => (outcome, u)) tasks s ()
  (tasks, s)

@[simp] theorem go_nil : b.go service outcome s [] = ([], s) := rfl

@[simp] theorem go_read (entry : Queue.Lease) :
    b.go service outcome s (.read entry :: rest) = (b.classify entry ++ rest, s) := rfl

@[simp] theorem go_handOver_ok (entry : Queue.Lease) (e : Envelope) (u : Unit) :
    b.go service (.ok u) s (.handOver entry e :: rest) = (.delete entry :: rest, s) := rfl

@[simp] theorem go_handOver_error (entry : Queue.Lease) (e : Envelope) (fault : Fault) :
    b.go service (.error fault) s (.handOver entry e :: rest) = (rest, s) := rfl

@[simp] theorem go_delete (entry : Queue.Lease) :
    b.go service outcome s (.delete entry :: rest) =
      (rest, (service.delete b.queue entry.id entry.receipt s).2) := rfl

theorem go_prepare (entry : Queue.Lease) (queue : String) :
    b.go service outcome s (.prepare entry queue :: rest) =
      match service.create queue s with
      | (.ok (), s) => (.move entry queue :: rest, s)
      | (.error _, s) => (rest, s) := by
  rcases hcreate : service.create queue s with ⟨e | u, s'⟩ <;>
    simp [go, step, perform, hcreate]

theorem go_move (entry : Queue.Lease) (queue : String) :
    b.go service outcome s (.move entry queue :: rest) =
      match service.send queue entry.body s with
      | (.ok (), s) => (.delete entry :: rest, s)
      | (.error _, s) => (rest, s) := by
  rcases hsend : service.send queue entry.body s with ⟨e | u, s'⟩ <;>
    simp [go, step, perform, hsend]

/-- What the next step delivers. -/
def offered : List Task → List (Queue.Lease × Envelope)
  | .handOver entry e :: _ => [(entry, e)]
  | _ => []

/-- Whoever receives, a step of a poll is one with the outcome of the delivery. -/
theorem step_eq_go (delivery : Delivery δ) (tasks : List Task) (d : δ) :
    ∃ outcome, b.go service outcome s tasks =
        ((b.step service delivery tasks s d).1, (b.step service delivery tasks s d).2.1) ∧
      ∀ entry e rest, tasks = .handOver entry e :: rest → outcome = (delivery e d).1 := by
  rcases tasks with _ | ⟨task, rest⟩
  · exact ⟨.ok (), rfl, by rintro _ _ _ ⟨⟩⟩
  cases task with
  | handOver entry e =>
    refine ⟨(delivery e d).1, ?_, fun _ _ _ h => by cases h; rfl⟩
    rcases hdelivery : delivery e d with ⟨fault | u, d'⟩ <;> simp [step, perform, hdelivery]
  | read entry => exact ⟨.ok (), rfl, by rintro _ _ _ ⟨⟩⟩
  | prepare entry queue =>
    refine ⟨.ok (), ?_, by rintro _ _ _ ⟨⟩⟩
    rw [go_prepare]
    rcases hcreate : service.create queue s with ⟨e | u, s'⟩ <;> simp [step, perform, hcreate]
  | move entry queue =>
    refine ⟨.ok (), ?_, by rintro _ _ _ ⟨⟩⟩
    rw [go_move]
    rcases hsend : service.send queue entry.body s with ⟨e | u, s'⟩ <;> simp [step, perform, hsend]
  | delete entry => exact ⟨.ok (), rfl, by rintro _ _ _ ⟨⟩⟩

/-- What every step of a poll keeps, from the tasks, the queues and the receiver. -/
theorem steps_keep (delivery : Delivery δ) {P : List Task → σ → δ → Prop}
    (hstep : ∀ tasks s d, P tasks s d → P (b.step service delivery tasks s d).1
      (b.step service delivery tasks s d).2.1 (b.step service delivery tasks s d).2.2) :
    ∀ (count : Nat) (tasks : List Task) (s : σ) (d : δ), cost tasks ≤ count → P tasks s d →
      P [] (b.steps service delivery count tasks s d).1
        (b.steps service delivery count tasks s d).2
  | 0, tasks, s, d, hcost, h => by
    rw [eq_nil_of_cost hcost] at h ⊢
    exact h
  | count + 1, [], s, d, _, h => by
    rw [steps_nil]
    exact h
  | count + 1, task :: rest, s, d, hcost, h =>
    steps_keep delivery hstep count _ _ _ (cost_step service delivery hcost) (hstep _ s d h)

/-- It holds after a whole poll if it holds once the entries are taken. -/
theorem poll_keep (delivery : Delivery δ) {P : List Task → σ → δ → Prop}
    (hstep : ∀ tasks s d, P tasks s d → P (b.step service delivery tasks s d).1
      (b.step service delivery tasks s d).2.1 (b.step service delivery tasks s d).2.2) (d : δ)
    (hok : ∀ entries s', b.receive service s = (.ok entries, s') → P (entries.map .read) s' d)
    (herror : ∀ e s', b.receive service s = (.error e, s') → P [] s' d) :
    P [] (b.poll service delivery s d).2.1 (b.poll service delivery s d).2.2 := by
  rw [poll]
  rcases hreceive : b.receive service s with ⟨e | entries, s'⟩
  · exact herror e s' hreceive
  · exact b.steps_keep service delivery hstep _ _ s' d (Nat.le_of_eq (cost_reads entries))
      (hok entries s' hreceive)

end

end SessionRelay.Backplane
