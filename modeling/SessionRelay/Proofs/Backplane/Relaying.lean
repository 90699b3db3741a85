import SessionRelay.Backplane.Relay
import SessionRelay.Proofs.Rpc.Message

/-!
# Which messages survive the queue

The envelope takes one level of nesting, so of the messages that a body may hold, those that nest as
deep as a text may are not read back from the queue (`Envelope.ofText?_text`): their entries are
deleted as nobody can read them. Every other message is handed over as it was sent.
-/

namespace SessionRelay

/-! ## Envelopes -/

namespace Envelope

theorem messageOfTree?_ofJson {m : Rpc.Message} (h : m.Regular) :
    messageOfTree? (.ofJson m.toJson) =
      if m.toJson.nesting < Json.maxDepth then some m else none := by
  have hdepth : m.toJson.nesting ≤ Json.maxDepth - 1 ↔ m.toJson.nesting < Json.maxDepth :=
    Nat.le_sub_one_iff_lt (by decide)
  rw [messageOfTree?, Json.Tree.toJson?_ofJson]
  simp only [hdepth]
  split_ifs
  · simp [Rpc.Message.ofJson_toJson h, Except.toOption]
  · rfl

theorem tree?_text {e : Envelope} (h : ∀ n ∈ e.message.toJson.numbers, n.ReadsBack) :
    Json.tree? e.text = some (.object [(some "targetInstanceId", .string (some e.target)),
      (some "clientId", .string (some e.clientId)),
      (some "message", .ofJson e.message.toJson)]) := by
  refine Json.tree?_compact fun n hn => h n ?_
  obtain ⟨m, hm, hn⟩ := Json.mem_numbers_object.1 hn
  simp only [List.mem_cons, List.not_mem_nil, or_false] at hm
  rcases hm with rfl | rfl | rfl
  · cases hn
  · cases hn
  · exact hn

/-- The message in an envelope is read back unless it nests as deep as a text may. -/
theorem ofText?_text {e : Envelope} (hregular : e.message.Regular)
    (hreals : ∀ x, .real x ∈ e.message.toJson.numbers → (Number.real x).ReadsBack) :
    ofText? e.text = if e.message.toJson.nesting < Json.maxDepth then some e else none := by
  rw [ofText?, tree?_text (Rpc.Message.readsBack hregular hreals)]
  by_cases h : e.message.toJson.nesting < Json.maxDepth <;>
    simp [ofTree?, Draft.add?, Draft.setTarget?, Draft.setClient?, Draft.setMessage?, textOfTree?,
      messageOfTree?_ofJson hregular, Draft.finish?, h]

end Envelope

/-! ## Polls -/

namespace Backplane

variable {σ δ : Type} (service : Queue.Service σ) (delivery : Delivery δ)

/-- The most steps that a task and what follows from it take. -/
def Task.cost : Task → Nat
  | .read _ => 4
  | .prepare _ _ => 3
  | .handOver _ _ | .move _ _ => 2
  | .delete _ => 1

/-- The most steps that tasks take. -/
def cost : List Task → Nat
  | [] => 0
  | task :: tasks => task.cost + cost tasks

theorem cost_append (rest : List Task) : ∀ tasks : List Task,
    cost (tasks ++ rest) = cost tasks + cost rest
  | [] => (Nat.zero_add _).symm
  | task :: tasks => by
    rw [List.cons_append, cost, cost, cost_append rest tasks, Nat.add_assoc]

theorem cost_reads : ∀ entries : List Queue.Lease,
    cost (entries.map .read) = 4 * entries.length
  | [] => rfl
  | entry :: entries => by
    rw [List.map_cons, cost, cost_reads entries, Task.cost, List.length_cons, Nat.mul_succ,
      Nat.add_comm]

theorem cost_classify (b : Backplane) (entry : Queue.Lease) : cost (b.classify entry) < 4 := by
  unfold classify
  simp only
  split
  · simp [cost, Task.cost]
  · split_ifs <;> simp [cost, Task.cost]

theorem cost_perform (b : Backplane) (task : Task) (s : σ) (d : δ) :
    cost (b.perform service delivery task s d).1 < task.cost := by
  cases task with
  | read entry => exact cost_classify b entry
  | handOver | prepare | move =>
    simp only [perform]
    split <;> simp [cost, Task.cost]
  | delete => exact Nat.one_pos

theorem eq_nil_of_cost {tasks : List Task} (h : cost tasks ≤ 0) : tasks = [] := by
  cases tasks with
  | nil => rfl
  | cons task tasks => cases task <;> simp [cost, Task.cost] at h

theorem cost_step {b : Backplane} {task : Task} {tasks : List Task} {s : σ} {d : δ} {count : Nat}
    (h : cost (task :: tasks) ≤ count + 1) :
    cost ((b.perform service delivery task s d).1 ++ tasks) ≤ count := by
  have hperform := cost_perform service delivery b task s d
  rw [cost] at h
  rw [cost_append]
  omega

theorem steps_nil (b : Backplane) (s : σ) (d : δ) : ∀ count : Nat,
    b.steps service delivery count [] s d = (s, d)
  | 0 => rfl
  | count + 1 => b.steps_nil s d count

/-- Once all is done, further steps do nothing. -/
theorem steps_add (b : Backplane) (more : Nat) :
    ∀ (count : Nat) (tasks : List Task) (s : σ) (d : δ), cost tasks ≤ count →
      b.steps service delivery (count + more) tasks s d = b.steps service delivery count tasks s d
  | 0, tasks, s, d, h => by
    rw [eq_nil_of_cost h, steps_nil, steps_nil]
  | count + 1, [], s, d, _ => by
    rw [steps_nil, steps_nil]
  | count + 1, task :: tasks, s, d, h => by
    rw [Nat.add_right_comm]
    exact b.steps_add more count _ _ _ (cost_step service delivery h)

/-- Steps that suffice for some tasks finish these before they get to the rest. -/
theorem steps_append (b : Backplane) (rest : List Task) (more : Nat) (hrest : cost rest ≤ more) :
    ∀ (count : Nat) (tasks : List Task) (s : σ) (d : δ), cost tasks ≤ count →
      b.steps service delivery (count + more) (tasks ++ rest) s d =
        b.steps service delivery more rest (b.steps service delivery count tasks s d).1
          (b.steps service delivery count tasks s d).2
  | 0, tasks, s, d, h => by
    rw [eq_nil_of_cost h, steps_nil, Nat.zero_add, List.nil_append]
  | count + 1, [], s, d, _ => by
    rw [steps_nil, Nat.add_comm, List.nil_append, steps_add service delivery b _ _ _ _ _ hrest]
  | count + 1, task :: tasks, s, d, h => by
    rw [Nat.add_right_comm]
    have ih := b.steps_append rest more hrest count
      ((b.perform service delivery task s d).1 ++ tasks)
      (b.perform service delivery task s d).2.1 (b.perform service delivery task s d).2.2
      (cost_step service delivery h)
    rw [List.append_assoc] at ih
    exact ih

/-- All that a poll does about one entry. -/
def attend (b : Backplane) (entry : Queue.Lease) (s : σ) (d : δ) : σ × δ :=
  b.steps service delivery 4 [.read entry] s d

/-- A poll attends to the entries it took one after another. -/
theorem poll_eq (b : Backplane) (s : σ) (d : δ) : b.poll service delivery s d =
    match b.receive service s with
    | (.error e, s) => (.error e, s, d)
    | (.ok entries, s) =>
      (.ok entries.length,
        entries.foldl (fun state entry => b.attend service delivery entry state.1 state.2)
          (s, d)) := by
  have hsteps : ∀ (entries : List Queue.Lease) (s : σ) (d : δ),
      b.steps service delivery (4 * entries.length) (entries.map .read) s d =
        entries.foldl (fun state entry => b.attend service delivery entry state.1 state.2)
          (s, d) := by
    intro entries
    induction entries with
    | nil => exact fun _ _ => rfl
    | cons entry entries ih =>
      intro s d
      have hcost : cost (entries.map Task.read) ≤ 4 * entries.length :=
        Nat.le_of_eq (cost_reads entries)
      have happend := steps_append service delivery b _ _ hcost 4 [.read entry] s d le_rfl
      rw [List.foldl_cons, List.length_cons, Nat.mul_succ, Nat.add_comm, List.map_cons]
      exact happend.trans (ih _ _)
  unfold poll
  rcases b.receive service s with ⟨e | entries, s⟩
  · rfl
  · simp only [hsteps]

/-- What a poll does about an entry that holds an envelope for this instance. -/
theorem attend_of_eq_some {b : Backplane} {entry : Queue.Lease} {e : Envelope}
    (h : Envelope.ofText? entry.body = some e) (htarget : e.target = b.instanceId) (s : σ) (d : δ) :
    b.attend service delivery entry s d =
      match delivery e d with
      | (.ok (), d) => ((service.delete b.queue entry.id entry.receipt s).2, d)
      | (.error _, d) => (s, d) := by
  have hclassify : b.classify entry = [.handOver entry e] := by
    rw [classify, h]
    exact if_pos htarget
  rcases hdelivery : delivery e d with ⟨error | done, d'⟩ <;>
    simp only [attend, steps, step, perform, hclassify, hdelivery, List.append_nil]

/-- What a poll does about an entry that nobody can read. -/
theorem attend_of_eq_none {b : Backplane} {entry : Queue.Lease}
    (h : Envelope.ofText? entry.body = none) (s : σ) (d : δ) :
    b.attend service delivery entry s d =
      ((service.delete b.queue entry.id entry.receipt s).2, d) := by
  have hclassify : b.classify entry = [.delete entry] := by
    rw [classify, h]
  simp only [attend, steps, step, perform, hclassify, List.append_nil]

/-! ## Messages of a body -/

/-- A message of a body, sent to an instance, is handed over there as it was sent, unless it nests
as deep as a text may: then its entry is deleted unread. Only a body with no other message holds
such a message. -/
theorem poll_hands_over_unless_deep {body : String} {ms : List Rpc.Message} {m : Rpc.Message}
    (hbody : Rpc.Message.ofBody body = .ok ms) (hm : m ∈ ms)
    (hreals : ∀ x, .real x ∈ m.toJson.numbers → (Number.real x).ReadsBack)
    (target client : String) :
    (∀ s s', service.create (QueueName.ofInstance target) s = (.ok (), s') →
      send service ⟨target, client, m⟩ s =
        service.send (QueueName.ofInstance target) (Envelope.text ⟨target, client, m⟩) s') ∧
      (∀ b : Backplane, b.instanceId = target →
        (∀ s s' entries d, b.receive service s = (.ok entries, s') →
          b.poll service delivery s d = (.ok entries.length,
            entries.foldl (fun state entry => b.attend service delivery entry state.1 state.2)
              (s', d))) ∧
        ∀ entry : Queue.Lease, entry.body = Envelope.text ⟨target, client, m⟩ → ∀ s d,
          b.attend service delivery entry s d =
            if m.toJson.nesting < Json.maxDepth then
              match delivery ⟨target, client, m⟩ d with
              | (.ok (), d) => ((service.delete b.queue entry.id entry.receipt s).2, d)
              | (.error _, d) => (s, d)
            else ((service.delete b.queue entry.id entry.receipt s).2, d)) ∧
      m.toJson.nesting ≤ Json.maxDepth ∧ (m.toJson.nesting = Json.maxDepth → ms = [m]) := by
  obtain ⟨hregular, hdepth, halone⟩ := Rpc.Message.of_mem_ofBody hbody hm
  have hread := Envelope.ofText?_text (e := ⟨target, client, m⟩) hregular hreals
  refine ⟨fun s s' hcreate => ?_,
    fun b hb => ⟨fun s s' entries d hreceive => ?_, fun entry hentry s d => ?_⟩, hdepth, halone⟩
  · rw [send]
    simp only [hcreate]
  · rw [poll_eq, hreceive]
  · rw [← hentry] at hread
    split_ifs at hread ⊢ with hdeep
    · exact attend_of_eq_some service delivery hread hb.symm s d
    · exact attend_of_eq_none service delivery hread s d

/-- A notification that carries one half. -/
def halfNote : Rpc.Message :=
  .notification
    { method := "note"
      params := some (.array [.number (.real (.div (.ofNat 1) (.ofNat 2)))]) }

/-- A receiver that keeps what it is handed. -/
def keeper : Delivery (List Envelope) := fun e kept => (.ok (), kept ++ [e])

theorem poll_hands_over_half : Rpc.Message.ofBody halfNote.wire = .ok [halfNote] ∧
    send .ofStore ⟨"b", "c", halfNote⟩ {} =
      Queue.Service.ofStore.send (QueueName.ofInstance "b") (Envelope.text ⟨"b", "c", halfNote⟩)
        (Queue.Store.create {} (QueueName.ofInstance "b")) ∧
    ∀ entry : Queue.Lease, entry.body = Envelope.text ⟨"b", "c", halfNote⟩ → ∀ s kept,
      (attend .ofStore keeper ⟨"b", {}⟩ entry s kept).2 = kept ++ [⟨"b", "c", halfNote⟩] := by
  have hhalf : (Number.real (.div (.ofNat 1) (.ofNat 2))).ReadsBack := by decide +kernel
  have hreals : ∀ x, .real x ∈ halfNote.toJson.numbers → (Number.real x).ReadsBack := by
    intro x hx
    have hx : x = .div (.ofNat 1) (.ofNat 2) := by
      simpa [halfNote, Rpc.Message.toJson, Rpc.Notification.toJson, Rpc.optionalMember,
        Json.numbers, Json.numbersOfMembers, Json.numbersOfMember, Json.numbersOfItems] using hx
    exact hx ▸ hhalf
  have hregular : halfNote.Regular := by
    rintro v ⟨⟩
    refine ⟨⟨.array fun v hv => ?_, fun n hn => ?_⟩, by simp⟩
    · rw [List.mem_singleton.1 hv]
      exact .number _
    · simp [Json.numbers, Json.numbersOfItems] at hn
  have hdepth : halfNote.toJson.nesting = 2 := rfl
  have hbody := Rpc.Message.ofBody_wire hregular hreals (by simp [hdepth, Json.maxDepth])
  obtain ⟨hsend, hpoll, -⟩ := poll_hands_over_unless_deep .ofStore keeper hbody
    List.mem_cons_self hreals "b" "c"
  have hcreate : Queue.Service.ofStore.create (QueueName.ofInstance "b") {} =
      (.ok (), Queue.Store.create {} (QueueName.ofInstance "b")) := by
    simp only [Queue.Service.ofStore]
  refine ⟨hbody, hsend _ _ hcreate, fun entry hentry s kept => ?_⟩
  rw [(hpoll ⟨"b", {}⟩ rfl).2 entry hentry s kept, if_pos (by simp [hdepth, Json.maxDepth])]
  rfl

/-- An array inside so many others. -/
def nested : Nat → Json
  | 0 => .array []
  | n + 1 => .array [nested n]

theorem nested_spec : ∀ n : Nat,
    (nested n).Tidy ∧ nested n ≠ .null ∧ (nested n).nesting = n + 1 ∧ (nested n).numbers = []
  | 0 => ⟨⟨.array (by simp), by simp [nested, Json.numbers, Json.numbersOfItems]⟩,
      by simp [nested], rfl, rfl⟩
  | n + 1 => by
    obtain ⟨htidy, -, hnesting, hnumbers⟩ := nested_spec n
    have hnone : (nested (n + 1)).numbers = [] := by
      simp [nested, Json.numbers, Json.numbersOfItems, hnumbers]
    refine ⟨⟨.array fun v hv => ?_, by simp [hnone]⟩, by simp [nested], ?_, hnone⟩
    · rw [List.mem_singleton.1 hv]
      exact htidy.ordered
    · simp [nested, Json.nesting, Json.nestingItems, hnesting]

/-- A request whose parameters nest as deep as a body allows. -/
def deepPing : Rpc.Message :=
  .request { id := .number 1, method := "ping", params := some (nested 125) }

theorem deep_ping_deleted : Rpc.Message.ofBody deepPing.wire = .ok [deepPing] ∧
    (∀ n ∈ deepPing.toJson.numbers, n.ReadsBack) ∧
    ∀ entry : Queue.Lease, entry.body = Envelope.text ⟨"b", "c", deepPing⟩ →
      classify ⟨"b", {}⟩ entry = [.delete entry] := by
  obtain ⟨htidy, hnull, hnesting, hnumbers⟩ := nested_spec 125
  have hregular : deepPing.Regular := by
    refine ⟨by simp [Rpc.Id.Regular, Width.isInt64, Width.int64Min, Width.int64Max], ?_⟩
    rintro v ⟨⟩
    exact ⟨htidy, hnull⟩
  have hreals : ∀ x, .real x ∈ deepPing.toJson.numbers → (Number.real x).ReadsBack := by
    intro x hx
    simp [deepPing, Rpc.Message.toJson, Rpc.Request.toJson, Rpc.Id.toJson, Rpc.optionalMember,
      Json.int, Json.numbers, Json.numbersOfMembers, Json.numbersOfMember, hnumbers] at hx
  have hdepth : deepPing.toJson.nesting = Json.maxDepth := by
    simp [deepPing, Rpc.Message.toJson, Rpc.Request.toJson, Rpc.Id.toJson, Rpc.optionalMember,
      Json.int, Json.nesting, Json.nestingMembers, Json.nestingMember, hnesting, Json.maxDepth]
  refine ⟨Rpc.Message.ofBody_wire hregular hreals hdepth.le,
    Rpc.Message.readsBack hregular hreals, fun entry hentry => ?_⟩
  rw [classify, hentry, Envelope.ofText?_text hregular hreals, if_neg (by simp [hdepth])]

end Backplane

end SessionRelay
