import Mathlib.Data.List.Nodup
import SessionRelay.Proofs.Session.InFlight
import SessionRelay.Session.Basic

/-!
# Which requests are in flight

A request is in flight from when it is begun until it is finished or a cancellation of its id comes,
whichever is first. So the calls that were made tell what a session's table holds, whatever ids the
client uses again and in whatever order requests end (`table_holds_running`). A request is known by
its id and its number together: when it is finished late, after a cancellation and after others have
begun under its id, its number is not in the table any more, and the others stay.
-/

namespace SessionRelay

/-- A request that was begun, as it is handed back to be finished. -/
structure Flight where
  id : Rpc.Id
  number : Nat
  deriving DecidableEq

namespace Flight

/-- What was done about the requests of a session. -/
inductive Mark
  | begun (f : Flight)
  | finished (f : Flight)
  | cancelled (id : Rpc.Id)
  deriving DecidableEq

/-- A request was begun, and since then neither finished nor hit by a cancellation of its id. -/
def Running (log : List Mark) (f : Flight) : Prop :=
  ∃ before after, log = before ++ .begun f :: after ∧
    Mark.finished f ∉ after ∧ Mark.cancelled f.id ∉ after

/-- A cancellation of its id came while a request was running. -/
def Hit (log : List Mark) (f : Flight) : Prop :=
  ∃ before after, log = before ++ .cancelled f.id :: after ∧ Running before f

variable {log : List Mark} {e : Mark} {f g : Flight}

/-- One of the events of a log with one more is the last one or stands before it. -/
theorem exists_split_append {x : Mark} {P : List Mark → List Mark → Prop} :
    (∃ before after, log ++ [e] = before ++ x :: after ∧ P before after) ↔
      e = x ∧ P log [] ∨ ∃ before after, log = before ++ x :: after ∧ P before (after ++ [e]) := by
  constructor
  · rintro ⟨before, after, hlog, hP⟩
    rcases List.eq_nil_or_concat' after with rfl | ⟨after, last, rfl⟩
    · obtain ⟨rfl, rfl⟩ := List.append_singleton_inj.1 hlog
      exact .inl ⟨rfl, hP⟩
    · rw [← List.cons_append, ← List.append_assoc, List.append_singleton_inj] at hlog
      obtain ⟨rfl, rfl⟩ := hlog
      exact .inr ⟨before, after, rfl, hP⟩
  · rintro (⟨rfl, hP⟩ | ⟨before, after, rfl, hP⟩)
    · exact ⟨log, [], rfl, hP⟩
    · exact ⟨before, after ++ [e], by simp, hP⟩

theorem running_append : Running (log ++ [e]) f ↔
    e = .begun f ∨ Running log f ∧ e ≠ .finished f ∧ e ≠ .cancelled f.id := by
  unfold Running
  rw [exists_split_append]
  simp only [List.mem_append, List.mem_singleton, not_or, List.not_mem_nil, not_false_eq_true,
    and_self, and_true]
  refine or_congr_right ⟨?_, ?_⟩
  · rintro ⟨before, after, hlog, ⟨hfinished, hfin⟩, hcancelled, hcan⟩
    exact ⟨⟨before, after, hlog, hfinished, hcancelled⟩, Ne.symm hfin, Ne.symm hcan⟩
  · rintro ⟨⟨before, after, hlog, hfinished, hcancelled⟩, hfin, hcan⟩
    exact ⟨before, after, hlog, ⟨hfinished, Ne.symm hfin⟩, hcancelled, Ne.symm hcan⟩

theorem hit_append : Hit (log ++ [e]) f ↔
    e = .cancelled f.id ∧ Running log f ∨ Hit log f := by
  unfold Hit
  rw [exists_split_append]

theorem Running.begun (h : Running log f) : Mark.begun f ∈ log := by
  obtain ⟨before, after, rfl, -⟩ := h
  simp

theorem Hit.begun (h : Hit log f) : Mark.begun f ∈ log := by
  obtain ⟨before, after, rfl, hrunning⟩ := h
  exact List.mem_append_left _ hrunning.begun

end Flight

namespace InFlight

variable {t : InFlight} {id key : Rpc.Id} {numbers : List Nat} {f : Flight}

/-- All that a table holds. -/
def flights (t : InFlight) : List Flight :=
  t.running.flatMap fun (id, numbers) => numbers.map (Flight.mk id)

theorem length_flights (t : InFlight) : t.flights.length = t.count := by
  simp [flights, count, List.length_flatMap]

/-- Every id has one place in the table. -/
def OnePlace (t : InFlight) : Prop := (t.running.map Prod.fst).Nodup

theorem lookup_of_mem : ∀ {running : List (Rpc.Id × List Nat)}, (running.map Prod.fst).Nodup →
    (id, numbers) ∈ running → lookup id running = numbers
  | (k, old) :: rest, hnodup, h => by
    rw [List.map_cons, List.nodup_cons] at hnodup
    rcases List.mem_cons.1 h with heq | h
    · cases heq
      simp [lookup]
    · have hne : k ≠ id := fun heq => hnodup.1 (List.mem_map.2 ⟨_, h, heq.symm⟩)
      rw [lookup, if_neg hne, lookup_of_mem hnodup.2 h]

theorem mem_of_lookup {number : Nat} : ∀ {running : List (Rpc.Id × List Nat)},
    number ∈ lookup id running → (id, lookup id running) ∈ running
  | (k, old) :: rest, h => by
    rw [lookup] at h ⊢
    split_ifs at h ⊢ with hk
    · simp [hk]
    · exact List.mem_cons_of_mem _ (mem_of_lookup h)

theorem mem_flights (h : t.OnePlace) : f ∈ t.flights ↔ f.number ∈ t.numbers f.id := by
  rw [numbers_eq]
  simp only [flights, List.mem_flatMap, List.mem_map, Prod.exists]
  constructor
  · rintro ⟨id, numbers, hmem, number, hnumber, rfl⟩
    rw [lookup_of_mem h hmem]
    exact hnumber
  · intro hnumber
    exact ⟨f.id, _, mem_of_lookup hnumber, f.number, hnumber, rfl⟩

theorem nodup_flights (h : t.OnePlace) (hnodup : ∀ id, (t.numbers id).Nodup) :
    t.flights.Nodup := by
  refine List.nodup_flatMap.2 ⟨fun ⟨id, numbers⟩ hmem => ?_, ?_⟩
  · have hnumbers := hnodup id
    rw [numbers_eq, lookup_of_mem h hmem] at hnumbers
    exact hnumbers.map fun _ _ heq => congrArg Flight.number heq
  · refine (List.pairwise_map.1 h).imp fun {a b} hne f ha hb => ?_
    obtain ⟨n, -, rfl⟩ := List.mem_map.1 ha
    obtain ⟨m, -, heq⟩ := List.mem_map.1 hb
    exact hne (congrArg Flight.id heq).symm

theorem onePlace_setNumbers (h : t.OnePlace) (id : Rpc.Id) (numbers : List Nat) :
    (t.setNumbers id numbers).OnePlace := by
  unfold setNumbers
  split_ifs with hempty hany
  · exact h.sublist (List.filter_sublist.map _)
  · have hkeys : (fun e : Rpc.Id × List Nat => (if e.1 == id then (e.1, numbers) else e).1) =
        Prod.fst := by
      funext e
      split_ifs <;> rfl
    simpa only [OnePlace, List.map_map, Function.comp_def, hkeys] using h
  · simp only [OnePlace, List.map_append, List.map_singleton]
    refine List.nodup_append.2 ⟨h, List.nodup_singleton _, ?_⟩
    rintro k hk k' hk' rfl
    obtain ⟨e, he, hek⟩ := List.mem_map.1 hk
    rw [List.mem_singleton] at hk'
    exact hany (List.any_eq_true.2 ⟨e, he, by simp [hek, hk']⟩)

theorem onePlace_cancel (h : t.OnePlace) (id : Rpc.Id) : (t.cancel id).2.OnePlace := by
  unfold cancel
  split
  · exact h
  · exact onePlace_setNumbers h id []

theorem cancel_known (t : InFlight) (id : Rpc.Id) :
    (t.cancel id).1 = true ↔ ∃ number, number ∈ t.numbers id := by
  unfold cancel
  split
  · rename_i h
    simp [h]
  · rename_i h
    exact ⟨fun _ => List.exists_mem_of_ne_nil _ h, fun _ => rfl⟩

/-! ## A table and the calls that were made -/

open Flight (Mark Running Hit)

variable {log : List Mark}

/-- A table holds what is running by the log, each request under its own number. -/
structure Follows (t : InFlight) (log : List Mark) : Prop where
  onePlace : t.OnePlace
  noneEmpty : t.NoneEmpty
  nodup : ∀ id, (t.numbers id).Nodup
  running : ∀ f : Flight, f.number ∈ t.numbers f.id ↔ Running log f
  number_lt : ∀ f, Mark.begun f ∈ log → f.number < t.nextNumber
  own : ∀ f g, Mark.begun f ∈ log → Mark.begun g ∈ log → f.number = g.number → f = g
  fired : ∀ f, Mark.begun f ∈ log → (f.number ∈ t.cancelled ↔ Hit log f)
  fired_lt : ∀ number ∈ t.cancelled, number < t.nextNumber

namespace Follows

theorem empty : Follows {} [] where
  onePlace := List.nodup_nil
  noneEmpty := nofun
  nodup := fun _ => List.nodup_nil
  running := fun f => by simp [Running, numbers]
  number_lt := nofun
  own := nofun
  fired := nofun
  fired_lt := nofun

theorem number_ne (h : t.Follows log) (hf : Mark.begun f ∈ log) : f.number ≠ t.nextNumber :=
  Nat.ne_of_lt (h.number_lt f hf)

theorem register (h : t.Follows log) (id : Rpc.Id) :
    (t.register id).2.Follows (log ++ [.begun ⟨id, (t.register id).1⟩]) := by
  have hnew : ∀ key, t.nextNumber ∉ t.numbers key := fun key hmem =>
    h.number_ne ((h.running ⟨key, t.nextNumber⟩).1 hmem).begun rfl
  have hbegun : ∀ f, Mark.begun f ∈ log ++ [.begun ⟨id, (t.register id).1⟩] ↔
      Mark.begun f ∈ log ∨ f = ⟨id, t.nextNumber⟩ := fun f => by simp [InFlight.register]
  have hnext : (t.register id).2.nextNumber = t.nextNumber + 1 := rfl
  refine ⟨onePlace_setNumbers h.onePlace id _, noneEmpty_setNumbers h.noneEmpty id _,
    fun key => ?_, fun f => ?_, fun f hf => ?_, fun f g hf hg heq => ?_, fun f hf => ?_,
    fun number hnumber => ?_⟩
  · rw [register_numbers]
    split_ifs
    · refine List.nodup_append.2 ⟨h.nodup id, List.nodup_singleton _, ?_⟩
      rintro a ha b hb rfl
      rw [List.mem_singleton.1 hb] at ha
      exact hnew id ha
    · exact h.nodup key
  · have hmark : Mark.begun ⟨id, (t.register id).1⟩ = .begun f ↔
        f.id = id ∧ f.number = t.nextNumber := by
      obtain ⟨key, number⟩ := f
      simp [InFlight.register, eq_comm]
    rw [register_numbers, Flight.running_append, hmark, ← h.running]
    by_cases hid : f.id = id <;> simp [hid, or_comm]
  · rcases (hbegun f).1 hf with hf | rfl
    · exact Nat.lt_succ_of_lt (h.number_lt f hf)
    · exact Nat.lt_succ_self _
  · rcases (hbegun f).1 hf with hf | rfl <;> rcases (hbegun g).1 hg with hg | rfl
    · exact h.own f g hf hg heq
    · exact absurd heq (h.number_ne hf)
    · exact absurd heq.symm (h.number_ne hg)
    · rfl
  · rw [register_cancelled, Flight.hit_append]
    rcases (hbegun f).1 hf with hf | rfl
    · simp [h.fired f hf]
    · have hnot : ¬ Hit log ⟨id, t.nextNumber⟩ := fun hhit => h.number_ne hhit.begun rfl
      simpa [hnot] using fun hmem => Nat.lt_irrefl _ (h.fired_lt _ hmem)
  · rw [register_cancelled] at hnumber
    exact Nat.lt_succ_of_lt (h.fired_lt number hnumber)

theorem begun_of_mem (h : t.Follows log) (hf : f.number ∈ t.numbers f.id) :
    Mark.begun f ∈ log :=
  ((h.running f).1 hf).begun

/-- A request that is finished leaves the table, and no other one does. -/
theorem mem_finish_iff (h : t.Follows log) (hf : Mark.begun f ∈ log) :
    g.number ∈ (t.finish f.id f.number).numbers g.id ↔ g.number ∈ t.numbers g.id ∧ g ≠ f := by
  rw [finish_numbers]
  by_cases hid : g.id = f.id
  · have hne : g.number ∈ t.numbers f.id → (g.number ≠ f.number ↔ g ≠ f) := fun hg =>
      not_congr ⟨h.own g f (h.begun_of_mem (hid ▸ hg)) hf, congrArg Flight.number⟩
    simpa [hid] using hne
  · have hne : g ≠ f := fun heq => hid (congrArg Flight.id heq)
    simp [hid, hne]

theorem finish (h : t.Follows log) (hf : Mark.begun f ∈ log) :
    (t.finish f.id f.number).Follows (log ++ [.finished f]) := by
  have hbegun : ∀ g, Mark.begun g ∈ log ++ [.finished f] ↔ Mark.begun g ∈ log := by simp
  refine ⟨onePlace_setNumbers h.onePlace _ _, noneEmpty_setNumbers h.noneEmpty _ _,
    fun key => ?_, fun g => ?_, fun g hg => ?_, fun g g' hg hg' => ?_, fun g hg => ?_, ?_⟩
  · rw [finish_numbers]
    split_ifs
    · exact (h.nodup f.id).filter _
    · exact h.nodup key
  · rw [h.mem_finish_iff hf, h.running, Flight.running_append]
    simp [eq_comm]
  · rw [finish_nextNumber]
    exact h.number_lt g ((hbegun g).1 hg)
  · exact h.own g g' ((hbegun g).1 hg) ((hbegun g').1 hg')
  · rw [finish_cancelled, Flight.hit_append, h.fired g ((hbegun g).1 hg)]
    simp
  · rw [finish_cancelled, finish_nextNumber]
    exact h.fired_lt

/-- A cancellation fires the tokens of the running requests with its id. -/
theorem mem_cancel_iff (h : t.Follows log) (hf : Mark.begun f ∈ log) (id : Rpc.Id) :
    f.number ∈ (t.cancel id).2.cancelled ↔
      f.number ∈ t.cancelled ∨ Running log f ∧ f.id = id := by
  have hmem : f.number ∈ t.numbers id ↔ Running log f ∧ f.id = id := by
    constructor
    · intro hnumber
      have hrunning := (h.running ⟨id, f.number⟩).1 hnumber
      have heq : (⟨id, f.number⟩ : Flight) = f := h.own _ f hrunning.begun hf rfl
      exact ⟨heq ▸ hrunning, (congrArg Flight.id heq).symm⟩
    · rintro ⟨hrunning, rfl⟩
      exact (h.running f).2 hrunning
  rw [cancel_cancelled, List.mem_append, hmem]

theorem cancel (h : t.Follows log) (id : Rpc.Id) :
    (t.cancel id).2.Follows (log ++ [.cancelled id]) := by
  have hbegun : ∀ g, Mark.begun g ∈ log ++ [.cancelled id] ↔ Mark.begun g ∈ log := by simp
  refine ⟨onePlace_cancel h.onePlace id, noneEmpty_cancel h.noneEmpty id, fun key => ?_,
    fun g => ?_, fun g hg => ?_, fun g g' hg hg' => ?_, fun g hg => ?_, fun number hnumber => ?_⟩
  · rw [cancel_numbers]
    split_ifs
    · exact List.nodup_nil
    · exact h.nodup key
  · rw [cancel_numbers, Flight.running_append, ← h.running]
    by_cases hid : g.id = id
    · simp [hid]
    · simp [hid, Ne.symm hid]
  · rw [cancel_nextNumber]
    exact h.number_lt g ((hbegun g).1 hg)
  · exact h.own g g' ((hbegun g).1 hg) ((hbegun g').1 hg')
  · rw [h.mem_cancel_iff ((hbegun g).1 hg), Flight.hit_append, h.fired g ((hbegun g).1 hg)]
    simp [or_comm, and_comm, eq_comm]
  · rw [cancel_cancelled, List.mem_append] at hnumber
    rw [cancel_nextNumber]
    rcases hnumber with hnumber | hnumber
    · exact h.fired_lt number hnumber
    · exact h.number_lt ⟨id, number⟩ (h.begun_of_mem hnumber)

end Follows

end InFlight

namespace Session

open Flight (Mark Running Hit)

/-- A session that calls about its requests have brought about. Anything else may happen to it
between them, and its end too, as long as the table is left alone. -/
inductive Tracks : List Mark → Session → Prop
  | fresh {s : Session} (empty : s.inFlight = {}) : Tracks [] s
  | register {log : List Mark} {s : Session} (h : Tracks log s) (id : Rpc.Id) :
      Tracks (log ++ [.begun ⟨id, (s.register id).1⟩]) (s.register id).2
  | finish {log : List Mark} {s : Session} (h : Tracks log s) {f : Flight}
      (begun : Mark.begun f ∈ log) : Tracks (log ++ [.finished f]) (s.finish f.id f.number)
  | cancel {log : List Mark} {s : Session} (h : Tracks log s) (id : Rpc.Id) :
      Tracks (log ++ [.cancelled id]) (s.cancelRequest id).2
  | aside {log : List Mark} {s s' : Session} (h : Tracks log s) (same : s'.inFlight = s.inFlight) :
      Tracks log s'

variable {log : List Mark} {s : Session}

theorem Tracks.follows (h : Tracks log s) : s.inFlight.Follows log := by
  induction h with
  | fresh empty => exact empty ▸ .empty
  | register _ id ih => exact ih.register id
  | finish _ begun ih => exact ih.finish begun
  | cancel _ id ih => exact ih.cancel id
  | aside _ same ih => exact same ▸ ih

/-- What the table of a session is, and what the next call does to it, by the calls so far. -/
structure Accounts (log : List Mark) (s : Session) : Prop where
  /-- The table holds just the requests that run, each under its id with its number. -/
  holds : ∀ f, f ∈ s.inFlight.flights ↔ Running log f
  once : s.inFlight.flights.Nodup
  onePlace : s.inFlight.OnePlace
  noneEmpty : s.inFlight.NoneEmpty
  count : s.inFlight.count = s.inFlight.flights.length
  own : ∀ f g, Mark.begun f ∈ log → Mark.begun g ∈ log → f.number = g.number → f = g
  fired : ∀ f, Mark.begun f ∈ log →
    (s.isCancelled f.number = true ↔ s.cancelled = true ∨ Hit log f)
  known : ∀ id, (s.cancelRequest id).1 = true ↔ ∃ f, Running log f ∧ f.id = id
  /-- A cancellation fires the tokens of the running requests with its id and no other ones. -/
  fires : ∀ id f, Mark.begun f ∈ log → ((s.cancelRequest id).2.isCancelled f.number = true ↔
    s.isCancelled f.number = true ∨ Running log f ∧ f.id = id)
  /-- Finishing a request takes out nothing else and fires nothing. -/
  spares : ∀ f, Mark.begun f ∈ log →
    (∀ g, g ∈ (s.finish f.id f.number).inFlight.flights ↔ g ∈ s.inFlight.flights ∧ g ≠ f) ∧
      ∀ number, (s.finish f.id f.number).isCancelled number = s.isCancelled number

theorem isCancelled_iff {number : Nat} :
    s.isCancelled number = true ↔ s.cancelled = true ∨ number ∈ s.inFlight.cancelled := by
  simp [isCancelled, InFlight.isCancelled]

/-- Whatever ids are used again and in whatever order requests begin, end and are cancelled, the
table holds the requests that run. A request may even be finished more than once. -/
theorem table_holds_running (h : Tracks log s) : Accounts log s := by
  have hfollows := h.follows
  have hmem : ∀ f, f ∈ s.inFlight.flights ↔ f.number ∈ s.inFlight.numbers f.id := fun f =>
    InFlight.mem_flights hfollows.onePlace
  refine ⟨fun f => ?_, ?_, hfollows.onePlace, hfollows.noneEmpty, ?_, hfollows.own,
    fun f hf => ?_, fun id => ?_, fun id f hf => ?_, fun f hf => ⟨fun g => ?_, fun number => ?_⟩⟩
  · rw [hmem, hfollows.running]
  · exact InFlight.nodup_flights hfollows.onePlace hfollows.nodup
  · exact (InFlight.length_flights _).symm
  · rw [isCancelled_iff, hfollows.fired f hf]
  · refine (InFlight.cancel_known s.inFlight id).trans ⟨?_, ?_⟩
    · rintro ⟨number, hnumber⟩
      exact ⟨⟨id, number⟩, (hfollows.running _).1 hnumber, rfl⟩
    · rintro ⟨f, hrunning, rfl⟩
      exact ⟨f.number, (hfollows.running f).2 hrunning⟩
  · have hafter := hfollows.mem_cancel_iff hf id
    rw [isCancelled_iff, isCancelled_iff, or_assoc]
    exact or_congr_right hafter
  · rw [hmem, ← hfollows.mem_finish_iff hf]
    exact InFlight.mem_flights (hfollows.finish hf).onePlace
  · simp [isCancelled, InFlight.isCancelled, Session.finish]

/-- Three requests under one number and one under a text that reads like it: the first is finished,
the others with the number are cancelled, one of those is finished late, and a fourth one comes. -/
def sevens : Session :=
  let s := (nobody.register (.number 7)).2
  let s := (s.register (.text "7")).2
  let s := (s.register (.number 7)).2
  let s := s.finish (.number 7) 0
  let s := (s.cancelRequest (.number 7)).2
  let s := s.finish (.number 7) 2
  (s.register (.number 7)).2

def sevensLog : List Mark :=
  [.begun ⟨.number 7, 0⟩, .begun ⟨.text "7", 1⟩, .begun ⟨.number 7, 2⟩, .finished ⟨.number 7, 0⟩,
    .cancelled (.number 7), .finished ⟨.number 7, 2⟩, .begun ⟨.number 7, 3⟩]

theorem table_holds_running_sevens : Tracks sevensLog sevens ∧ sevens.inFlight.count = 2 ∧
    (∀ f, Running sevensLog f ↔ f = ⟨.text "7", 1⟩ ∨ f = ⟨.number 7, 3⟩) ∧
    Hit sevensLog ⟨.number 7, 2⟩ ∧ ¬ Hit sevensLog ⟨.number 7, 0⟩ := by
  have hnobody : Tracks [] nobody := .fresh rfl
  have hbegun := ((hnobody.register (.number 7)).register (.text "7")).register (.number 7)
  have hcancelled := (hbegun.finish (f := ⟨.number 7, 0⟩) (by decide)).cancel (.number 7)
  have htracks : Tracks sevensLog sevens :=
    (hcancelled.finish (f := ⟨.number 7, 2⟩) (by decide)).register (.number 7)
  have haccounts := table_holds_running htracks
  have hflights : sevens.inFlight.flights = [⟨.text "7", 1⟩, ⟨.number 7, 3⟩] := by decide
  have hcalm : sevens.cancelled ≠ true := by decide
  refine ⟨htracks, ?_, fun f => ?_, ?_, ?_⟩
  · rw [haccounts.count, hflights]
    rfl
  · rw [← haccounts.holds, hflights]
    simp
  · have hfired := haccounts.fired ⟨.number 7, 2⟩ (by decide)
    exact (hfired.1 (by decide)).resolve_left hcalm
  · have hfired := haccounts.fired ⟨.number 7, 0⟩ (by decide)
    exact fun hhit => absurd (hfired.2 (.inr hhit)) (by decide)

end Session

end SessionRelay
