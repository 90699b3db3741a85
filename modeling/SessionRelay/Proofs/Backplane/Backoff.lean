import Mathlib.Tactic.Ring
import SessionRelay.Backplane.Consumer

/-!
# How long a consumer waits

A consumer polls again at once after a poll that took something. After the `k`-th poll in a row that
took nothing it waits for `delay k`, which starts at the shortest wait and doubles, sixteen times or
up to the ceiling (`Run.polls_follow_backoff`). A ceiling further away than sixteen doublings is
never reached (`Run.wait_stops_below_far_ceiling`). In machine words the wait comes out the same, and
nothing overflows on the way.
-/

namespace SessionRelay

/-! ## The wait -/

namespace BackplaneConfig

variable (config : BackplaneConfig)

theorem delay_eq (idle : Nat) :
    config.delay idle = min (config.minPollInterval * 2 ^ min (idle - 1) 16) config.ceiling := rfl

theorem minPollInterval_le_ceiling : config.minPollInterval ≤ config.ceiling :=
  Nat.le_max_right _ _

theorem minPollInterval_le_delay (idle : Nat) : config.minPollInterval ≤ config.delay idle :=
  Nat.le_min.2 ⟨Nat.le_mul_of_pos_right _ (Nat.two_pow_pos _), config.minPollInterval_le_ceiling⟩

theorem delay_le_ceiling (idle : Nat) : config.delay idle ≤ config.ceiling := Nat.min_le_right _ _

/-- For sixteen times the wait doubles as far as the ceiling lets it. -/
theorem delay_succ {idle : Nat} (h : 1 ≤ idle) (hfew : idle ≤ 16) :
    config.delay (idle + 1) = min (2 * config.delay idle) config.ceiling := by
  have hdouble : config.minPollInterval * 2 ^ min idle 16 =
      2 * (config.minPollInterval * 2 ^ min (idle - 1) 16) := by
    rw [show min idle 16 = min (idle - 1) 16 + 1 by omega]
    ring
  rw [delay_eq, delay_eq, Nat.add_sub_cancel, hdouble]
  omega

theorem delay_succ_of_many {idle : Nat} (hmany : 17 ≤ idle) :
    config.delay (idle + 1) = config.delay idle := by
  have hcapped : min (idle + 1 - 1) 16 = min (idle - 1) 16 := by omega
  rw [delay_eq, delay_eq, hcapped]

theorem delay_le_delay_succ {idle : Nat} (h : 1 ≤ idle) :
    config.delay idle ≤ config.delay (idle + 1) := by
  by_cases hfew : idle ≤ 16
  · have hceiling := config.delay_le_ceiling idle
    rw [config.delay_succ h hfew]
    omega
  · exact (config.delay_succ_of_many (by omega)).ge

/-- It is what doubling without end comes to, unless sixteen doublings were too few to reach the
ceiling. -/
theorem delay_eq_doubled_iff (idle : Nat) :
    config.delay idle = min (config.minPollInterval * 2 ^ (idle - 1)) config.ceiling ↔
      idle ≤ 17 ∨ config.minPollInterval = 0 ∨
        config.ceiling ≤ config.minPollInterval * 2 ^ 16 := by
  rw [delay_eq]
  by_cases hfew : idle ≤ 17
  · rw [Nat.min_eq_left (by omega : idle - 1 ≤ 16)]
    exact iff_of_true rfl (.inl hfew)
  rw [Nat.min_eq_right (by omega : 16 ≤ idle - 1), or_iff_right hfew]
  rcases Nat.eq_zero_or_pos config.minPollInterval with hzero | hpos
  · rw [hzero, Nat.zero_mul, Nat.zero_mul]
    exact iff_of_true rfl (.inl rfl)
  have hmore : config.minPollInterval * 2 ^ 17 ≤ config.minPollInterval * 2 ^ (idle - 1) :=
    Nat.mul_le_mul_left _ (Nat.pow_le_pow_right Nat.two_pos (by omega))
  omega

/-- How the waits after `1`, `2`, `3` and more polls grow. -/
structure BacksOff : Prop where
  first : config.delay 1 = config.minPollInterval
  within : ∀ k, config.minPollInterval ≤ config.delay k ∧ config.delay k ≤ config.ceiling
  grows : ∀ k, 1 ≤ k → config.delay k ≤ config.delay (k + 1)
  doubles : ∀ k, 1 ≤ k → k ≤ 16 → config.delay (k + 1) = min (2 * config.delay k) config.ceiling
  settles : ∀ k, 17 ≤ k → config.delay (k + 1) = config.delay k
  exact_iff : ∀ k, config.delay k = min (config.minPollInterval * 2 ^ (k - 1)) config.ceiling ↔
    k ≤ 17 ∨ config.minPollInterval = 0 ∨ config.ceiling ≤ config.minPollInterval * 2 ^ 16

theorem backsOff : config.BacksOff where
  first := by simp [delay_eq, config.minPollInterval_le_ceiling]
  within k := ⟨config.minPollInterval_le_delay k, config.delay_le_ceiling k⟩
  grows _ := config.delay_le_delay_succ
  doubles _ := config.delay_succ
  settles _ := config.delay_succ_of_many
  exact_iff := config.delay_eq_doubled_iff

end BackplaneConfig

/-! ## The wait in machine words -/

/-- A number that a word of so many bits can hold; any other is an overflow. -/
def word? (bits n : Nat) : Option Nat := if n < 2 ^ bits then some n else none

/-- A duration in two words: whole seconds, and the nanoseconds that are left. -/
structure Duration where
  seconds : Nat
  nanos : Nat
  deriving DecidableEq

namespace Duration

/-- The longest duration. -/
def longest : Duration := ⟨2 ^ 64 - 1, 999999999⟩

def ofMillis (ms : Nat) : Duration := ⟨ms / 1000, ms % 1000 * 1000000⟩

/-- So many times a duration, or the longest one if the seconds do not hold it. The nanoseconds are
multiplied unguarded. -/
def times (d : Duration) (n : Nat) : Option Duration := do
  let nanos ← word? 64 (d.nanos * n)
  let product : Option Duration := do
    let whole ← word? 64 (d.seconds * n)
    let seconds ← word? 64 (whole + nanos / 1000000000)
    return ⟨seconds, nanos % 1000000000⟩
  return product.getD longest

/-- The shorter of two durations. -/
def shorter (d e : Duration) : Duration :=
  if d.seconds < e.seconds ∨ d.seconds = e.seconds ∧ d.nanos ≤ e.nanos then d else e

theorem shorter_ofMillis (a b : Nat) :
    (ofMillis a).shorter (ofMillis b) = ofMillis (min a b) := by
  unfold shorter ofMillis
  split_ifs with h
  · rw [Nat.min_eq_left (by dsimp only at h; omega)]
  · rw [Nat.min_eq_right (by dsimp only at h; omega)]

theorem longest_shorter {ms : Nat} (h : ms < 2 ^ 64) :
    longest.shorter (ofMillis ms) = ofMillis ms := by
  refine if_neg ?_
  simp only [longest, ofMillis]
  omega

/-- A product that is too long for the words counts as the longest duration. -/
theorem times_ofMillis {ms n : Nat} (hn : n < 2 ^ 32) : (ofMillis ms).times n =
    some (if ms * n / 1000 < 2 ^ 64 then ofMillis (ms * n) else longest) := by
  have hsplit : ms * n = 1000 * (ms / 1000 * n) + ms % 1000 * n := by
    rw [← Nat.mul_assoc, ← Nat.add_mul, Nat.div_add_mod]
  have hrest : ms % 1000 * n ≤ 999 * (2 ^ 32 - 1) :=
    Nat.mul_le_mul (by omega) (by omega)
  have hnanos : ms % 1000 * 1000000 * n = 1000000 * (ms % 1000 * n) := by ring
  simp only [times, ofMillis, hsplit, hnanos]
  generalize ms / 1000 * n = whole at *
  generalize ms % 1000 * n = rest at *
  rw [word?, if_pos (by omega)]
  simp only [word?, Option.pure_def, Option.bind_eq_bind, Option.bind_some]
  split_ifs with hwhole hsum <;>
    simp only [Option.bind_some, Option.bind_none, Option.getD_none] <;> grind

end Duration

/-- The wait as it is worked out in words, unless one of them overflows. -/
def BackplaneConfig.wordDelay (config : BackplaneConfig) (idle : Nat) : Option Duration := do
  let factor ← word? 32 (1 <<< min (idle - 1) maxDoublings)
  let product ← (Duration.ofMillis config.minPollInterval).times factor
  return product.shorter (.ofMillis config.ceiling)

/-- Both waits of a configuration are numbers of 64 bits. -/
structure BackplaneConfig.InWords (config : BackplaneConfig) : Prop where
  shortest : config.minPollInterval < 2 ^ 64
  longest : config.maxPollInterval < 2 ^ 64

/-- In words the wait is what it is in numbers, and nothing overflows on the way. -/
theorem BackplaneConfig.wordDelay_eq {config : BackplaneConfig} (h : config.InWords) (idle : Nat) :
    config.wordDelay idle = some (.ofMillis (config.delay idle)) := by
  have hceiling : config.ceiling < 2 ^ 64 := Nat.max_lt.2 ⟨h.longest, h.shortest⟩
  have hfactor : 1 <<< min (idle - 1) maxDoublings = 2 ^ min (idle - 1) 16 := by
    rw [Nat.one_shiftLeft]
    rfl
  have hfits : 2 ^ min (idle - 1) 16 < 2 ^ 32 :=
    Nat.pow_lt_pow_right (by decide) (by omega)
  have hword : word? 32 (2 ^ min (idle - 1) 16) = some (2 ^ min (idle - 1) 16) := if_pos hfits
  rw [wordDelay, hfactor, hword, Option.bind_eq_bind, Option.bind_some,
    Duration.times_ofMillis hfits, Option.bind_eq_bind, Option.bind_some, delay_eq]
  split_ifs with hshort
  · rw [Duration.shorter_ofMillis]
    rfl
  · -- More seconds than the words can hold are more than the ceiling.
    rw [Nat.min_eq_right (by omega), Duration.longest_shorter hceiling]
    rfl

/-! ## The polls of a consumer -/

/-- A poll: when it began and ended, and what came of it. -/
structure Poll where
  began : Nat
  ended : Nat
  outcome : Except Queue.Error Nat

/-- A poll takes nothing if it finds no entries or fails. -/
def Poll.tookNothing (p : Poll) : Bool :=
  match p.outcome with
  | .ok (_ + 1) => false
  | .ok 0 | .error _ => true

/-- How many polls in a row took nothing; the latest poll comes first. -/
def idlePolls (polls : List Poll) : Nat := (polls.takeWhile Poll.tookNothing).length

/-- The same number as the counter of the loop has it. -/
def wordIdlePolls : List Poll → Nat
  | [] => 0
  | p :: earlier => if p.tookNothing then min (wordIdlePolls earlier + 1) (2 ^ 32 - 1) else 0

theorem idlePolls_cons (p : Poll) (earlier : List Poll) :
    idlePolls (p :: earlier) = if p.tookNothing then idlePolls earlier + 1 else 0 := by
  cases h : p.tookNothing <;> simp [idlePolls, h]

theorem wordIdlePolls_eq (polls : List Poll) :
    wordIdlePolls polls = min (idlePolls polls) (2 ^ 32 - 1) := by
  induction polls with
  | nil => rfl
  | cons p earlier ih =>
    rw [wordIdlePolls, idlePolls_cons, ih]
    split_ifs <;> omega

theorem BackplaneConfig.wordDelay_wordIdlePolls {config : BackplaneConfig} (h : config.InWords)
    (polls : List Poll) : config.wordDelay (wordIdlePolls polls) =
      some (.ofMillis (config.delay (idlePolls polls))) := by
  -- The counter stops long after the doubling does.
  have hcapped : min (min (idlePolls polls) (2 ^ 32 - 1) - 1) 16 =
      min (idlePolls polls - 1) 16 := by
    omega
  rw [wordDelay_eq h, wordIdlePolls_eq, delay_eq, delay_eq, hcapped]

theorem idlePolls_eq_length {polls : List Poll} (h : ∀ p ∈ polls, p.outcome = .ok 0) :
    idlePolls polls = polls.length := by
  induction polls with
  | nil => rfl
  | cons p earlier ih =>
    obtain ⟨hp, hearlier⟩ := List.forall_mem_cons.1 h
    rw [idlePolls_cons, Poll.tookNothing, hp, ih hearlier]
    rfl

/-- How long a consumer is to wait after its latest poll. -/
def BackplaneConfig.waitAfter (config : BackplaneConfig) (polls : List Poll) : Nat :=
  if idlePolls polls = 0 then 0 else config.delay (idlePolls polls)

namespace Consumer

/-- The consumer polls at that time, and not before it, unless it has been stopped. -/
def Awaits (c : Consumer) (due now : Nat) : Prop :=
  match c.state with
  | .ready => now = due
  | .sleeping wakeAt => wakeAt = due ∧ now ≤ due
  | .stopped _ => True

section

variable {σ δ : Type} (service : Queue.Service σ) (delivery : Backplane.Delivery δ) (b : Backplane)

/-- What can have become of a consumer by some time, and its polls so far, the latest first. A poll
takes the time it takes, and finds the queues and the receiver as others have left them. A consumer
that is ready polls on the spot; for one that sleeps time goes by until it wakes. -/
inductive Run : List Poll → Consumer → Nat → Prop
  | start (s : σ) (now : Nat) : Run [] (start service b s).1 now
  | poll {polls : List Poll} {c : Consumer} {now ended : Nat} (hrun : Run polls c now)
      (hready : c.state = .ready) (hended : now ≤ ended) (s : σ) (d : δ) :
      Run (⟨now, ended, (b.poll service delivery s d).1⟩ :: polls)
        (c.turn service delivery b ended s d).1 ended
  | sleep {polls : List Poll} {c : Consumer} {now later wakeAt : Nat} (hrun : Run polls c now)
      (hsleeping : c.state = .sleeping wakeAt) (hnow : now ≤ later) (hlater : later ≤ wakeAt) :
      Run polls (c.wake later) later
  | stop {polls : List Poll} {c : Consumer} {now : Nat} (hrun : Run polls c now) :
      Run polls c.stop now

end

/-- The polls of a consumer follow the rule, and so will the next one. -/
structure Paced (config : BackplaneConfig) (polls : List Poll) (c : Consumer) (now : Nat) :
    Prop where
  idle : c.idle = idlePolls polls
  spaced : ∀ q p earlier, q :: p :: earlier <:+ polls →
    q.began = p.ended + config.waitAfter (p :: earlier)
  next : ∀ p earlier, polls = p :: earlier → c.Awaits (p.ended + config.waitAfter polls) now

/-! ### What one step keeps -/

theorem start_idle {σ : Type} (service : Queue.Service σ) (b : Backplane) (s : σ) :
    (start service b s).1.idle = 0 := by
  rcases hcreate : service.create b.queue s with ⟨e | u, s'⟩ <;> simp [start, hcreate]

/-- A consumer counts the polls that took nothing, and waits for the time that they call for. -/
theorem observe_paced {c : Consumer} {earlier : List Poll} (config : BackplaneConfig) (p : Poll)
    (hidle : c.idle = idlePolls earlier) :
    (c.observe config p.ended p.outcome).idle = idlePolls (p :: earlier) ∧
      (c.observe config p.ended p.outcome).Awaits
        (p.ended + config.waitAfter (p :: earlier)) p.ended := by
  obtain ⟨began, ended, outcome⟩ := p
  match outcome with
  | .ok (n + 1) =>
    simp [observe, Awaits, BackplaneConfig.waitAfter, idlePolls_cons, Poll.tookNothing]
  | .ok 0 | .error e =>
    simp [observe, Awaits, BackplaneConfig.waitAfter, idlePolls_cons, Poll.tookNothing, hidle]

theorem wake_idle (c : Consumer) (now : Nat) : (c.wake now).idle = c.idle := by
  unfold wake
  split
  · split_ifs <;> rfl
  · rfl

theorem Awaits.wake {c : Consumer} {due now later wakeAt : Nat} (h : c.Awaits due now)
    (hsleeping : c.state = .sleeping wakeAt) (hlater : later ≤ wakeAt) :
    (c.wake later).Awaits due later := by
  obtain ⟨idle, state⟩ := c
  cases hsleeping
  obtain ⟨rfl, -⟩ := h
  unfold Consumer.wake
  dsimp only
  split_ifs with hdue
  · exact Nat.le_antisymm hlater hdue
  · exact ⟨rfl, hlater⟩

theorem stop_idle (c : Consumer) : c.stop.idle = c.idle := by
  unfold stop
  split <;> rfl

theorem awaits_stop (c : Consumer) (due now : Nat) : c.stop.Awaits due now := by
  obtain ⟨idle, state⟩ := c
  cases state <;> trivial

/-! ### Polls of the store -/

/-- A receiver that takes every message. -/
def acceptAll : Backplane.Delivery Unit := fun _ d => (.ok (), d)

/-- A store with the queue of an instance, and nothing on it. -/
def emptyQueue (b : Backplane) : Queue.Store := ({} : Queue.Store).create b.queue

theorem poll_emptyQueue (b : Backplane) :
    (b.poll Queue.Service.ofStore acceptAll (emptyQueue b) ()).1 = .ok 0 := by
  simp [Backplane.poll, Backplane.receive, Queue.Service.ofStore, Queue.Store.receive, emptyQueue,
    Queue.Store.create, Queue.Store.entries?, Queue.leaseFirst]

theorem poll_one (b : Backplane) (body : String) :
    (b.poll Queue.Service.ofStore acceptAll ((emptyQueue b).send b.queue body).2 ()).1 = .ok 1 := by
  obtain ⟨n, hn⟩ : ∃ n, max b.config.batchSize 1 = n + 1 :=
    Nat.exists_eq_add_of_le' (Nat.le_max_right _ 1)
  simp [Backplane.poll, Backplane.receive, hn, Queue.Service.ofStore, Queue.Store.receive,
    emptyQueue, Queue.Store.create, Queue.Store.send, Queue.Store.setEntries,
    Queue.Store.entries?, Queue.leaseFirst]

/-! ### What a run keeps -/

section

variable {σ δ : Type} {service : Queue.Service σ} {delivery : Backplane.Delivery δ} {b : Backplane}
  {polls : List Poll} {c : Consumer} {now : Nat}

theorem turn_of_ready {ended : Nat} {s : σ} {d : δ} (hready : c.state = .ready) :
    (c.turn service delivery b ended s d).1 =
      c.observe b.config ended (b.poll service delivery s d).1 := by
  rw [turn, hready]

theorem Run.poll_of {ended : Nat} {s : σ} {d : δ} {outcome : Except Queue.Error Nat}
    (hrun : Run service delivery b polls c now) (hready : c.state = .ready) (hended : now ≤ ended)
    (houtcome : (b.poll service delivery s d).1 = outcome) :
    Run service delivery b (⟨now, ended, outcome⟩ :: polls) (c.observe b.config ended outcome)
      ended := by
  have hpoll := hrun.poll hready hended s d
  rwa [turn_of_ready hready, houtcome] at hpoll

theorem Run.paced (hrun : Run service delivery b polls c now) : Paced b.config polls c now := by
  induction hrun with
  | start s now => exact ⟨start_idle service b s, by simp, nofun⟩
  | @poll polls c now ended hrun hready hended s d ih =>
    rw [turn_of_ready hready]
    obtain ⟨hidle, hawaits⟩ :=
      observe_paced b.config ⟨now, ended, (b.poll service delivery s d).1⟩ ih.idle
    refine ⟨hidle, fun q p earlier hsuffix => ?_, fun p earlier h => ?_⟩
    · rcases List.suffix_cons_iff.1 hsuffix with h | h
      · -- The poll before has left the consumer ready, so this poll was due just now.
        obtain ⟨rfl, rfl⟩ := List.cons.inj h
        have hnext := ih.next p earlier rfl
        rw [Awaits, hready] at hnext
        exact hnext
      · exact ih.spaced q p earlier h
    · cases h
      exact hawaits
  | sleep hrun hsleeping hnow hlater ih =>
    exact ⟨(wake_idle _ _).trans ih.idle, ih.spaced, fun p earlier h =>
      (ih.next p earlier h).wake hsleeping hlater⟩
  | stop hrun ih =>
    exact ⟨(stop_idle _).trans ih.idle, ih.spaced, fun p earlier h => awaits_stop _ _ _⟩

/-- However many turns a consumer is given at one time, they are polls of its run. -/
theorem Run.turns (hrun : Run service delivery b polls c now) (fuel : Nat) (s : σ) (d : δ) :
    ∃ more, Run service delivery b (more ++ polls) (c.turns service delivery b now fuel s d).1
      now := by
  induction fuel generalizing polls c s d with
  | zero => exact ⟨[], hrun⟩
  | succ fuel ih =>
    unfold Consumer.turns
    split
    · next hready =>
      have hpoll := hrun.poll hready le_rfl s d
      obtain ⟨more, hmore⟩ := ih hpoll (c.turn service delivery b now s d).2.1
        (c.turn service delivery b now s d).2.2
      exact ⟨more ++ [_], by simpa using hmore⟩
    · exact ⟨[], hrun⟩

/-- The loop goes on as long as it is let: once it has started, its polls may come out in every way
that a poll can. -/
theorem exists_run {s : σ} (hstart : (start service b s).1.state = .ready) :
    ∀ {outcomes : List (Except Queue.Error Nat)},
      (∀ o ∈ outcomes, ∃ s d, (b.poll service delivery s d).1 = o) →
        ∃ polls c now, Run service delivery b polls c now ∧ c.state = .ready ∧
          polls.map Poll.outcome = outcomes
  | [], _ => ⟨[], _, 0, .start s 0, hstart, rfl⟩
  | o :: outcomes, h => by
    obtain ⟨⟨s', d, ho⟩, hrest⟩ := List.forall_mem_cons.1 h
    obtain ⟨polls, c, now, hrun, hready, rfl⟩ := exists_run hstart hrest
    have hpoll := hrun.poll_of hready le_rfl ho
    match o with
    | .ok (n + 1) => exact ⟨_, _, _, hpoll, rfl, rfl⟩
    | .ok 0 | .error e =>
      refine ⟨_, _, _, hpoll.sleep rfl (Nat.le_add_right _ _) le_rfl, ?_, rfl⟩
      simp [wake, observe]

/-- Polls follow one another at the waits of the configuration: at once after a poll that took
something, and otherwise after the wait for as many polls as took nothing in a row. The next poll
is due at such a time as well. If the settings fit into words, so does the wait. -/
theorem Run.polls_follow_backoff (hrun : Run service delivery b polls c now) :
    (∀ q p earlier, q :: p :: earlier <:+ polls →
        q.began = p.ended + b.config.waitAfter (p :: earlier)) ∧
      (∀ p earlier, polls = p :: earlier → c.Awaits (p.ended + b.config.waitAfter polls) now) ∧
      b.config.BacksOff ∧
      (b.config.InWords → b.config.wordDelay (wordIdlePolls polls) =
        some (.ofMillis (b.config.delay (idlePolls polls)))) :=
  ⟨hrun.paced.spaced, hrun.paced.next, b.config.backsOff,
    fun h => BackplaneConfig.wordDelay_wordIdlePolls h polls⟩

end

/-- An instance with the default settings. -/
def usual : Backplane := { instanceId := "a" }

theorem Run.polls_follow_backoff_usual : ∃ c,
    Run Queue.Service.ofStore acceptAll usual
        [⟨112, 120, .ok 0⟩, ⟨7, 12, .ok 0⟩, ⟨0, 7, .ok 1⟩] c 120 ∧
      c.Awaits 320 120 ∧ usual.config.wordDelay 2 = some ⟨0, 200000000⟩ := by
  have hstart : Run Queue.Service.ofStore acceptAll usual [] {} 0 := .start (emptyQueue usual) 0
  have hfirst := hstart.poll_of rfl (by decide : 0 ≤ 7) (poll_one usual "x")
  have hsecond := hfirst.poll_of rfl (by decide : 7 ≤ 12) (poll_emptyQueue usual)
  have hwoken := hsecond.sleep rfl (by decide : 12 ≤ 112) le_rfl
  have hthird := hwoken.poll_of rfl (by decide : 112 ≤ 120) (poll_emptyQueue usual)
  obtain ⟨-, hnext, -, hwords⟩ := hthird.polls_follow_backoff
  exact ⟨_, hthird, hnext _ _ rfl, hwords ⟨by decide, by decide⟩⟩

/-- An instance that waits for a millisecond at first, and for a thousand seconds at most. -/
def patient : Backplane :=
  { instanceId := "a", config := { minPollInterval := 1, maxPollInterval := 1000000 } }

/-- After the eighteenth empty poll in a row the wait has stopped growing, far below the ceiling. -/
theorem Run.wait_stops_below_far_ceiling : ∃ q p earlier c now,
    Run Queue.Service.ofStore acceptAll patient (q :: p :: earlier) c now ∧
      idlePolls (p :: earlier) = 18 ∧ q.began = p.ended + 65536 ∧
      min (patient.config.minPollInterval * 2 ^ (18 - 1)) patient.config.ceiling = 131072 := by
  have hpolls : ∀ o ∈ List.replicate 19 (Except.ok 0), ∃ s d,
      (patient.poll Queue.Service.ofStore acceptAll s d).1 = o := fun o ho => by
    obtain rfl := List.eq_of_mem_replicate ho
    exact ⟨_, _, poll_emptyQueue patient⟩
  have hstart : (Consumer.start Queue.Service.ofStore patient (emptyQueue patient)).1.state =
      .ready := rfl
  obtain ⟨polls, c, now, hrun, -, houtcomes⟩ := exists_run hstart hpolls
  have hempty : ∀ p ∈ polls, p.outcome = .ok 0 := fun p hp =>
    List.eq_of_mem_replicate (houtcomes ▸ List.mem_map_of_mem hp)
  have hlength : polls.length = 19 := by simpa using congrArg List.length houtcomes
  match polls with
  | q :: p :: earlier =>
    have hidle : idlePolls (p :: earlier) = 18 := by
      rw [idlePolls_eq_length fun r hr => hempty r (List.mem_cons_of_mem _ hr)]
      simpa using hlength
    have hbegan := hrun.paced.spaced q p earlier List.suffix_rfl
    have hwait : patient.config.delay 18 = 65536 := by decide
    rw [BackplaneConfig.waitAfter, hidle, if_neg (by decide), hwait] at hbegan
    exact ⟨q, p, earlier, c, now, hrun, hidle, hbegan, by decide⟩

end Consumer

end SessionRelay
