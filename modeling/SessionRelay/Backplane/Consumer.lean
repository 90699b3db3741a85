import SessionRelay.Backplane.Relay

/-!
# The consumer loop

An instance polls its queue over and over. After a poll that took something the next one follows at
once; otherwise the wait doubles with every poll until it reaches its ceiling.
-/

namespace SessionRelay

/-- How many doublings of the wait there are at most. -/
def BackplaneConfig.maxDoublings : Nat := 16

/-- The wait in milliseconds after so many polls in a row that took nothing. -/
def BackplaneConfig.delay (c : BackplaneConfig) (idle : Nat) : Nat :=
  min (c.minPollInterval * Nat.pow 2 (min (idle - 1) BackplaneConfig.maxDoublings)) c.ceiling

/-- Where a consumer is in its loop. -/
inductive ConsumerState
  | ready
  | sleeping (wakeAt : Nat)
  | stopped (result : Except Queue.Error Unit)

structure Consumer where
  /-- Polls in a row that took nothing. -/
  idle : Nat := 0
  state : ConsumerState := .ready

namespace Consumer

/-- Starts a consumer: its queue has to be there. -/
def start {σ : Type} (service : Queue.Service σ) (b : Backplane) (s : σ) : Consumer × σ :=
  match service.create b.queue s with
  | (.ok (), s) => ({}, s)
  | (.error e, s) => ({ state := .stopped (.error e) }, s)

/-- What a poll does to the loop. -/
def observe (c : Consumer) (config : BackplaneConfig) (now : Nat) (outcome : Except Queue.Error Nat) :
    Consumer :=
  match outcome with
  | .ok (_ + 1) => { idle := 0, state := .ready }
  | .ok 0 | .error _ =>
    { idle := c.idle + 1, state := .sleeping (now + config.delay (c.idle + 1)) }

/-- Ends the loop of a consumer that is not stopped already. -/
def stop (c : Consumer) : Consumer :=
  match c.state with
  | .stopped _ => c
  | _ => { c with state := .stopped (.ok ()) }

/-- Wakes a consumer whose time has come. -/
def wake (c : Consumer) (now : Nat) : Consumer :=
  match c.state with
  | .sleeping wakeAt => if wakeAt ≤ now then { c with state := .ready } else c
  | _ => c

/-- One turn of the loop: a consumer that is ready polls. -/
def turn {σ δ : Type} (service : Queue.Service σ) (delivery : Backplane.Delivery δ) (b : Backplane)
    (now : Nat) (c : Consumer) (s : σ) (d : δ) : Consumer × σ × δ :=
  match c.state with
  | .ready =>
    let (outcome, s, d) := b.poll service delivery s d
    (c.observe b.config now outcome, s, d)
  | _ => (c, s, d)

/-- Turns until the consumer waits, at most so many. -/
def turns {σ δ : Type} (service : Queue.Service σ) (delivery : Backplane.Delivery δ) (b : Backplane)
    (now : Nat) : Nat → Consumer → σ → δ → Consumer × σ × δ
  | 0, c, s, d => (c, s, d)
  | fuel + 1, c, s, d =>
    match c.state with
    | .ready =>
      let (c, s, d) := turn service delivery b now c s d
      turns service delivery b now fuel c s d
    | _ => (c, s, d)

/-- When a sleeping consumer wakes. -/
def wakeTime? (c : Consumer) : Option Nat :=
  match c.state with
  | .sleeping wakeAt => some wakeAt
  | _ => none

end Consumer

end SessionRelay
