import SessionRelay.Queue.Service

/-!
# Rehearsing failures

A queue service for trying things out: its next calls of a kind can be made to fail, and it keeps a
log of the polls and of what was sent. A call that fails has no effect.
-/

namespace SessionRelay.Queue

/-- The calls that can be made to fail. -/
inductive CallKind
  | create
  | drop
  | send
  | receive
  | delete
  deriving DecidableEq

def CallKind.name : CallKind → String
  | .create => "create"
  | .drop => "delete_queue"
  | .send => "send"
  | .receive => "receive"
  | .delete => "delete"

def CallKind.ofName? (name : String) : Option CallKind :=
  [.create, .drop, .send, .receive, .delete].find? fun kind => kind.name == name

structure Rehearsal where
  store : Store := {}
  /-- How many of the next calls of a kind fail. -/
  failures : CallKind → Nat := fun _ => 0
  /-- The queues that were polled, each with the time. -/
  polls : List (String × Nat) := []
  /-- What was sent, each with its queue. -/
  sent : List (String × String) := []
  /-- Every queue that was ever created. -/
  known : List String := []

namespace Rehearsal

def setFailures (r : Rehearsal) (kind : CallKind) (count : Nat) : Rehearsal :=
  { r with failures := fun k => if k = kind then count else r.failures k }

/-- The planned failure of a call. -/
def failure (kind : CallKind) : Error := .failed ("injected " ++ kind.name ++ " failure")

/-- Makes a call, unless it is to fail. -/
def attempt {α : Type} (kind : CallKind) (call : Store → Except Error α × Store) (r : Rehearsal) :
    Except Error α × Rehearsal :=
  match r.failures kind with
  | 0 =>
    let (result, store) := call r.store
    (result, { r with store })
  | left + 1 => (.error (failure kind), r.setFailures kind left)

/-- Remembers what was sent if it was. -/
def logSent (queue body : String) : Except Error Unit × Rehearsal → Except Error Unit × Rehearsal
  | (.ok (), r) => (.ok (), { r with sent := r.sent ++ [(queue, body)] })
  | failed => failed

/-- Remembers a queue that was created. -/
def logCreated (queue : String) : Except Error Unit × Rehearsal → Except Error Unit × Rehearsal
  | (.ok (), r) =>
    (.ok (), if queue ∈ r.known then r else { r with known := r.known ++ [queue] })
  | failed => failed

def service : Service Rehearsal :=
  { create := fun queue r =>
      logCreated queue (r.attempt .create fun s => Service.ofStore.create queue s)
    drop := fun queue r => r.attempt .drop fun s => Service.ofStore.drop queue s
    send := fun queue body r => logSent queue body (r.attempt .send fun s => s.send queue body)
    receive := fun queue max timeout r =>
      { r with polls := r.polls ++ [(queue, r.store.now)] }.attempt .receive fun s =>
        s.receive queue max timeout
    delete := fun queue id receipt r => r.attempt .delete fun s => s.delete queue id receipt
    elapse := fun ms r => { r with store := r.store.advance ms } }

/-- Empties the log. -/
def clearLog (r : Rehearsal) : Rehearsal := { r with polls := [], sent := [] }

/-- The queues that were ever created, with their lengths unless they are gone. -/
def lengths (r : Rehearsal) : List (String × Option Nat) :=
  r.known.map fun queue => (queue, (r.store.entries? queue).map List.length)

end Rehearsal

end SessionRelay.Queue
