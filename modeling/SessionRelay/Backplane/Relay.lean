import SessionRelay.Backplane.Envelope
import SessionRelay.Backplane.QueueName
import SessionRelay.Config
import SessionRelay.Fault
import SessionRelay.Queue.Service

/-!
# Relaying over queues

Every instance polls the queue with its name. An entry for this instance is handed over and then
deleted, an entry nobody can read is deleted, and one for another instance is moved to the queue of
that instance, or left alone if both share a queue. What fails in between leaves the entry on the
queue. A poll proceeds in steps of one call each, so that other things may happen in between.
-/

namespace SessionRelay

/-- A queue service that failed, as a fault of the relay. -/
instance : ToFault Queue.Error := ⟨fun e => .backplane e.message⟩

/-- An instance as a receiver of relayed messages. -/
structure Backplane where
  instanceId : String
  config : BackplaneConfig := {}

namespace Backplane

/-- The queue of the instance. -/
def queue (b : Backplane) : String := QueueName.ofInstance b.instanceId

/-- Puts a message on the queue of the instance it is for, which need not exist yet. -/
def send {σ : Type} (service : Queue.Service σ) (envelope : Envelope) (s : σ) :
    Except Queue.Error Unit × σ :=
  let queue := QueueName.ofInstance envelope.target
  match service.create queue s with
  | (.error e, s) => (.error e, s)
  | (.ok (), s) => service.send queue envelope.text s

/-- Who takes relayed messages, with states in `δ`. -/
abbrev Delivery (δ : Type) := Envelope → δ → Except Fault Unit × δ

/-- What is to be done next with an entry. -/
inductive Task
  | read (entry : Queue.Lease)
  | handOver (entry : Queue.Lease) (envelope : Envelope)
  | prepare (entry : Queue.Lease) (queue : String)
  | move (entry : Queue.Lease) (queue : String)
  | delete (entry : Queue.Lease)

/-- What an entry turns out to be. -/
def classify (b : Backplane) (entry : Queue.Lease) : List Task :=
  match Envelope.ofText? entry.body with
  | none => [.delete entry]
  | some envelope =>
    if envelope.target = b.instanceId then [.handOver entry envelope]
    else
      let queue := QueueName.ofInstance envelope.target
      if queue = b.queue then [] else [.prepare entry queue]

section

variable {σ δ : Type} (service : Queue.Service σ) (delivery : Delivery δ)

/-- Carries out one task. Gives the tasks that follow from it. -/
def perform (b : Backplane) (task : Task) (s : σ) (d : δ) : List Task × σ × δ :=
  match task with
  | .read entry => (b.classify entry, s, d)
  | .handOver entry envelope =>
    match delivery envelope d with
    | (.ok (), d) => ([.delete entry], s, d)
    | (.error _, d) => ([], s, d)
  | .prepare entry queue =>
    match service.create queue s with
    | (.ok (), s) => ([.move entry queue], s, d)
    | (.error _, s) => ([], s, d)
  | .move entry queue =>
    match service.send queue entry.body s with
    | (.ok (), s) => ([.delete entry], s, d)
    | (.error _, s) => ([], s, d)
  | .delete entry => ([], (service.delete b.queue entry.id entry.receipt s).2, d)

/-- Carries out the first task of a poll. -/
def step (b : Backplane) (tasks : List Task) (s : σ) (d : δ) : List Task × σ × δ :=
  match tasks with
  | [] => ([], s, d)
  | task :: rest =>
    let (next, s, d) := b.perform service delivery task s d
    (next ++ rest, s, d)

/-- Steps that finish a poll: no entry takes more than four. -/
def steps (b : Backplane) : Nat → List Task → σ → δ → σ × δ
  | 0, _, s, d => (s, d)
  | count + 1, tasks, s, d =>
    let (tasks, s, d) := b.step service delivery tasks s d
    steps b count tasks s d

/-- Takes the entries of one poll. -/
def receive (b : Backplane) (s : σ) : Except Queue.Error (List Queue.Lease) × σ :=
  service.receive b.queue (max b.config.batchSize 1) b.config.visibilityTimeout s

/-- A whole poll: how many entries it took. -/
def poll (b : Backplane) (s : σ) (d : δ) : Except Queue.Error Nat × σ × δ :=
  match b.receive service s with
  | (.error e, s) => (.error e, s, d)
  | (.ok entries, s) =>
    let (s, d) := b.steps service delivery (4 * entries.length) (entries.map .read) s d
    (.ok entries.length, s, d)

end

end Backplane

end SessionRelay
