import SessionRelay.Backplane.Consumer

/-!
# Clusters

Instances that share a queue service, with the consumers that run for them and one clock. A consumer
goes on until it sleeps, and wakes when its time comes; consumers that wake at the same time go on
in the order in which they fell asleep.
-/

namespace SessionRelay

/-- An instance in a cluster, with the state of whatever takes its messages. -/
structure Node (δ : Type) where
  backplane : Backplane
  /-- Whether its consumers have been told to stop. -/
  shut : Bool := false
  owner : δ

structure Cluster (σ δ : Type) where
  now : Nat := 0
  queues : σ
  nodes : List (Node δ) := []
  /-- Consumers that sleep, with the places of their nodes, in the order in which they fell asleep. -/
  sleepers : List (Nat × Consumer) := []
  /-- How the consumers of nodes have ended. -/
  stopped : List (Nat × Except Queue.Error Unit) := []

/-- How many polls in a row a consumer makes at most before others get their turn. -/
def Consumer.patience : Nat := 10000

namespace Cluster

variable {σ δ : Type} (service : Queue.Service σ) (delivery : Backplane.Delivery δ)

def node? (c : Cluster σ δ) (place : Nat) : Option (Node δ) := c.nodes[place]?

def modify (c : Cluster σ δ) (place : Nat) (f : δ → δ) : Cluster σ δ :=
  { c with nodes := c.nodes.modify place fun n => { n with owner := f n.owner } }

/-- The place of an instance. -/
def find? (c : Cluster σ δ) (instanceId : String) : Option Nat :=
  c.nodes.findIdx? fun n => n.backplane.instanceId == instanceId

/-- Lets one node poll once. -/
def poll (c : Cluster σ δ) (place : Nat) : Except Queue.Error Nat × Cluster σ δ :=
  match c.node? place with
  | none => (.ok 0, c)
  | some node =>
    let (result, queues, owner) := node.backplane.poll service delivery c.queues node.owner
    (result, { c.modify place fun _ => owner with queues })

/-- Lets a consumer go on until it sleeps or stops. -/
def resume (c : Cluster σ δ) (place : Nat) (consumer : Consumer) : Cluster σ δ :=
  match c.node? place with
  | none => c
  | some node =>
    let consumer := if node.shut then consumer.stop else consumer
    let (consumer, queues, owner) :=
      consumer.turns service delivery node.backplane c.now Consumer.patience c.queues node.owner
    let c := { c.modify place fun _ => owner with queues }
    match consumer.state with
    | .stopped result => { c with stopped := c.stopped ++ [(place, result)] }
    | _ => { c with sleepers := c.sleepers ++ [(place, consumer)] }

/-- Starts a consumer for a node. -/
def run (c : Cluster σ δ) (place : Nat) : Cluster σ δ :=
  match c.node? place with
  | none => c
  | some node =>
    let (consumer, queues) := Consumer.start service node.backplane c.queues
    { c with queues }.resume service delivery place consumer

/-- Stops the consumers of a node and drops its queue; a queue that cannot be dropped stays. -/
def shutDown (c : Cluster σ δ) (place : Nat) : Cluster σ δ :=
  match c.node? place with
  | none => c
  | some node =>
    let (_, queues) := service.drop node.backplane.queue c.queues
    let (mine, others) := c.sleepers.partition fun sleeper => sleeper.1 == place
    { c with
      queues
      nodes := c.nodes.set place { node with shut := true }
      sleepers := others
      stopped := c.stopped ++ mine.map fun _ => (place, .ok ()) }

/-! ### Time -/

/-- When the first sleeper wakes. -/
def nextWake? (c : Cluster σ δ) : Option Nat :=
  (c.sleepers.filterMap fun sleeper => sleeper.2.wakeTime?).min?

/-- Moves the clock, never back. -/
def tick (c : Cluster σ δ) (time : Nat) : Cluster σ δ :=
  { c with now := max time c.now, queues := service.elapse (time - c.now) c.queues }

/-- Wakes the sleepers whose time has come. -/
def wake (c : Cluster σ δ) : Cluster σ δ :=
  let (awake, asleep) := c.sleepers.partition fun sleeper =>
    match sleeper.2.wakeTime? with
    | some time => time ≤ c.now
    | none => true
  awake.foldl (fun c sleeper => c.resume service delivery sleeper.1 (sleeper.2.wake c.now))
    { c with sleepers := asleep }

/-- Moves the clock up to a time, from one wake to the next, at most so many. -/
def advanceTo (target : Nat) : Nat → Cluster σ δ → Cluster σ δ
  | 0, c => c.tick service target
  | fuel + 1, c =>
    match c.nextWake? with
    | some time =>
      if time ≤ target then
        advanceTo target fuel ((c.tick service time).wake service delivery)
      else c.tick service target
    | none => c.tick service target

end Cluster

end SessionRelay
