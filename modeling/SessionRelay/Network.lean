import SessionRelay.Backplane.Cluster
import SessionRelay.Server.Schedule

/-!
# Networks of instances

Instances behind their routes that share one queue service. Whatever can go on goes on until
everything waits, and time passes only in between. The exchanges go on first, each as far as it can.
Then whatever can be done inside the instances forms a line in the order in which it became
possible: the first in line goes on until it waits, and what it makes possible stands behind the
rest. Only when the line is empty does an exchange that waited go on.
-/

namespace SessionRelay

structure Network (σ : Type) where
  cluster : Cluster σ Server
  /-- The signals given so far. -/
  signals : List String := []
  /-- The replies to finished exchanges, with instance and number. -/
  replies : List (Nat × Nat × Reply) := []

namespace Network

variable {σ : Type} (service : Queue.Service σ)

def server? (n : Network σ) (place : Nat) : Option Server :=
  (n.cluster.node? place).map Node.owner

/-- Changes one instance. -/
def modify (n : Network σ) (place : Nat) (f : Server → Server) : Network σ :=
  { n with cluster := n.cluster.modify place f }

/-- One step inside an instance. -/
def act (n : Network σ) (place : Nat) (a : Act) : Network σ :=
  n.modify place fun v => v.act n.signals n.cluster.now a

/-- One step of an exchange. -/
def stepExchange (n : Network σ) (place number : Nat) : Network σ :=
  match n.server? place with
  | none => n
  | some v =>
    let (reply, v, queues) := v.stepExchange service n.cluster.now number n.cluster.queues
    let n := n.modify place fun _ => v
    let n := { n with cluster := { n.cluster with queues } }
    match reply with
    | some reply => { n with replies := n.replies ++ [(place, number, reply)] }
    | none => n

/-! ### Settling -/

/-- The instances with their places. -/
def placed (n : Network σ) : List (Server × Nat) := (n.cluster.nodes.map Node.owner).zipIdx

/-- All that can be done inside the instances. -/
def acts (n : Network σ) : List (Nat × Act) :=
  n.placed.flatMap fun (v, place) => (v.acts n.signals n.cluster.now).map (place, ·)

/-- Does what stands in line, at most so many steps. -/
def runLine : Nat → List (Nat × Act) → Network σ → Network σ
  | 0, _, n => n
  | fuel + 1, line, n =>
    let acts := n.acts
    match line ++ acts.filter fun a => !line.contains a with
    | [] => n
    | a :: rest =>
      if acts.contains a then runLine fuel (a :: rest) (n.act a.1 a.2) else runLine fuel rest n

/-- An exchange that can go on, by the place of its instance and its number. -/
def readyExchange? (n : Network σ) : Option (Nat × Nat) :=
  n.placed.findSome? fun (v, place) =>
    (v.exchanges.find? v.canProceed).map fun e => (place, e.number)

/-- Lets every exchange go on as far as it can, at most so many steps in all. -/
def runExchanges : Nat → Network σ → Network σ
  | 0, n => n
  | fuel + 1, n =>
    match n.readyExchange? with
    | some (place, number) => runExchanges fuel (n.stepExchange service place number)
    | none => n

/-- Steps after which a network is taken to go on forever. -/
def patience : Nat := 100000

/-- Goes on until everything waits, at most so many rounds. -/
def settleFor : Nat → Network σ → Network σ
  | 0, n => n
  | fuel + 1, n =>
    let n := runLine patience [] (n.runExchanges service patience)
    if n.readyExchange?.isSome then settleFor fuel n else n

def settle (n : Network σ) : Network σ := n.settleFor service patience

/-! ### What comes from outside -/

def withQueues (n : Network σ) (queues : σ) : Network σ :=
  { n with cluster := { n.cluster with queues } }

/-- A request for an instance. -/
def request (n : Network σ) (place : Nat) (draw : Draw) (r : Http.Request) :
    Option Admission × Network σ :=
  match n.server? place with
  | none => (none, n)
  | some v =>
    let (admission, v) := v.receive n.cluster.now draw r
    (some admission, n.modify place fun _ => v)

/-- The reply to an exchange, once it is over. -/
def reply? (n : Network σ) (place : Nat) : Admission → Option Reply
  | .replied reply => some reply
  | .started number =>
    (n.replies.find? fun (p, k, _) => p == place && k == number).map fun (_, _, reply) => reply

/-- Serves a request until everything waits. -/
def serve (n : Network σ) (place : Nat) (draw : Draw) (r : Http.Request) :
    Option Reply × Network σ :=
  let (admission, n) := n.request place draw r
  let n := n.settle service
  (admission.bind (n.reply? place), n)

/-- Delivers a message, waiting for room if need be. -/
def deliver (n : Network σ) (place : Nat) (client : ClientState) (message : Rpc.Message) :
    Except Fault Unit × Network σ :=
  let lost : Fault := .sessionNotFound client.clientId
  match n.server? place with
  | none => (.error lost, n)
  | some v =>
    let (handed, v, queues) := v.deliver service client message n.cluster.queues
    let n := ((n.modify place fun _ => v).withQueues queues).settle service
    match handed with
    | .queued => (.ok (), n)
    | .failed fault => (.error fault, n)
    | .waiting slot =>
      match (n.server? place).bind fun v => v.settle? slot with
      | some (true, v) => (.ok (), (n.modify place fun _ => v).settle service)
      | _ => (.error lost, n)

/-- The clients forget what they have read. -/
def clearReceived (n : Network σ) : Network σ :=
  { n with
    cluster :=
      { n.cluster with
        nodes := n.cluster.nodes.map fun x => { x with owner := x.owner.clearReceived } } }

/-- Gives a signal that handlers may wait for. -/
def signal (n : Network σ) (name : String) : Network σ := { n with signals := name :: n.signals }

def poll (n : Network σ) (place : Nat) : Except Queue.Error Nat × Network σ :=
  let (result, cluster) := n.cluster.poll service Server.takeRelayed place
  (result, { n with cluster })

/-- Starts the consumer of an instance. -/
def run (n : Network σ) (place : Nat) : Network σ :=
  { n with cluster := n.cluster.run service Server.takeRelayed place }

/-! ### Time -/

/-- When a sign of life is due on a stream that is read. -/
def nextSign? (n : Network σ) : Option Nat :=
  (n.placed.flatMap fun (v, _) =>
    (v.bodies.filter fun body => body.attention = .reads).filterMap EventBody.due).min?

/-- When something happens by itself. -/
def nextTime? (n : Network σ) : Option Nat :=
  match n.cluster.nextWake?, n.nextSign? with
  | some a, some b => some (min a b)
  | a, b => a.or b

/-- Lets the clock show a time, and everything go on that waited for it. -/
def reach (n : Network σ) (time : Nat) : Network σ :=
  settle service
    { n with cluster := (n.cluster.tick service time).wake service Server.takeRelayed }

/-- Moves the clock up to a time, from one event to the next, at most so many. -/
def advanceTo (target : Nat) : Nat → Network σ → Network σ
  | 0, n => n.reach service target
  | fuel + 1, n =>
    match n.nextTime? with
    | some time =>
      if time ≤ target then advanceTo target fuel (n.reach service time)
      else n.reach service target
    | none => n.reach service target

/-- Lets time pass. -/
def advance (n : Network σ) (ms : Nat) : Network σ :=
  n.advanceTo service (n.cluster.now + ms) patience

end Network

end SessionRelay
