import SessionRelay.Http.Octets
import SessionRelay.Network
import SessionRelay.Startup
import Std.Async

/-!
# The program

Serves the demo registry over HTTP from the settings it is started with, until it is interrupted. An
instance on its own is a network of one. Sockets, clocks and files are met only here: what a request
or the passing of time does to the network is decided elsewhere.
-/

namespace SessionRelay.Program

open Std.Async

abbrev State := Network Queue.Store

def service : Queue.Service Queue.Store := .ofStore

/-- The place of the only instance. -/
def place : Nat := 0

/-- The instance before the first request, with its consumer. -/
def initial (plan : Startup.Plan) : State :=
  let table : SessionTable :=
    { instanceId := plan.instanceId, codec := plan.codec,
      capacity := plan.config.inboundQueueCapacity }
  let node : Node Server :=
    { backplane := ⟨plan.instanceId, plan.config.backplane⟩
      owner :=
        { site := .ofConfig plan.config, router := Demo.router plan.config plan.instanceId 0, table,
          linked := true } }
  Network.run service { cluster := { queues := {}, nodes := [node] } } place

/-- A running program. -/
structure Host where
  plan : Startup.Plan
  state : Std.Mutex State
  startedAt : Nat

namespace Host

/-- Changes the network once the time that has passed has had its effect. -/
def update {α : Type} (h : Host) (f : State → α × State) : IO α := do
  let elapsed := (← IO.monoMsNow) - h.startedAt
  h.state.atomically (modifyGet fun n => f (n.advance service (elapsed - n.cluster.now)))

/-- A client id and a nonce that nobody can guess. -/
def draw : IO Draw := do
  let bytes ← IO.getRandomBytes 28
  let digits := (bytes.toList.take 16).flatMap fun b => Nat.toDigits 16 (256 + b.toNat) |>.drop 1
  return { clientId := String.ofList digits, nonce := bytes.toList.drop 16 }

/-- Lets the instance receive a request at the time it is. -/
def receive (h : Host) (request : Http.Request) : IO (Option Admission) := do
  let draw ← draw
  let now := (← Std.Time.Timestamp.now).toSecondsSinceUnixEpoch.val.toNat
  let router := Demo.router h.plan.config h.plan.instanceId now
  h.update fun n =>
    let n := n.modify place fun v => { v with router }
    let (admission, n) := n.request place draw request
    (admission, n.settle service)

/-- What is new on a stream, and whether it is over. -/
def collect (h : Host) (number : Nat) : IO (String × Bool) :=
  h.update fun n =>
    let n := (n.modify place fun v => v.startReading number).settle service
    match n.server? place with
    | none => (("", true), n)
    | some v =>
      let (text, v) := v.collect number
      let isOver := v.bodies[number]?.all fun body => body.attention ≠ .reads
      ((text, isOver), n.modify place fun _ => v)

end Host

/-! ### Connections -/

/-- Reads one request; there is none if the client goes away or sends something else. -/
partial def readRequest (client : TCP.Socket.Client) (seen : ByteArray) :
    Async (Option Http.Request) := do
  match Http.Arrival.ofBytes seen.toList with
  | .complete request => return some request
  | .malformed => return none
  | .incomplete =>
    match ← client.recv? 65536 with
    | some more => readRequest client (seen ++ more)
    | none => return none

/-- Waits for the reply to a request. -/
partial def awaitReply (h : Host) (admission : Admission) : Async Reply := do
  match ← h.update fun n => (n.reply? place admission, n) with
  | some reply => return reply
  | none =>
    sleep 10
    awaitReply h admission

/-- Sends what is written on a stream until it is over. -/
partial def sendStream (h : Host) (client : TCP.Socket.Client) (number : Nat) : Async Unit := do
  let (text, isOver) ← h.collect number
  if text ≠ "" then client.send text.toUTF8
  if isOver then client.shutdown
  else
    sleep 20
    sendStream h client number

/-- Serves one request. A client that cannot be written to has gone away. -/
def serve (h : Host) (client : TCP.Socket.Client) : Async Unit := do
  match ← readRequest client .empty with
  | none => client.shutdown
  | some request =>
    match ← h.receive request with
    | none => client.shutdown
    | some admission =>
      match ← awaitReply h admission with
      | .plain response =>
        client.send response.spell.toUTF8
        client.shutdown
      | .stream headers number =>
        try
          client.send (Http.head 200 headers).toUTF8
          sendStream h client number
        catch _ => h.update fun n => ((), (n.modify place fun v => v.dropBody number).settle service)

partial def acceptAll (h : Host) (socket : TCP.Socket.Server) : Async Unit := do
  let client ← socket.accept
  background do
    try serve h client
    catch _ => pure ()
  acceptAll h socket

/-- Lets time have its effect while nobody asks for anything. -/
partial def keepTime (h : Host) : Async Unit := do
  h.update fun n => ((), n)
  sleep 100
  keepTime h

/-! ### Starting and stopping -/

def readConfig (path : String) : IO Config.FileState := do
  try return .content (← IO.FS.readBinFile path).toList
  catch
    | .noFileOrDirectory .. => return .missing
    | .inappropriateType .. => return .directory
    | e => return .unreadable (toString e)

/-- The values of the variables that are set. -/
def environment : IO (List (String × String)) :=
  Config.variableNames.filterMapM fun name => return (← IO.getEnv name).map (name, ·)

/-- The name of an instance that is given none. -/
def detectId : IO String := do
  let host ← System.getHostName
  return host ++ "-" ++ toString (← Std.Internal.UV.System.osGetPid).toNat

def bind (address : String) (port : Nat) : Async TCP.Socket.Server := do
  let host := String.ofList ((address.toList.reverse.dropWhile (· ≠ ':')).drop 1).reverse
  let found : Array Std.Net.IPAddr ← DNS.getAddrInfo host ""
  let socket ← TCP.Socket.Server.mk
  match found.toList with
  | .v4 ip :: _ => socket.bind (.v4 ⟨ip, port.toUInt16⟩)
  | .v6 ip :: _ => socket.bind (.v6 ⟨ip, port.toUInt16⟩)
  | [] => throw (.userError "no address found")
  socket.listen 128
  return socket

/-- Serves until an interrupt, and then closes every session. -/
def run (plan : Startup.Plan) (socket : TCP.Socket.Server) : IO Unit := do
  let h : Host :=
    { plan, state := ← Std.Mutex.new (initial plan), startedAt := ← IO.monoMsNow }
  let interrupt ← (← Signal.Waiter.mk .sigint false).wait
  (background (keepTime h) : Async Unit).block
  (background (acceptAll h socket) : Async Unit).block
  discard interrupt.block
  h.update fun n => ((), (n.modify place Server.closeAll).settle service)
  IO.sleep 100

end SessionRelay.Program

open SessionRelay in
def main (arguments : List String) : IO UInt32 := do
  let file ←
    match CommandLine.parse arguments with
    | .ok known => Program.readConfig known.config
    | .error _ => pure .missing
  let values ← Program.environment
  let outcome := Startup.start arguments (fun _ => file) (fun name => values.lookup name) (← Program.detectId)
  let outcome ←
    match outcome with
    | .ready plan port =>
      try
        let socket ← (Program.bind plan.address port).block
        Program.run plan socket
        pure outcome
      catch e => pure (.failed (Startup.bindFault plan.address (toString e)))
    | outcome => pure outcome
  match outcome with
  | .usage .displayHelp => IO.print CommandLine.usage
  | .usage e => IO.eprint ("error: " ++ e.message ++ "\n\n" ++ CommandLine.usage)
  | outcome =>
    if let some line := outcome.errorLine? then IO.eprintln line
  return outcome.exitCode.toUInt32
