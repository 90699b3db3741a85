import SessionRelay.Server.Exchange

/-!
# What goes on inside an instance

Sessions, jobs, watchers and readers go on side by side, one step at a time. Any order of the steps
that can be made is a possible run.
-/

namespace SessionRelay

/-- A step that an instance makes by itself. -/
inductive Act
  /-- A session takes its next message. -/
  | pump (session : Nat)
  /-- A session that was told to stop takes no more messages. -/
  | stopPump (session : Nat)
  /-- The watcher of a session ends it if it is due. -/
  | watch (session : Nat)
  /-- A job goes on. -/
  | work (session ticket : Nat)
  /-- A client reads on. -/
  | read (body : Nat)
  /-- The next relayed message is handed over. -/
  | handOver
  deriving DecidableEq

namespace Server

/-! ### Reading -/

/-- Something is written on a stream, so that the next sign of life is due later. -/
def write (v : Server) (now number : Nat) (body : EventBody) (text : String) : Server :=
  { v with
    bodies := v.bodies.set number
      { body with
        received := body.received ++ [text]
        due := v.site.keepAlive.map (now + ·) } }

/-- Whether a sign of life is due. -/
def EventBody.isDue (body : EventBody) (now : Nat) : Bool :=
  match body.due with
  | some due => due ≤ now
  | none => false

/-- A client reads on: the next event, a sign of life, or the end. -/
def readBody (v : Server) (now number : Nat) : Server :=
  match v.bodies[number]? with
  | none => v
  | some body =>
    if body.attention ≠ .reads then v
    else
      match (v.table.session? body.session).map Session.next with
      | none => v
      | some (.event event, s) =>
        (v.modify body.session fun _ => s).write now number body (Http.EventStream.ofEvent event)
      | some (.pending, s) =>
        let v := v.modify body.session fun _ => s
        if EventBody.isDue body now then v.write now number body Http.EventStream.keepAliveComment
        else v
      | some (.finished, s) | some (.absent, s) =>
        { v.modify body.session fun _ => s with
          bodies := v.bodies.set number { body with attention := .sawEnd } }

/-- Whether there is anything to read. -/
def hasNews (v : Server) (now : Nat) (body : EventBody) : Bool :=
  body.attention = .reads &&
    match (v.table.session? body.session).map Session.next with
    | some (.pending, _) => EventBody.isDue body now
    | some _ => true
    | none => false

/-- The client of a held stream starts to read. -/
def startReading (v : Server) (number : Nat) : Server :=
  match v.bodies[number]? with
  | some body =>
    if body.attention = .waits then
      { v with bodies := v.bodies.set number { body with attention := .reads } }
    else v
  | none => v

/-- What has been written on a stream, which is then forgotten. -/
def collect (v : Server) (number : Nat) : String × Server :=
  match v.bodies[number]? with
  | some body =>
    (String.join body.received,
      { v with bodies := v.bodies.set number { body with received := [] } })
  | none => ("", v)

/-- The clients forget what they have read. -/
def clearReceived (v : Server) : Server :=
  { v with bodies := v.bodies.map fun body => { body with received := [] } }

/-- Closes a session. -/
def close (v : Server) (place : Nat) : Server := { v with table := v.table.close place }

/-- Closes every session. -/
def closeAll (v : Server) : Server := { v with table := v.table.closeAll }

/-! ### Steps -/

/-- Makes one step. -/
def act (signals : List String) (now : Nat) (v : Server) : Act → Server
  | .pump place => v.modify place fun s => s.pump v.router signals
  | .stopPump place => v.modify place fun s => if s.cancelled then s.stopPump else s
  | .watch place => { v with table := v.table.watch place }
  | .work place ticket => v.modify place fun s => s.runJob v.router signals ticket
  | .read number => v.readBody now number
  | .handOver => v.handOver

/-- What a session's queue asks for. -/
def pumpAct? (place : Nat) (s : Session) : Option Act :=
  if !s.pumping then none
  else if s.cancelled then some (.stopPump place)
  else if s.transport.inbound.queue.isEmpty then none
  else some (.pump place)

def watchAct? (place : Nat) (s : Session) : Option Act :=
  if s.isDue && !s.closed then some (.watch place) else none

/-- What a session asks for. -/
def sessionActs (signals : List String) (place : Nat) (s : Session) : List Act :=
  (pumpAct? place s).toList ++ (watchAct? place s).toList
    ++ (s.jobs.filter (s.canRun signals)).map fun job => .work place job.ticket

def handOverAct? (v : Server) : Option Act :=
  match v.relaySlot with
  | some slot => if (v.settle? slot).isSome then some .handOver else none
  | none => if v.relayed.isEmpty then none else some .handOver

/-- All that can be done next. -/
def acts (v : Server) (signals : List String) (now : Nat) : List Act :=
  (v.table.opened.zipIdx.flatMap fun (s, place) => sessionActs signals place s)
    ++ (v.bodies.zipIdx.filter fun (body, _) => v.hasNews now body).map (fun (_, number) => .read number)
    ++ v.handOverAct?.toList

end Server

end SessionRelay
