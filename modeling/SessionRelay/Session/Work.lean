import SessionRelay.Router
import SessionRelay.Session.Basic

/-!
# What a session does with its messages

A session takes its messages one at a time, in order of arrival. A request for a handshake is
answered on the spot and a notification takes effect on the spot, so a confirmation always finds its
handshake; every other request becomes a job that goes on beside the queue, and is registered when
the job first runs. Whatever a job ends in, it leaves one item for the client: a response, or the
note that there will be none.
-/

namespace SessionRelay.Session

/-! ### Jobs -/

def job? (s : Session) (ticket : Nat) : Option Job := s.jobs.find? fun j => j.ticket == ticket

def addJob (s : Session) (request : Rpc.Request) : Session :=
  { s with jobs := s.jobs ++ [{ ticket := s.nextJob, request }], nextJob := s.nextJob + 1 }

def setStage (s : Session) (ticket : Nat) (stage : Stage) : Session :=
  { s with jobs := s.jobs.map fun j => if j.ticket == ticket then { j with stage } else j }

def removeJob (s : Session) (ticket : Nat) : Session :=
  { s with jobs := s.jobs.filter fun j => j.ticket != ticket }

/-- Whether an event that a request may wait for has happened; the signals are those given so far. -/
def happened (s : Session) (signals : List String) (number : Nat) : Event → Bool
  | .cancellation => s.isCancelled number
  | .signal name => signals.contains name

/-- What the client is told of a crash without words. -/
def silentCrash : String := "request handler panicked"

/-- What the client said of itself when it asked for a handshake. -/
def introduction (request : Rpc.Request) : Option Mcp.Implementation :=
  request.params.bind fun params =>
    (Mcp.HandshakeParams.ofJson params).toOption.bind Mcp.HandshakeParams.clientInfo

/-- The version that a successful handshake agrees on. -/
def agreedVersion (result : Json) : String :=
  ((result.member? "protocolVersion").bind Json.asString?).getD ""

/-- Keeps what a successful handshake agrees on. -/
def agree (s : Session) (request : Rpc.Request) : Rpc.Response → Session
  | .success r =>
    if request.method = Mcp.handshakeMethod then
      s.establish (agreedVersion r.result) (introduction request)
    else s
  | .failure _ => s

/-- Ends a request that was answered: a request that was cancelled gets no response. -/
def answered (s : Session) (request : Rpc.Request) (number : Nat) (response : Rpc.Response) :
    Option Rpc.Response × Session :=
  let s := s.finish request.id number
  if s.isCancelled number then (none, s) else (some response, s.agree request response)

/-- Ends a request whose handler crashed: the client is told why. -/
def crashed (s : Session) (request : Rpc.Request) (number : Nat) (message : Option String) :
    Option Rpc.Response × Session :=
  (some (.error (some request.id) (.internalError (message.getD silentCrash))),
    s.finish request.id number)

/-- Leaves what a request came to for the client, if somebody still reads. -/
def writeBack (s : Session) (response : Option Rpc.Response) : Session :=
  let written :=
    match response with
    | some r => s.send r.toMessage
    | none => s.abandon
  written.toOption.getD s

/-- Goes on with a job as far as it can. -/
def goOn (s : Session) (signals : List String) (job : Job) (number : Nat)
    (work : Activity Rpc.Response) : Session :=
  match work.proceed (s.happened signals number) with
  | .await event next => s.setStage job.ticket (.begun number (.await event next))
  | .done response =>
    let (answer, s) := (s.removeJob job.ticket).answered job.request number response
    s.writeBack answer
  | .crash message =>
    let (answer, s) := (s.removeJob job.ticket).crashed job.request number message
    s.writeBack answer

/-- Runs a job until it waits or is over. A job that runs for the first time is registered. -/
def runJob (s : Session) (router : Router) (signals : List String) (ticket : Nat) : Session :=
  match s.job? ticket with
  | none => s
  | some job =>
    match job.stage with
    | .queued =>
      let (number, s) := s.register job.request.id
      s.goOn signals job number (router.respond s.clientId (s.isCancelled number) job.request)
    | .begun number work => s.goOn signals job number work

/-- Whether a job can go on. -/
def canRun (s : Session) (signals : List String) (job : Job) : Bool :=
  match job.stage with
  | .queued => true
  | .begun number (.await event _) => s.happened signals number event
  | .begun _ _ => true

/-! ### The queue -/

/-- What a notification does. One that makes no sense does nothing. -/
def notice (s : Session) (notification : Rpc.Notification) : Session :=
  match Mcp.Signal.ofNotification notification with
  | .ok .initialized => { s with handshake := s.handshake.map fun h => h.confirmed.1 }
  | .ok (.cancelled params) => (s.cancelRequest params.requestId).2
  | .ok (.unknown _ _) | .error _ => s

/-- Handles one message. Responses of the client answer nothing and are dropped. -/
def handle (s : Session) (router : Router) (signals : List String) : Rpc.Message → Session
  | .request r =>
    let ticket := s.nextJob
    let s := s.addJob r
    if r.method = Mcp.handshakeMethod then s.runJob router signals ticket else s
  | .notification n => s.notice n
  | .success _ | .failure _ => s

/-- Takes the next message and handles it. -/
def pump (s : Session) (router : Router) (signals : List String) : Session :=
  match s.take? with
  | some (message, s) => s.handle router signals message
  | none => s

end SessionRelay.Session
