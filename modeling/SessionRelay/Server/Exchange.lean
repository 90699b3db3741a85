import SessionRelay.Http.EventStream
import SessionRelay.Json.Parser
import SessionRelay.Server.Basic

/-!
# HTTP exchanges

A request is checked in a fixed order: target, route, body, token, messages. What passes becomes an
exchange that delivers its messages one by one; it may have to wait for room in between, and a client
that goes away meanwhile takes the exchange with it. Every exchange ends in one reply.

Of the limits of the HTTP stack, two are here: a target of more than `Http.targetLimit` bytes is
refused before it is routed, and a body of more than `Http.bodyLimit` bytes before its handler sees
the request. What the stack turns away for other reasons never becomes a request: a head with too
many or too long headers, a target that is no URI, a body that breaks off.
-/

namespace SessionRelay

/-- What the client of a request gets. -/
inductive Reply
  | plain (response : Http.Response)
  /-- An event stream, by the number of its body. -/
  | stream (headers : List (String × String)) (body : Nat)

/-- What an exchange comes to in one step. -/
inductive Progress
  | goesOn (exchange : Exchange)
  | blocked
  | replies (reply : Reply)

/-- Where a request stands when it has been read. -/
inductive Admission
  | replied (reply : Reply)
  | started (number : Nat)

namespace Server

open Http

/-! ### Texts -/

def longTarget : Response := .empty 414

def longBody : Response :=
  .text 413 "Failed to buffer the request body: length limit exceeded"

def invalidBody (f : Utf8.Fault) : Response :=
  .text 400 ("Request body didn't contain valid UTF-8: " ++ Utf8.faultMessage f)

def sessionLost (v : Server) : Response := v.site.reconnect "Session not found or expired"

def unreachable (fault : Fault) : Response :=
  .text 503 ("Unable to reach the session owner: " ++ fault.message)

def accepted : Response := .text 202 "Accepted"

/-- The header that names a session. -/
def sessionHeader : String := "mcp-session-id"

/-! ### Streams -/

/-- Opens the event stream of a session as a response body. -/
def openBody (v : Server) (now place : Nat) : Reply × Server :=
  match (v.table.session? place).bind fun s => s.events.toOption with
  | some s =>
    let body : EventBody := { session := place, due := v.site.keepAlive.map (now + ·) }
    (.stream EventStream.headers v.bodies.length,
      { v.modify place fun _ => s with bodies := v.bodies ++ [body] })
  | none => (.plain (.text 500 "Session stream unavailable"), v)

/-- A reply that names its session too. -/
def Reply.withHeader (name value : String) : Reply → Reply
  | .plain r => .plain (r.withHeader name value)
  | .stream headers body => .stream (headers ++ [(name, value)]) body

/-- The reply to an exchange whose messages are all with its session, or that lost it. -/
def openExchange (v : Server) (now place : Nat) : Reply × Server :=
  let (reply, v) := v.openBody now place
  match v.table.session? place with
  | some s => (Reply.withHeader sessionHeader s.token reply, v)
  | none => (reply, v)

/-- Opens a session with a lasting event stream. -/
def openStream (v : Server) (now : Nat) (draw : Draw) (query : String) : Reply × Server :=
  let kind : StreamKind := .sse v.site.messagePath (Url.Form.get? query "code")
  match v.table.create kind shutdown draw with
  | .error _ => (.plain (.text 500 "Failed to create session"), v)
  | .ok (place, table) => { v with table }.openBody now place

/-- The client of a response body goes away. -/
def dropBody (v : Server) (number : Nat) : Server :=
  match v.bodies[number]? with
  | none => v
  | some body =>
    { v.modify body.session Session.dropStream with
      bodies := v.bodies.set number { body with attention := .left } }

/-! ### Admission -/

/-- Reads the body of a request as text. -/
def bodyText (r : Request) : Except Response String :=
  if r.BodyFits then
    match Utf8.decode r.body with
    | .ok body => .ok body
    | .error f => .error (invalidBody f)
  else .error longBody

/-- The id in a body that is no message, if it can be told. -/
def recoverId (body : String) : Option Rpc.Id := do
  let id ← (← Json.parse? body).member? "id"
  (Rpc.Id.ofJson id).toOption

/-- Reads a token in the mode of the instance. -/
def readToken (v : Server) (token : String) : Option ClientState :=
  v.table.codec.parse? token v.table.codec.encrypts

/-- Starts an exchange. -/
def start (v : Server) (purpose : Purpose) (messages : List Rpc.Message) : Admission × Server :=
  (.started v.nextExchange,
    { v with
      exchanges := v.exchanges ++ [{ number := v.nextExchange, purpose, rest := messages }]
      nextExchange := v.nextExchange + 1 })

def replied (r : Response) (v : Server) : Admission × Server := (.replied (.plain r), v)

/-- Tells a client what is wrong with a body: on its stream if the session is here, in the response
if it is elsewhere. -/
def rejectBody (v : Server) (client : ClientState) (id : Option Rpc.Id) (error : Rpc.ErrorObject) :
    Response × Server :=
  if client.isLocal v.instanceId then
    match v.table.find? client.clientId with
    | none => (v.sessionLost, v)
    | some place =>
      let answer := (Rpc.Response.error id error).toMessage
      match (v.table.session? place).bind fun s => (s.send answer).toOption with
      | some s => (accepted, v.modify place fun _ => s)
      | none => (v.sessionLost, v)
  else (.rpcError 400 id error, v)

/-- Admits messages for the session that the query names. -/
def admitPost (v : Server) (r : Request) : Admission × Server :=
  match bodyText r with
  | .error response => replied response v
  | .ok body =>
    match Url.Form.get? r.query "state" with
    | none => replied (v.site.reconnect "Missing client state") v
    | some token =>
      match v.readToken token with
      | none => replied (v.site.reconnect "Invalid client state") v
      | some client =>
        match Rpc.Message.ofBody body with
        | .ok messages => v.start (.post client) messages
        | .error error =>
          let (response, v) := v.rejectBody client (recoverId body) error
          replied response v

/-- The session that a request names: none, one, or one that cannot be read. -/
def addressed (v : Server) (r : Request) : Except Unit (Option ClientState) :=
  match r.header? sessionHeader with
  | none => .ok none
  | some token =>
    match v.readToken token with
    | some client => .ok (some client)
    | none => .error ()

/-- Admits an exchange. Without requests its messages go to the session it names, and with requests
it gets a session of its own. -/
def admitExchange (v : Server) (draw : Draw) (r : Request) : Admission × Server :=
  match bodyText r with
  | .error response => replied response v
  | .ok body =>
    if !(r.accepts "application/json" && r.accepts "text/event-stream") then
      replied (.text 406 "Accept header must include application/json and text/event-stream") v
    else
      match v.addressed r with
      | .error () =>
        replied (.text 400 "Invalid MCP-Session-Id. Omit the header to start a new session.") v
      | .ok client =>
        match Rpc.Message.ofBody body with
        | .error error => replied (.rpcError 400 (recoverId body) error) v
        | .ok messages =>
          match messages.countP Rpc.Message.isRequest, client with
          | 0, some client => v.start (.route client) messages
          | 0, none => replied (.empty 202) v
          | expected, _ =>
            match v.table.create (.streamable expected) shutdown draw with
            | .error _ => replied (.rpcError 500 none (.internalError "Failed to create session")) v
            | .ok (place, table) => { v with table }.start (.feed place) messages

/-- Forgets an exchange: nothing is kept between exchanges, but it has to be named. -/
def forget (r : Request) : Response :=
  match r.header? sessionHeader with
  | some _ => .empty 200
  | none => .text 400 "Missing MCP-Session-Id header"

/-- Hands a request to what its route leads to. Only the head of a reply is wanted for `HEAD`, so
its stream is let go of. -/
def handle (v : Server) (now : Nat) (draw : Draw) (r : Request) : Admission × Server :=
  match v.site.route r.method r.path with
  | .unknown => replied (.empty 404) v
  | .notAllowed allow => replied (.notAllowed allow) v
  | .found .stream =>
    let (reply, v) := v.openStream now draw r.query
    match r.method, reply with
    | "HEAD", .stream headers number => replied { status := 200, headers } (v.dropBody number)
    | "HEAD", .plain response => replied { response with body := "" } v
    | _, reply => (.replied reply, v)
  | .found .streamByPost =>
    if r.accepts "application/json" then
      replied ((Response.text 405
        "This endpoint only supports GET for Server-Sent Events").withHeader "allow" "GET") v
    else
      let (reply, v) := v.openStream now draw r.query
      (.replied reply, v)
  | .found .messageBox => v.admitPost r
  | .found .exchange => v.admitExchange draw r
  | .found .forget => replied (forget r) v

/-- Reads a request. -/
def receive (v : Server) (now : Nat) (draw : Draw) (r : Request) : Admission × Server :=
  if r.TargetFits then v.handle now draw r else replied longTarget v

/-! ### Progress -/

/-- The reply to an exchange whose messages have all been delivered. -/
def complete (v : Server) (now : Nat) (e : Exchange) : Reply × Server :=
  match e.purpose with
  | .post _ => (.plain accepted, v)
  | .route _ => (.plain (.empty 202), v)
  | .feed place => v.openExchange now place

/-- What a failed delivery means to an exchange. A finished exchange of this instance has nothing
left to hear of, so messages for it are dropped. -/
def fail (v : Server) (now : Nat) (e : Exchange) (fault : Fault) : Progress × Server :=
  match e.purpose, fault with
  | .post _, .sessionNotFound _ => (.replies (.plain v.sessionLost), v)
  | .route client, .sessionNotFound _ =>
    if client.isLocal v.instanceId then (.goesOn { e with slot := none }, v)
    else
      (.replies (.plain (.text 400
        "MCP-Session-Id names a session on another instance that cannot be reached")), v)
  | .post _, fault | .route _, fault => (.replies (.plain (unreachable fault)), v)
  | .feed place, _ =>
    let (reply, v) := v.openExchange now place
    (.replies reply, v)

/-- The fault of a delivery that waited in vain. -/
def lost (e : Exchange) : Fault :=
  match e.purpose with
  | .post client | .route client => .sessionNotFound client.clientId
  | .feed _ => toFault TransportError.closed

section

variable {σ : Type} (service : Queue.Service σ)

/-- Delivers one message of an exchange. -/
def deliverFor (v : Server) (e : Exchange) (message : Rpc.Message) (queues : σ) : Handed × Server × σ :=
  match e.purpose with
  | .post client | .route client => v.deliver service client message queues
  | .feed place =>
    match v.offer place message with
    | (.accepted, v) => (.queued, v, queues)
    | (.waiting ticket, v) => (.waiting ⟨place, ticket⟩, v, queues)
    | (.refused, v) => (.failed (lost e), v, queues)

/-- What an exchange does next. -/
def proceed (v : Server) (now : Nat) (e : Exchange) (queues : σ) : Progress × Server × σ :=
  match e.slot with
  | some slot =>
    match v.settle? slot with
    | none => (.blocked, v, queues)
    | some (true, v) => (.goesOn { e with slot := none }, v, queues)
    | some (false, v) =>
      let (progress, v) := v.fail now e (lost e)
      (progress, v, queues)
  | none =>
    match e.rest with
    | [] =>
      let (reply, v) := v.complete now e
      (.replies reply, v, queues)
    | message :: rest =>
      let e := { e with rest }
      match v.deliverFor service e message queues with
      | (.queued, v, queues) => (.goesOn e, v, queues)
      | (.waiting slot, v, queues) => (.goesOn { e with slot := some slot }, v, queues)
      | (.failed fault, v, queues) =>
        let (progress, v) := v.fail now e fault
        (progress, v, queues)

def removeExchange (v : Server) (number : Nat) : Server :=
  { v with exchanges := v.exchanges.filter fun e => e.number != number }

def setExchange (v : Server) (e : Exchange) : Server :=
  { v with exchanges := v.exchanges.map fun old => if old.number == e.number then e else old }

/-- One step of an exchange. Gives its reply when it is over. -/
def stepExchange (v : Server) (now number : Nat) (queues : σ) : Option Reply × Server × σ :=
  match v.exchanges.find? fun e => e.number == number with
  | none => (none, v, queues)
  | some e =>
    match v.proceed service now e queues with
    | (.goesOn e, v, queues) => (none, v.setExchange e, queues)
    | (.blocked, v, queues) => (none, v, queues)
    | (.replies reply, v, queues) => (some reply, v.removeExchange number, queues)

end

/-- Whether an exchange can go on. -/
def canProceed (v : Server) (e : Exchange) : Bool :=
  match e.slot with
  | some slot => (v.settle? slot).isSome
  | none => true

/-- The client of an exchange goes away before the reply. -/
def abort (v : Server) (number : Nat) : Server :=
  match v.exchanges.find? fun e => e.number == number with
  | none => v
  | some e =>
    match e.slot with
    | some slot => (v.abandonSlot slot).removeExchange number
    | none => v.removeExchange number

end Server

end SessionRelay
