import SessionRelay.Config
import SessionRelay.Http.Message
import SessionRelay.Http.Pattern

/-!
# Routes

A site has up to three paths below its base: the event stream and its message box, and the exchange.
Paths are compared as they were written, and the base may have captures. A known path with another
method is refused and names the methods it has; every other path is unknown.
-/

namespace SessionRelay.Http

structure Site where
  /-- Empty, or a path that starts with a slash and does not end in one. -/
  basePath : String := ""
  sse : Bool := true
  streamable : Bool := true
  /-- Milliseconds without an event after which a stream shows that it is alive. -/
  keepAlive : Option Nat := some 30000

/-- What a site does for a request. -/
inductive Endpoint
  /-- Opens an event stream. -/
  | stream
  /-- Opens an event stream unless the client wants JSON. -/
  | streamByPost
  /-- Takes messages for a session. -/
  | messageBox
  /-- Runs an exchange. -/
  | exchange
  /-- Forgets an exchange. -/
  | forget
  deriving DecidableEq

/-- Where a request leads. -/
inductive Route
  | found (endpoint : Endpoint)
  | notAllowed (allow : String)
  | unknown
  deriving DecidableEq

namespace Site

/-- A site below a path; slashes around the path do not count. -/
def below (path : String) : Site := { basePath := Config.routeBase path.toList }

/-- The site that a configuration describes. -/
def ofConfig (c : Config) : Site :=
  { below c.normalizedBasePath with
    sse := c.enableSse
    streamable := c.enableStreamableHttp
    keepAlive := c.keepAlive }

def streamPath (s : Site) : String := s.basePath ++ "/sse"

def messagePath (s : Site) : String := s.basePath ++ "/message"

def exchangePath (s : Site) : String := s.basePath ++ "/mcp"

/-- Where a method and a path lead. -/
def route (s : Site) (method path : String) : Route :=
  if s.sse ∧ Pattern.accepts s.streamPath path then
    if method = "GET" ∨ method = "HEAD" then .found .stream
    else if method = "POST" then .found .streamByPost
    else .notAllowed "GET,HEAD,POST"
  else if s.sse ∧ Pattern.accepts s.messagePath path then
    if method = "POST" then .found .messageBox else .notAllowed "POST"
  else if s.streamable ∧ Pattern.accepts s.exchangePath path then
    if method = "POST" then .found .exchange
    else if method = "DELETE" then .found .forget
    else .notAllowed "POST,DELETE"
  else .unknown

/-- Tells a client to open a new stream. -/
def reconnect (s : Site) (reason : String) : Response :=
  .text 400 (reason ++ ". Reconnect to " ++ s.streamPath ++ " to establish a new session.")

end Site

end SessionRelay.Http
