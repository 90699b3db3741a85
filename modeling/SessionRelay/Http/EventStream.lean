import SessionRelay.Http.Message
import SessionRelay.Text.Split
import SessionRelay.Transport.Outbound

/-!
# Event streams

Events as server-sent events: a line for the name, a line for each line of data, and a blank line.
A stream on which nothing is written for a while shows with a comment that it is alive.
-/

namespace SessionRelay.Http.EventStream

/-- One event as a block of lines. -/
def block (name data : String) : String :=
  let lines := (Text.splitOn '\n' data.toList).map fun line => "data: " ++ String.ofList line ++ "\n"
  "event: " ++ name ++ "\n" ++ String.join lines ++ "\n"

def ofEvent : TransportEvent → String
  | .endpoint url => block "endpoint" url
  | .message m => block "message" m.wire

/-- A sign of life. -/
def keepAliveComment : String := ": keep-alive\n\n"

/-- What a response says whose body is an event stream. -/
def headers : List (String × String) :=
  [("content-type", "text/event-stream"), ("cache-control", "no-cache,no-store"),
    ("connection", "keep-alive"), ("x-accel-buffering", "no")]

end SessionRelay.Http.EventStream
