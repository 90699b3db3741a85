import SessionRelay.Activity
import SessionRelay.Fault
import SessionRelay.Mcp.Definition
import SessionRelay.Url.Parser

/-!
# Resources

A resource is an absolute URI with a handler that reads it. Text and bytes become one item with the
resource's own URI and media type.
-/

namespace SessionRelay

/-- What a read handler learns about the read. -/
structure ReadContext where
  uri : String
  clientId : String

/-- What a read handler produces. -/
inductive ResourceOutput
  | text (text : String)
  | blob (bytes : Bytes)
  | contents (result : Mcp.ReadResult)

/-- The work of one read. -/
abbrev ReadHandler := ReadContext → Activity (Except Fault ResourceOutput)

structure Resource where
  uri : String
  name : String := uri
  description : Option String := none
  mimeType : Option String := none
  size : Option Nat := none
  extra : Option Json.Members := none
  handler : ReadHandler

namespace Resource

/-- A URI has to be absolute. -/
def checkUri (uri : String) : Except Fault Unit :=
  match Url.check uri with
  | .ok () => .ok ()
  | .error e => .error (.invalidUri uri e.message)

/-- The resource, if its URI is valid. -/
def checked (r : Resource) : Except Fault Resource := (checkUri r.uri).map fun () => r

/-- The resource with a fixed text; its size is that of the text unless given. -/
def withText (r : Resource) (text : String) : Resource :=
  { r with
    size := some (r.size.getD text.utf8ByteSize)
    handler := fun _ => .done (.ok (.text text)) }

def definition (r : Resource) : Mcp.ResourceDefinition :=
  { uri := r.uri, name := r.name, description := r.description, mimeType := r.mimeType,
    size := r.size, extra := r.extra }

def toResult (r : Resource) : ResourceOutput → Mcp.ReadResult
  | .text text => ⟨[{ uri := r.uri, mimeType := r.mimeType, text := some text }]⟩
  | .blob bytes => ⟨[{ uri := r.uri, mimeType := r.mimeType, blob := some (Base64.encode bytes) }]⟩
  | .contents result => result

def read (r : Resource) (clientId : String) : Activity (Except Fault Mcp.ReadResult) :=
  (r.handler ⟨r.uri, clientId⟩).map fun output => output.map r.toResult

end Resource

end SessionRelay
