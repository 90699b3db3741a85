import SessionRelay.Rpc.Message
import SessionRelay.Text.Search
import SessionRelay.Text.Utf8

/-!
# HTTP requests and responses

The parts of a request that matter here, and responses with a short text as body. A header is
usable only if its value is visible ASCII; anything else counts as absent. Two limits bound what is
read of a request: the bytes of its target, and the bytes of a body that is taken as a whole.
-/

namespace SessionRelay.Http

structure Request where
  method : String
  /-- Path and query as the client wrote them. -/
  target : String
  headers : List (String × String) := []
  body : Bytes := []

/-- How many bytes a target may have. -/
def targetLimit : Nat := 65534

/-- How many bytes a body may have. -/
def bodyLimit : Nat := 2097152

namespace Request

/-- Whether the target is short enough to be read. -/
def TargetFits (r : Request) : Prop := (Utf8.encode r.target).length ≤ targetLimit

instance (r : Request) : Decidable r.TargetFits := inferInstanceAs (Decidable (_ ≤ _))

/-- Whether the body is short enough to be read. -/
def BodyFits (r : Request) : Prop := r.body.length ≤ bodyLimit

instance (r : Request) : Decidable r.BodyFits := inferInstanceAs (Decidable (_ ≤ _))

/-- The target without a fragment, and without what stands before the path. -/
def resource (r : Request) : List Char :=
  let target := r.target.toList.takeWhile (· ≠ '#')
  match target.head?, target.dropWhile (· ≠ ':') with
  | some '/', _ => target
  | _, ':' :: '/' :: '/' :: rest => rest.dropWhile fun c => c ≠ '/' ∧ c ≠ '?'
  | _, _ => target

def path (r : Request) : String := String.ofList (r.resource.takeWhile (· ≠ '?'))

/-- The text after the first `?`; a target without one has an empty query. -/
def query (r : Request) : String := String.ofList ((r.resource.dropWhile (· ≠ '?')).drop 1)

end Request

/-- Whether a header value can be read as text. -/
def isVisible (value : String) : Bool :=
  value.toList.all fun c => (32 ≤ c.toNat && c.toNat < 127) || c == '\t'

namespace Request

/-- All values of a header, in order. Names do not depend on case. -/
def values (r : Request) (name : String) : List String :=
  (r.headers.filter fun (key, _) => key.map Char.toLower == name).map Prod.snd

/-- The first value of a header, if it can be read as text. -/
def header? (r : Request) (name : String) : Option String :=
  (r.values name).head?.filter isVisible

/-- Whether some readable `accept` header mentions a media type. -/
def accepts (r : Request) (media : String) : Bool :=
  (r.values "accept").any fun value =>
    isVisible value && Text.occursIn media.toList value.toList

end Request

structure Response where
  status : Nat
  headers : List (String × String) := []
  body : String := ""

namespace Response

def typed (contentType : String) (status : Nat) (body : String) : Response :=
  { status, headers := [("content-type", contentType)], body }

def text (status : Nat) (body : String) : Response := typed "text/plain; charset=utf-8" status body

def json (status : Nat) (body : Json) : Response := typed "application/json" status body.compact

def empty (status : Nat) : Response := { status }

def withHeader (r : Response) (name value : String) : Response :=
  { r with headers := r.headers ++ [(name, value)] }

/-- A JSON-RPC error as body. -/
def rpcError (status : Nat) (id : Option Rpc.Id) (error : Rpc.ErrorObject) : Response :=
  json status (Rpc.Response.error id error).toJson

/-- The method is not for this path; the allowed ones are named. -/
def notAllowed (allow : String) : Response := (empty 405).withHeader "allow" allow

end Response

end SessionRelay.Http
