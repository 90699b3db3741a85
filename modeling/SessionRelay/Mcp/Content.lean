import SessionRelay.Json.Decode
import SessionRelay.Encoding.Base64

/-!
# Content blocks

What tools answer with: blocks told apart by their `type`, and the contents of resources. Binary
data travels in base 64.
-/

namespace SessionRelay.Mcp

/-- For whom a block is meant. -/
inductive Role
  | user
  | assistant
  deriving DecidableEq

/-- Hints about a block. The priority runs from 0, optional, to 1, required. -/
structure Annotations where
  audience : Option (List Role) := none
  priority : Option Double := none

/-- One item of a resource: text, or binary data in base 64. -/
structure ResourceContent where
  uri : String
  mimeType : Option String := none
  text : Option String := none
  blob : Option String := none

/-- A reference to a resource. -/
structure ResourceLink where
  uri : String
  name : String
  description : Option String := none
  mimeType : Option String := none
  size : Option Nat := none

inductive Content
  | text (text : String) (annotations : Option Annotations)
  | image (data : String) (mimeType : String) (annotations : Option Annotations)
  | audio (data : String) (mimeType : String) (annotations : Option Annotations)
  | link (link : ResourceLink) (annotations : Option Annotations)
  | resource (resource : ResourceContent) (annotations : Option Annotations)

namespace Content

def ofText (text : String) : Content := .text text none

def ofImage (bytes : Bytes) (mimeType : String) : Content :=
  .image (Base64.encode bytes) mimeType none

def ofAudio (bytes : Bytes) (mimeType : String) : Content :=
  .audio (Base64.encode bytes) mimeType none

def ofLink (uri name : String) : Content := .link { uri, name } none

end Content

/-! ### Writing -/

/-- A member that is left out when there is no value. -/
def memberOf {α : Type} (key : String) (write : α → Json) : Option α → List (String × Json)
  | none => []
  | some a => [(key, write a)]

def Role.toJson : Role → Json
  | .user => .string "user"
  | .assistant => .string "assistant"

def Annotations.toJson (a : Annotations) : Json :=
  .object (memberOf "audience" (fun roles => .array (roles.map Role.toJson)) a.audience
    ++ memberOf "priority" (fun x => .number (.real x)) a.priority)

def ResourceContent.toJson (r : ResourceContent) : Json :=
  .object ([("uri", .string r.uri)] ++ memberOf "mimeType" .string r.mimeType
    ++ memberOf "text" .string r.text ++ memberOf "blob" .string r.blob)

namespace Content

/-- The `type` of a block. -/
def tag : Content → String
  | .text .. => "text"
  | .image .. => "image"
  | .audio .. => "audio"
  | .link .. => "resource_link"
  | .resource .. => "resource"

def tags : List String := ["text", "image", "audio", "resource_link", "resource"]

/-- The members between the type and the annotations. -/
def body : Content → List (String × Json)
  | .text s _ => [("text", .string s)]
  | .image data mimeType _ | .audio data mimeType _ =>
    [("data", .string data), ("mimeType", .string mimeType)]
  | .link l _ =>
    [("uri", .string l.uri), ("name", .string l.name)]
      ++ memberOf "description" .string l.description ++ memberOf "mimeType" .string l.mimeType
      ++ memberOf "size" Json.nat l.size
  | .resource r _ => [("resource", r.toJson)]

def annotations : Content → Option Annotations
  | .text _ a | .image _ _ a | .audio _ _ a | .link _ a | .resource _ a => a

def toJson (c : Content) : Json :=
  .object (("type", .string c.tag) :: c.body
    ++ memberOf "annotations" Annotations.toJson c.annotations)

end Content

/-! ### Reading -/

namespace Role

def variants : List String := ["user", "assistant"]

def ofName (name : String) : Except DecodeError Role :=
  if name = "user" then .ok .user
  else if name = "assistant" then .ok .assistant
  else .error (.unknownVariant name variants)

/-- Nothing may come with a role. Inside a block an empty object counts as nothing. -/
def nothing (place : Place) : Decoder Unit
  | .null => .ok ()
  | .object [] =>
    match place with
    | .block => .ok ()
    | .document => .error (.wrongType (.object []) "unit")
  | v => .error (.wrongType v "unit")

/-- A role is its name, or an object with the name as its only key. -/
def ofJson (place : Place) : Decoder Role
  | .string name => ofName name
  | .object [(name, value)] => do
    let role ← ofName name
    nothing place value
    return role
  | .object _ => .error .notOneMember
  | v => .error (.wrongType v "string or map")

end Role

namespace Annotations

def rules (place : Place) : List FieldRule :=
  [.placed "audience" (Decode.sequence (Role.ofJson place)), .placed "priority" Decode.double]

def ofJson (place : Place) : Decoder Annotations := fun v => do
  let fields ← Record.read "struct ContentAnnotations" (rules place) place v
  return {
    audience := ← fields.get? "audience" (Decode.sequence (Role.ofJson place))
    priority := ← fields.get? "priority" Decode.double }

end Annotations

namespace ResourceContent

def rules : List FieldRule :=
  [.required "uri" Decode.text, .optionalOf "mimeType" Decode.text,
    .optionalOf "text" Decode.text, .optionalOf "blob" Decode.text]

def ofJson (place : Place) : Decoder ResourceContent := fun v => do
  let fields ← Record.read "struct ResourceContent" rules place v
  return {
    uri := ← fields.get "uri" Decode.text
    mimeType := ← fields.get? "mimeType" Decode.text
    text := ← fields.get? "text" Decode.text
    blob := ← fields.get? "blob" Decode.text }

end ResourceContent

namespace Content

def annotationsRule : FieldRule := .optionalOf "annotations" (Annotations.ofJson .block)

def textRules : List FieldRule := [.required "text" Decode.text, annotationsRule]

def dataRules : List FieldRule :=
  [.required "data" Decode.text, .required "mimeType" Decode.text, annotationsRule]

def linkRules : List FieldRule :=
  [.required "uri" Decode.text, .required "name" Decode.text,
    .optionalOf "description" Decode.text, .optionalOf "mimeType" Decode.text,
    .optionalOf "size" Decode.nat64, annotationsRule]

def resourceRules : List FieldRule :=
  [.required "resource" (ResourceContent.ofJson .block), annotationsRule]

def readAnnotations (fields : Record) : Except DecodeError (Option Annotations) :=
  fields.get? "annotations" (Annotations.ofJson .block)

/-- The fields of a block whose type is known. -/
def ofTagged (tag : String) : Decoder Content := fun v =>
  if tag = "text" then do
    let fields ← Record.read "struct variant Content::Text" textRules .block v
    return .text (← fields.get "text" Decode.text) (← readAnnotations fields)
  else if tag = "image" then do
    let fields ← Record.read "struct variant Content::Image" dataRules .block v
    return .image (← fields.get "data" Decode.text) (← fields.get "mimeType" Decode.text)
      (← readAnnotations fields)
  else if tag = "audio" then do
    let fields ← Record.read "struct variant Content::Audio" dataRules .block v
    return .audio (← fields.get "data" Decode.text) (← fields.get "mimeType" Decode.text)
      (← readAnnotations fields)
  else if tag = "resource_link" then do
    let fields ← Record.read "struct variant Content::ResourceLink" linkRules .block v
    let link : ResourceLink := {
      uri := ← fields.get "uri" Decode.text
      name := ← fields.get "name" Decode.text
      description := ← fields.get? "description" Decode.text
      mimeType := ← fields.get? "mimeType" Decode.text
      size := ← fields.get? "size" Decode.nat64 }
    return .link link (← readAnnotations fields)
  else if tag = "resource" then do
    let fields ← Record.read "struct variant Content::Resource" resourceRules .block v
    return .resource (← fields.get "resource" (ResourceContent.ofJson .block))
      (← readAnnotations fields)
  else .error (.unknownVariant tag tags)

/-- A tag has to be a known name. -/
def readTag : Decoder String
  | .string tag => if tag ∈ tags then .ok tag else .error (.unknownVariant tag tags)
  | v => .error (.wrongType v "variant identifier")

/-- A block from an object with a `type`, or from an array that starts with it. -/
def ofJson : Decoder Content
  | .object members =>
    match Json.Members.get? "type" members with
    | none => .error (.missingField "type")
    | some v => do
      let tag ← readTag v
      ofTagged tag (.object (members.filter fun (key, _) => key ≠ "type"))
  | .array [] => .error (.missingField "type")
  | .array (v :: items) => do
    let tag ← readTag v
    ofTagged tag (.array items)
  | v => .error (.wrongType v "internally tagged enum Content")

end Content

end SessionRelay.Mcp
