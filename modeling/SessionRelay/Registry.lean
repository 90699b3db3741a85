import SessionRelay.Text.Lowercase
import SessionRelay.Tool
import SessionRelay.Resource

/-!
# The registry

The tools and resources of a server in order of registration, each list with an index that says
where the entry of a key stands. Tool names are compared without regard to case, URIs exactly; a
second registration of the same name or URI is refused.
-/

namespace SessionRelay

/-- What tools are found by. No name has a sigma, so where words end does not matter. -/
def ToolName.key (name : String) : String := Text.lowercase (fun _ _ => false) name

/-- The places of entries in a list, by their keys. -/
abbrev Index := List (String × Nat)

namespace Index

/-- The index of a list of entries with these keys. -/
def ofKeys (keys : List String) : Index := keys.zipIdx

/-- The entry of a key. -/
def entryOf? {α : Type} (index : Index) (entries : List α) (key : String) : Option α :=
  (index.lookup key).bind fun place => entries[place]?

/-- Enters something last, unless its key is taken. -/
def add? {α : Type} (index : Index) (entries : List α) (key : String) (a : α) :
    Option (Index × List α) :=
  match index.lookup key with
  | some _ => none
  | none => some (index ++ [(key, entries.length)], entries ++ [a])

end Index

structure Registry where
  tools : List Tool := []
  toolIndex : Index := .ofKeys (tools.map fun t => ToolName.key t.name)
  resources : List Resource := []
  resourceIndex : Index := .ofKeys (resources.map Resource.uri)

namespace Registry

def empty : Registry := {}

/-- The tool of a name, in any case. -/
def tool? (r : Registry) (name : String) : Option Tool :=
  r.toolIndex.entryOf? r.tools (ToolName.key name)

def resource? (r : Registry) (uri : String) : Option Resource :=
  r.resourceIndex.entryOf? r.resources uri

def registerTool (r : Registry) (t : Tool) : Except Fault Registry :=
  match r.toolIndex.add? r.tools (ToolName.key t.name) t with
  | some (toolIndex, tools) => .ok { r with toolIndex, tools }
  | none => .error (.duplicateTool t.name)

def registerResource (r : Registry) (x : Resource) : Except Fault Registry :=
  match r.resourceIndex.add? r.resources x.uri x with
  | some (resourceIndex, resources) => .ok { r with resourceIndex, resources }
  | none => .error (.duplicateResource x.uri)

def toolDefinitions (r : Registry) : List Mcp.ToolDefinition := r.tools.map Tool.definition

def resourceDefinitions (r : Registry) : List Mcp.ResourceDefinition :=
  r.resources.map Resource.definition

def hasTools (r : Registry) : Bool := !r.tools.isEmpty

def hasResources (r : Registry) : Bool := !r.resources.isEmpty

end Registry

end SessionRelay
