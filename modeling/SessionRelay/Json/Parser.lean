import SessionRelay.Json.Token

/-!
# Reading JSON text

The tokens of a text are put together into a syntax tree, which still has repeated keys and
literals without a value; `Tree.toJson?` turns it into the value it denotes. Nesting is limited to
127 containers.
-/

namespace SessionRelay.Json

/-- A JSON text as it is written. -/
inductive Tree
  | null
  | bool (b : Bool)
  | number (value : Option Number)
  | string (value : Option String)
  | array (items : List Tree)
  | object (members : List (Option String × Tree))
  deriving Inhabited

/-- A container being read: what it holds so far, last first, and the key that waits for its
value. -/
inductive Frame
  | array (done : List Tree)
  | member (done : List (Option String × Tree)) (key : Option String)

/-- What the tokens read so far lead up to, inside the containers still open. -/
inductive Pending
  | value (frames : List Frame)
  | firstItem (frames : List Frame)
  | firstKey (frames : List Frame)
  | key (done : List (Option String × Tree)) (frames : List Frame)
  | colon (done : List (Option String × Tree)) (key : Option String) (frames : List Frame)
  | complete (tree : Tree) (frames : List Frame)

/-- A token where a value may start. -/
def beginValue (frames : List Frame) : Token → Option Pending
  | .null => some (.complete .null frames)
  | .bool b => some (.complete (.bool b) frames)
  | .number n => some (.complete (.number n) frames)
  | .string s => some (.complete (.string s) frames)
  | .openArray => some (.firstItem frames)
  | .openObject => some (.firstKey frames)
  | _ => none

/-- A token after a value. -/
def afterValue (tree : Tree) : List Frame → Token → Option Pending
  | .array done :: frames, .comma => some (.value (.array (tree :: done) :: frames))
  | .array done :: frames, .closeArray =>
    some (.complete (.array (tree :: done).reverse) frames)
  | .member done key :: frames, .comma => some (.key ((key, tree) :: done) frames)
  | .member done key :: frames, .closeObject =>
    some (.complete (.object ((key, tree) :: done).reverse) frames)
  | _, _ => none

def readToken (pending : Pending) (token : Token) : Option Pending :=
  match pending with
  | .value frames => beginValue frames token
  | .firstItem frames =>
    if token = .closeArray then some (.complete (.array []) frames)
    else beginValue (.array [] :: frames) token
  | .firstKey frames =>
    match token with
    | .closeObject => some (.complete (.object []) frames)
    | .string key => some (.colon [] key frames)
    | _ => none
  | .key done frames =>
    match token with
    | .string key => some (.colon done key frames)
    | _ => none
  | .colon done key frames =>
    match token with
    | .colon => some (.value (.member done key :: frames))
    | _ => none
  | .complete tree frames => afterValue tree frames token

/-- The tree that a text's tokens spell, if they spell exactly one. -/
def treeOfTokens? (tokens : List Token) : Option Tree := do
  match ← tokens.foldlM readToken (.value []) with
  | .complete tree [] => some tree
  | _ => none

namespace Tree

mutual

/-- The value a tree denotes: every literal has a value, and containers are nested no deeper than
allowed. -/
def toJson? (depth : Nat) : Tree → Option Json
  | .null => some .null
  | .bool b => some (.bool b)
  | .number n => n.map .number
  | .string s => s.map .string
  | .array items =>
    match depth with
    | 0 => none
    | depth + 1 => (items? depth items).map .array
  | .object members =>
    match depth with
    | 0 => none
    | depth + 1 => (members? depth members).map Json.ofMembers

def items? (depth : Nat) : List Tree → Option (List Json)
  | [] => some []
  | tree :: trees => do
    let v ← toJson? depth tree
    let vs ← items? depth trees
    return v :: vs

def members? (depth : Nat) : List (Option String × Tree) → Option (List (String × Json))
  | [] => some []
  | member :: members => do
    let m ← member? depth member
    let ms ← members? depth members
    return m :: ms

def member? (depth : Nat) : Option String × Tree → Option (String × Json)
  | (key, tree) => do
    let k ← key
    let v ← toJson? depth tree
    return (k, v)

end

end Tree

/-- How deep containers may be nested. -/
def maxDepth : Nat := 127

/-- The syntax tree of a text. -/
def tree? (text : String) : Option Tree := do
  let tokens ← tokens? text.toList
  treeOfTokens? tokens

/-- The value of a text, if it is JSON. -/
def parse? (text : String) : Option Json := do
  let tree ← tree? text
  tree.toJson? maxDepth

end SessionRelay.Json
