import SessionRelay.Toml.Basic

/-!
# Tables under construction

A table is named by its own header, by a header below it, or by dotted keys, and no two of these may
name the same table twice: a header fills a table that only headers below it have named, and dotted
keys go only through tables that no header of their own has named.
-/

namespace SessionRelay.Toml

/-- What has named a table. -/
inductive Origin
  | header
  | parent
  | dotted
  deriving DecidableEq

inductive Item
  | value (v : Toml)
  | table (origin : Origin) (members : List (String × Item))
  /-- An array of tables, the latest first. -/
  | tables (latest : List (String × Item)) (earlier : List (List (String × Item)))

abbrev Members := List (String × Item)

namespace Members

def get? (key : String) : Members → Option Item
  | [] => none
  | (k, item) :: rest => if k = key then some item else get? key rest

/-- Sets a key, at its place if it is known and at the end otherwise. -/
def set (key : String) (item : Item) : Members → Members
  | [] => [(key, item)]
  | (k, old) :: rest => if k = key then (k, item) :: rest else (k, old) :: set key item rest

/-- Changes the table at the end of a path. Tables on the way that do not exist come into being. -/
def within (dotted : Bool) (change : Origin → Members → Option (Origin × Members)) :
    List String → Origin → Members → Option (Origin × Members)
  | [], origin, ms => change origin ms
  | key :: path, origin, ms =>
    match get? key ms with
    | none => do
      let (o, inner) ← within dotted change path (if dotted then .dotted else .parent) []
      return (origin, set key (.table o inner) ms)
    | some (.value _) => none
    | some (.tables latest earlier) => do
      let (_, inner) ← within dotted change path .header latest
      return (origin, set key (.tables inner earlier) ms)
    | some (.table o inner) =>
      if dotted && o = .header then none
      else do
        let (o, inner) ← within dotted change path o inner
        return (origin, set key (.table o inner) ms)

/-- Adds a value under a dotted key. The table that takes it has to be one of dotted keys, or the
present one if the key has no dots. -/
def addValue (path : List String) (key : String) (v : Toml) (origin : Origin) (ms : Members) :
    Option (Origin × Members) :=
  within true
    (fun o inner =>
      if (o == .dotted) = path.isEmpty then none
      else
        match get? key inner with
        | some _ => none
        | none => some (o, inner ++ [(key, .value v)]))
    path origin ms

/-- Starts a table with a header of its own. -/
def startTable (key : String) (origin : Origin) (ms : Members) : Option (Origin × Members) :=
  match get? key ms with
  | none => some (origin, ms ++ [(key, .table .header [])])
  | some (.table .parent inner) => some (origin, set key (.table .header inner) ms)
  | some _ => none

/-- Starts the next table of an array. -/
def startElement (key : String) (origin : Origin) (ms : Members) : Option (Origin × Members) :=
  match get? key ms with
  | none => some (origin, ms ++ [(key, .tables [] [])])
  | some (.tables latest earlier) => some (origin, set key (.tables [] (latest :: earlier)) ms)
  | some _ => none

end Members

mutual

/-- The value of a finished item. -/
def Item.toToml : Item → Toml
  | .value v => v
  | .table _ ms => .table (membersToToml ms)
  | .tables latest earlier =>
    .array ((tablesToToml earlier).reverse ++ [.table (membersToToml latest)])

def membersToToml : List (String × Item) → List (String × Toml)
  | [] => []
  | member :: rest => memberToToml member :: membersToToml rest

def memberToToml : String × Item → String × Toml
  | (key, item) => (key, item.toToml)

def tablesToToml : List (List (String × Item)) → List Toml
  | [] => []
  | ms :: rest => .table (membersToToml ms) :: tablesToToml rest

end

end SessionRelay.Toml
