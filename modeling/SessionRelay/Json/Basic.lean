import SessionRelay.Number.Decimal

/-!
# JSON values

Numbers keep the form they were written in: an integer literal that fits 64 bits stays an integer,
any other literal is a double. The members of an object are listed in increasing order of key, each
key once; `Json.ofMembers` and `Json.insert` keep that order.
-/

namespace SessionRelay

/-- A number of a JSON text. Integers lie between `-2 ^ 63` and `2 ^ 64 - 1`. -/
inductive Number
  | int (n : Int)
  | real (x : Double)
  deriving DecidableEq, Inhabited

inductive Json
  | null
  | bool (b : Bool)
  | number (n : Number)
  | string (s : String)
  | array (items : List Json)
  | object (members : List (String × Json))
  deriving Inhabited

namespace Json

/-- Members of an object, in increasing order of key. -/
abbrev Members := List (String × Json)

namespace Members

/-- Sets the value of a key, keeping the order of keys. -/
def insert (key : String) (value : Json) : Members → Members
  | [] => [(key, value)]
  | (k, v) :: rest =>
    if key < k then (key, value) :: (k, v) :: rest
    else if key = k then (key, value) :: rest
    else (k, v) :: insert key value rest

/-- The value of a key. -/
def get? (key : String) : Members → Option Json
  | [] => none
  | (k, v) :: rest => if k = key then some v else get? key rest

/-- Members written in any order; of two with the same key the last one counts. -/
def ofList (written : List (String × Json)) : Members :=
  written.foldl (fun members (k, v) => insert k v members) []

end Members

/-- The object with these members. -/
def ofMembers (written : List (String × Json)) : Json := .object (Members.ofList written)

mutual

/-- The same value with the members of every object put in order. -/
def canonical : Json → Json
  | .null => .null
  | .bool b => .bool b
  | .number n => .number n
  | .string s => .string s
  | .array items => .array (canonicalItems items)
  | .object members => ofMembers (canonicalMembers members)

def canonicalItems : List Json → List Json
  | [] => []
  | item :: items => canonical item :: canonicalItems items

def canonicalMembers : List (String × Json) → List (String × Json)
  | [] => []
  | member :: members => canonicalMember member :: canonicalMembers members

def canonicalMember : String × Json → String × Json
  | (key, value) => (key, canonical value)

end

def int (n : Int) : Json := .number (.int n)

def nat (n : Nat) : Json := .number (.int n)

/-- The value of a member, if this is an object that has it. -/
def member? (key : String) : Json → Option Json
  | .object members => Members.get? key members
  | _ => none

def isNull : Json → Bool
  | .null => true
  | _ => false

def asString? : Json → Option String
  | .string s => some s
  | _ => none

def asNat? : Json → Option Nat
  | .number (.int n) => n.toNat?
  | _ => none

/-- The items of an array; nothing else has any. -/
def items : Json → List Json
  | .array items => items
  | _ => []

end Json

end SessionRelay
