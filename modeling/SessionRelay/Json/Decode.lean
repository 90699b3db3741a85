import SessionRelay.Json.Printer
import SessionRelay.Number.Width
import SessionRelay.Text.Quoted

/-!
# Decoding values

A decoder turns a JSON value into a typed one or says what is wrong with it. A record decodes from
an object or from an array that lists its fields in order. In an object the members are checked in
order of key and the first bad one is reported; a missing field is reported only after that.
-/

namespace SessionRelay

/-- What a decoder found wrong. -/
inductive DecodeError
  | wrongType (found : Json) (wanted : String)
  | outOfRange (value : Int) (wanted : String)
  | wrongLength (length : Nat) (wanted : String)
  | missingField (name : String)
  | unknownVariant (found : String) (known : List String)
  | noVariant (type : String)
  | notOneMember
  | refused (reason : String)

namespace DecodeError

/-- A value named by its kind, with its text if it is a scalar. -/
def describe : Json → String
  | .null => "null"
  | .bool true => "boolean `true`"
  | .bool false => "boolean `false`"
  | .number (.int n) => "integer `" ++ String.ofList (Number.intChars n) ++ "`"
  | .number (.real x) => "floating point `" ++ String.ofList (Number.real x).chars ++ "`"
  | .string s => "string " ++ Text.quoted s
  | .array _ => "sequence"
  | .object _ => "map"

/-- The names of variants as a choice. -/
def choice : List String → String
  | [] => "there are no variants"
  | [a] => "expected `" ++ a ++ "`"
  | [a, b] => "expected `" ++ a ++ "` or `" ++ b ++ "`"
  | many => "expected one of " ++ ", ".intercalate (many.map fun a => "`" ++ a ++ "`")

def message : DecodeError → String
  | .wrongType found wanted => "invalid type: " ++ describe found ++ ", expected " ++ wanted
  | .outOfRange value wanted =>
    "invalid value: integer `" ++ String.ofList (Number.intChars value) ++ "`, expected " ++ wanted
  | .wrongLength length wanted =>
    "invalid length " ++ String.ofList (Decimal.digitChars length) ++ ", expected " ++ wanted
  | .missingField name => "missing field `" ++ name ++ "`"
  | .unknownVariant found known => "unknown variant `" ++ found ++ "`, " ++ choice known
  | .noVariant type => "data did not match any variant of untagged enum " ++ type
  | .notOneMember => "invalid value: map, expected map with a single key"
  | .refused reason => reason

end DecodeError

/-- Reads a typed value from a JSON value. -/
abbrev Decoder (α : Type) := Json → Except DecodeError α

namespace Decode

def any : Decoder Json := .ok

def text : Decoder String
  | .string s => .ok s
  | v => .error (.wrongType v "a string")

def boolean : Decoder Bool
  | .bool b => .ok b
  | v => .error (.wrongType v "a boolean")

/-- An integer between two bounds. -/
def integer (low high : Int) (wanted : String) : Decoder Int
  | .number (.int n) => if low ≤ n ∧ n ≤ high then .ok n else .error (.outOfRange n wanted)
  | v => .error (.wrongType v wanted)

def int32 : Decoder Int := integer Width.int32Min Width.int32Max "i32"

def int64 : Decoder Int := integer Width.int64Min Width.int64Max "i64"

def nat64 : Decoder Nat := fun v => (integer 0 Width.nat64Max "u64" v).map Int.toNat

/-- A double; an integer stands for the double nearest to it. -/
def double : Decoder Double
  | .number (.int n) => .ok (.ofInt n)
  | .number (.real x) => .ok x
  | v => .error (.wrongType v "f64")

def sequence {α : Type} (item : Decoder α) : Decoder (List α)
  | .array items => items.mapM item
  | v => .error (.wrongType v "a sequence")

def members : Decoder Json.Members
  | .object ms => .ok ms
  | v => .error (.wrongType v "a map")

/-- `null` stands for nothing. -/
def nullable {α : Type} (decoder : Decoder α) : Decoder (Option α)
  | .null => .ok none
  | v => (decoder v).map some

end Decode

/-- A field of a record: whether an object may leave it out, whether an array may end before it,
and what its value has to be. -/
structure FieldRule where
  name : String
  optional : Bool
  trailing : Bool
  check : Json → Except DecodeError Unit

namespace FieldRule

variable {α : Type}

def required (name : String) (decoder : Decoder α) : FieldRule :=
  ⟨name, false, false, fun v => (decoder v).map fun _ => ()⟩

/-- A field that may be absent or `null`; an array may end before it. -/
def optionalOf (name : String) (decoder : Decoder α) : FieldRule :=
  ⟨name, true, true, fun v => (Decode.nullable decoder v).map fun _ => ()⟩

/-- A field that may be absent or `null`, but has its place in every array. -/
def placed (name : String) (decoder : Decoder α) : FieldRule :=
  ⟨name, true, false, fun v => (Decode.nullable decoder v).map fun _ => ()⟩

/-- A field that may be absent but not `null`. -/
def defaulted (name : String) (decoder : Decoder α) : FieldRule :=
  ⟨name, true, true, fun v => (decoder v).map fun _ => ()⟩

end FieldRule

/-- Where a record stands: in a document, or inside a block chosen by its tag. The two count the
items of an array that is too long differently. -/
inductive Place
  | document
  | block
  deriving DecidableEq

/-- The fields found for a record, by name. -/
abbrev Record := List (String × Json)

namespace Record

def count (n : Nat) (one many : String) : String :=
  String.ofList (Decimal.digitChars n) ++ (if n = 1 then one else many)

/-- Checks the members of an object in the order given. Unknown members pass. -/
def checkMembers (rules : List FieldRule) : List (String × Json) → Except DecodeError Unit
  | [] => .ok ()
  | (key, value) :: rest => do
    match rules.find? (·.name = key) with
    | some rule => rule.check value
    | none => pure ()
    checkMembers rules rest

/-- Pairs the fields with the items of an array, checking each. -/
def ofItems (type : String) (total : Nat) (read : Nat) :
    List FieldRule → List Json → Except DecodeError (Record × List Json)
  | [], items => .ok ([], items)
  | rule :: rules, [] =>
    if rule.trailing then ofItems type total read rules []
    else .error (.wrongLength read (type ++ " with " ++ count total " element" " elements"))
  | rule :: rules, item :: items => do
    rule.check item
    let (fields, rest) ← ofItems type total (read + 1) rules items
    return ((rule.name, item) :: fields, rest)

/-- The fields of a record of the given type in an object or array. -/
def read (type : String) (rules : List FieldRule) (place : Place := .document) : Decoder Record
  | .object ms => do
    checkMembers rules ms
    match rules.find? fun rule => !rule.optional && (Json.Members.get? rule.name ms).isNone with
    | some rule => throw (.missingField rule.name)
    | none => return ms.filter fun (key, _) => rules.any (·.name = key)
  | .array items => do
    let (fields, rest) ← ofItems type rules.length 0 rules items
    if rest.isEmpty then return fields
    else
      match place with
      | .document => throw (.wrongLength items.length "fewer elements in array")
      | .block =>
        throw (.wrongLength items.length
          (count rules.length " element in sequence" " elements in sequence"))
  | v => .error (.wrongType v type)

variable {α : Type}

/-- A field that has to be there. -/
def get (fields : Record) (name : String) (decoder : Decoder α) : Except DecodeError α :=
  match Json.Members.get? name fields with
  | some v => decoder v
  | none => .error (.missingField name)

/-- A field that may be absent or `null`. -/
def get? (fields : Record) (name : String) (decoder : Decoder α) : Except DecodeError (Option α) :=
  match Json.Members.get? name fields with
  | some v => Decode.nullable decoder v
  | none => .ok none

/-- A field with a default for its absence. -/
def getD (fields : Record) (name : String) (decoder : Decoder α) (default : α) :
    Except DecodeError α :=
  match Json.Members.get? name fields with
  | some v => decoder v
  | none => .ok default

end Record

end SessionRelay
