import SessionRelay.Text.Split
import SessionRelay.Text.Utf8
import SessionRelay.Url.Percent

/-!
# Form coding

Queries list names with values, `name=value` between `&`. A space is written `+`, letters, digits
and four marks stand for themselves, and every other byte is percent-coded. Reading takes any text:
bytes that are no UTF-8 are replaced.
-/

namespace SessionRelay.Url.Form

/-- The bytes that stand for themselves. -/
def isPlain (b : UInt8) : Bool :=
  let c := Char.ofNat b.toNat
  b.toNat < 0x80 && (c.isAlphanum || c ∈ ['*', '-', '.', '_'])

def encodeByte (b : UInt8) : List Char :=
  if b.toNat = 32 then ['+'] else if isPlain b then [Char.ofNat b.toNat] else percentEncode b

/-- A text as a value in a query. -/
def encode (s : String) : String := String.ofList ((Utf8.encode s).flatMap encodeByte)

/-- The text of a name or a value. -/
def decode (cs : List Char) : String :=
  let spaced := cs.map fun c => if c = '+' then ' ' else c
  Utf8.decodeLossy (percentDecode (Utf8.encode (String.ofList spaced)))

/-- The name and the value of a piece of a query. -/
def pair (piece : List Char) : String × String :=
  (decode (piece.takeWhile (· ≠ '=')), decode ((piece.dropWhile (· ≠ '=')).drop 1))

/-- The names and values of a query in order; empty pieces do not count. -/
def pairs (query : String) : List (String × String) :=
  ((Text.splitOn '&' query.toList).filter fun piece => !piece.isEmpty).map pair

/-- The last value of a name. -/
def get? (query : String) (name : String) : Option String :=
  ((pairs query).reverse.find? fun (key, _) => key == name).map Prod.snd

end SessionRelay.Url.Form
