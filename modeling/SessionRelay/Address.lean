import SessionRelay.Number.Decimal

/-!
# Addresses to listen on

An address ends with a colon and a port. Only its form is checked here.
-/

namespace SessionRelay.Address

inductive Error
  | noPort
  | badPort
  deriving DecidableEq

def Error.message : Error → String
  | .noPort => "invalid socket address"
  | .badPort => "invalid port value"

/-- The text after the last colon, if there is one. -/
def portText? (address : List Char) : Option (List Char) :=
  if ':' ∈ address then some (address.reverse.takeWhile (· ≠ ':')).reverse else none

/-- A port in decimal, below 65536; a plus sign may stand before it. -/
def port? (digits : List Char) : Option Nat :=
  let digits :=
    match digits with
    | '+' :: rest => rest
    | ds => ds
  if digits.isEmpty || !digits.all fun c => '0' ≤ c && c ≤ '9' then none
  else
    let n := digits.foldl (fun n c => 10 * n + (c.toNat - 48)) 0
    if n < 65536 then some n else none

/-- The port of an address. -/
def check (address : String) : Except Error Nat :=
  match portText? address.toList with
  | none => .error .noPort
  | some digits =>
    match port? digits with
    | some n => .ok n
    | none => .error .badPort

end SessionRelay.Address
