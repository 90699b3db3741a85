import SessionRelay.Json.Basic
import SessionRelay.Number.Width

/-!
# Number literals

A literal is split by the JSON grammar into sign, whole digits, fraction and exponent. An integer
literal that fits 64 bits is that integer; minus zero is a double. Any other literal is read as a
significand of 64 bits scaled by a power of ten: digits that no longer fit the significand only
count towards the scale, and the scaling rounds once for each factor it applies.
-/

namespace SessionRelay

/-- A number literal taken apart, its digits as numbers below ten. -/
structure Numeral where
  negative : Bool
  whole : List Nat
  fraction : Option (List Nat)
  exponent : Option (Bool × List Nat)
  deriving DecidableEq

namespace Numeral

def digit? (c : Char) : Option Nat :=
  if '0' ≤ c ∧ c ≤ '9' then some (c.toNat - 48) else none

/-- The leading digits, and what follows them. -/
def spanDigits : List Char → List Nat × List Char
  | [] => ([], [])
  | c :: cs =>
    match digit? c with
    | some d => let (ds, rest) := spanDigits cs; (d :: ds, rest)
    | none => ([], c :: cs)

/-- The exponent part, to the end of the literal. -/
def exponentPart? : List Char → Option (Option (Bool × List Nat))
  | [] => some none
  | c :: cs =>
    if c = 'e' ∨ c = 'E' then
      let (negative, digits) : Bool × List Char :=
        match cs with
        | '+' :: rest => (false, rest)
        | '-' :: rest => (true, rest)
        | rest => (false, rest)
      match spanDigits digits with
      | ([], _) => none
      | (ds, []) => some (some (negative, ds))
      | (_, _ :: _) => none
    else none

/-- A literal by the grammar: no leading zero, and a digit on both sides of the point. -/
def ofChars? (literal : List Char) : Option Numeral :=
  let (negative, unsigned) : Bool × List Char :=
    match literal with
    | '-' :: rest => (true, rest)
    | rest => (false, rest)
  match spanDigits unsigned with
  | ([], _) => none
  | (0 :: _ :: _, _) => none
  | (whole, '.' :: rest) =>
    match spanDigits rest with
    | ([], _) => none
    | (fraction, rest) =>
      (exponentPart? rest).map fun exponent => ⟨negative, whole, some fraction, exponent⟩
  | (whole, rest) =>
    (exponentPart? rest).map fun exponent => ⟨negative, whole, none, exponent⟩

def natOfDigits (ds : List Nat) : Nat := ds.foldl (fun n d => 10 * n + d) 0

/-- Appends digits to a significand while it fits 64 bits, and tells how many were appended. -/
def absorb (significand : Nat) : List Nat → Nat × Nat
  | [] => (significand, 0)
  | d :: ds =>
    if 10 * significand + d ≤ Width.nat64Max then
      let (s, n) := absorb (10 * significand + d) ds
      (s, n + 1)
    else (significand, 0)

/-- The double nearest to a power of ten. -/
def powerOfTen (exponent : Nat) : Double := .ofNat (Nat.pow 10 exponent)

/-- Divides by a power of ten, in steps of at most `1e308`. -/
def descend (x : Double) (exponent : Nat) : Double :=
  if exponent ≤ 308 then x.div (powerOfTen exponent)
  else if x.isZero then x
  else descend (x.div (powerOfTen 308)) (exponent - 308)
termination_by exponent
decreasing_by omega

/-- A significand scaled by a power of ten; nothing if the result is beyond the doubles. -/
def scale? (significand : Nat) (exponent : Int) : Option Double :=
  let x := Double.ofNat significand
  if exponent < 0 then some (descend x exponent.natAbs)
  else if exponent ≤ 308 then
    let scaled := x.mul (powerOfTen exponent.toNat)
    if scaled.isFinite then some scaled else none
  else if x.isZero then some x
  else none

/-- The double a literal names. -/
def toDouble? (l : Numeral) : Option Double :=
  let (head, taken) := absorb 0 l.whole
  let fraction := l.fraction.getD []
  let (significand, places) := absorb head fraction
  let written : Int :=
    match l.exponent with
    | none => 0
    | some (negative, ds) => if negative then -(natOfDigits ds : Int) else natOfDigits ds
  let exponent : Int := (l.whole.length - taken : Nat) - (places : Int) + written
  (scale? significand exponent).map fun x => if l.negative then x.negate else x

/-- The number a literal names; nothing if it is beyond the doubles. -/
def toNumber? (l : Numeral) : Option Number :=
  let n := natOfDigits l.whole
  if l.fraction.isNone ∧ l.exponent.isNone then
    if ¬ l.negative ∧ n ≤ Width.nat64Max then some (.int n)
    else if l.negative ∧ 0 < n ∧ Width.isInt64 (-n) then some (.int (-n))
    else l.toDouble?.map .real
  else l.toDouble?.map .real

end Numeral

end SessionRelay
