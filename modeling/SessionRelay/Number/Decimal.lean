import SessionRelay.Number.Double

/-!
# The fewest decimal digits that name a double

A decimal names a double when the double is the nearest one to it. `shortest` looks at grids of
1, 2, … 17 digits; on each it tests the two grid points around the double, takes the first grid
where one of them names it, and of two such points the nearer one.
-/

namespace SessionRelay

/-- The number `digits * 10 ^ exponent`. -/
structure Decimal where
  digits : Nat
  exponent : Int
  deriving DecidableEq

namespace Decimal

/-- The decimal digits of a number, most significant first. -/
def digitChars (n : Nat) : List Char := Nat.toDigits 10 n

/-- The quotient `digits * 10 ^ exponent` over one, as a pair of natural numbers. -/
def ratio (d : Decimal) : Nat × Nat :=
  match d.exponent with
  | .ofNat e => (d.digits * Nat.pow 10 e, 1)
  | .negSucc e => (d.digits, Nat.pow 10 (e + 1))

/-- The rank of the magnitude nearest to a decimal. -/
def nearestRank (d : Decimal) : Nat :=
  Double.rankOfUnits (d.ratio.1 * Double.one) d.ratio.2

/-- Drops trailing zeros, keeping the value. -/
def trim (d : Decimal) : Nat → Decimal
  | 0 => d
  | fuel + 1 =>
    if d.digits ≠ 0 ∧ d.digits % 10 = 0 then trim ⟨d.digits / 10, d.exponent + 1⟩ fuel else d

/-- The exponent of the leading decimal digit of a positive finite magnitude of `u` units. Every
such magnitude is above `10 ^ -400`. -/
def leadingExponent (u : Nat) : Int :=
  (digitChars (u * Nat.pow 10 400 / Double.one)).length - 401

/-- The grid point below a magnitude of `u` units, on the grid of step `10 ^ e`. -/
def floorOnGrid (u : Nat) (e : Int) : Nat :=
  match e with
  | .ofNat e => u / (Double.one * Nat.pow 10 e)
  | .negSucc e => u * Nat.pow 10 (e + 1) / Double.one

/-- Whether the grid point above is nearer to `u` units than the one below, a tie going to the even
point. -/
def upperIsNearer (u : Nat) (low : Nat) (e : Int) : Bool :=
  let (value, step) : Nat × Nat :=
    match e with
    | .ofNat e => (u, Double.one * Nat.pow 10 e)
    | .negSucc e => (u * Nat.pow 10 (e + 1), Double.one)
  let twice := 2 * (value - low * step)
  step < twice || (step == twice && low % 2 == 1)

/-- The point on the grid of step `10 ^ e` that names the magnitude of this rank, if there is
one. -/
def onGrid? (rank : Nat) (e : Int) : Option Decimal :=
  let u := Double.unitsOfRank rank
  let low := floorOnGrid u e
  let below : Decimal := ⟨low, e⟩
  let above : Decimal := ⟨low + 1, e⟩
  match decide (below.nearestRank = rank), decide (above.nearestRank = rank) with
  | true, true => some (if upperIsNearer u low e then above else below)
  | true, false => some below
  | false, true => some above
  | false, false => none

/-- The magnitude in full: a double has a finite decimal expansion. -/
def exact (rank : Nat) : Decimal :=
  ⟨Double.unitsOfRank rank * Nat.pow 5 1074, -1074⟩

/-- The shortest decimal that names the finite magnitude of this rank. -/
def shortest (rank : Nat) : Decimal :=
  if rank = 0 then ⟨0, 0⟩
  else
    let top := leadingExponent (Double.unitsOfRank rank)
    let grids := (List.range 17).map fun n : Nat => top - n
    ((grids.findSome? (onGrid? rank)).getD (exact rank)).trim 800

/-- The written form of a shortest decimal: positional from `1e-5` up to below `1e16`, with at
least one digit after the point, and with an exponent elsewhere. -/
def chars (d : Decimal) : List Char :=
  let ds := digitChars d.digits
  let len : Int := ds.length
  let point := len + d.exponent
  if 0 ≤ d.exponent ∧ point ≤ 16 then
    ds ++ List.replicate d.exponent.toNat '0' ++ ['.', '0']
  else if 0 < point ∧ point ≤ 16 then
    ds.take point.toNat ++ ['.'] ++ ds.drop point.toNat
  else if -5 < point ∧ point ≤ 0 then
    ['0', '.'] ++ List.replicate (-point).toNat '0' ++ ds
  else
    let mantissa := if ds.length = 1 then ds else ds.take 1 ++ ['.'] ++ ds.drop 1
    let sign := if point - 1 < 0 then '-' else '+'
    mantissa ++ ['e', sign] ++ digitChars (point - 1).natAbs

end Decimal

/-- The shortest text that names a finite double. -/
def Double.chars (x : Double) : List Char :=
  (if x.negative then ['-'] else []) ++ (Decimal.shortest x.rank).chars

end SessionRelay
