/-!
# Doubles as multiples of one unit

A double of 64 bits is a sign and a magnitude. Every finite magnitude is a whole multiple of the
least one, `2 ^ -1074`, so arithmetic on doubles is arithmetic on natural numbers followed by one
rounding. Magnitudes are stored by rank: zero has rank 0, the least positive magnitude rank 1, and
so on up to infinity.
-/

namespace SessionRelay

/-- A double that is not a NaN: its sign, and the rank of its magnitude. -/
structure Double where
  negative : Bool
  rank : Nat
  deriving DecidableEq, Inhabited

namespace Double

/-- The rank of infinity; the finite magnitudes are those below it. -/
def infinityRank : Nat := 2047 * Nat.pow 2 52

/-- How many units of `2 ^ -1074` the magnitude of a rank holds. The ranks below `2 ^ 53` count
units; from there on every `2 ^ 52` ranks the step doubles. -/
def unitsOfRank (rank : Nat) : Nat :=
  if rank < Nat.pow 2 53 then rank
  else (Nat.pow 2 52 + rank % Nat.pow 2 52) * Nat.pow 2 (rank / Nat.pow 2 52 - 1)

/-- The quotient rounded to the nearest whole number, a half going to the even one. -/
def roundHalfEven (num den : Nat) : Nat :=
  let whole := num / den
  let twice := 2 * (num % den)
  if twice < den then whole
  else if den < twice then whole + 1
  else whole + whole % 2

/-- The rank of the magnitude nearest to `num / den` units, ties going to the even rank. -/
def rankOfUnits (num den : Nat) : Nat :=
  let shift := Nat.log2 (num / den) - 52
  min (roundHalfEven num (den * Nat.pow 2 shift) + shift * Nat.pow 2 52) infinityRank

/-- One in units. -/
def one : Nat := Nat.pow 2 1074

def units (x : Double) : Nat := unitsOfRank x.rank

def isFinite (x : Double) : Bool := x.rank < infinityRank

def isZero (x : Double) : Bool := x.rank == 0

def negate (x : Double) : Double := { x with negative := !x.negative }

/-- The double nearest to a natural number. -/
def ofNat (n : Nat) : Double := ⟨false, rankOfUnits (n * one) 1⟩

/-- The double nearest to an integer; zero is positive. -/
def ofInt (n : Int) : Double := ⟨n < 0, rankOfUnits (n.natAbs * one) 1⟩

/-- The product, rounded once. -/
def mul (x y : Double) : Double :=
  ⟨x.negative != y.negative, rankOfUnits (x.units * y.units) one⟩

/-- The quotient by a nonzero double, rounded once. -/
def div (x y : Double) : Double :=
  ⟨x.negative != y.negative, rankOfUnits (x.units * one) y.units⟩

/-- The magnitude with its sign, in units. -/
def signedUnits (x : Double) : Int := if x.negative then -(x.units : Int) else x.units

/-- The sum of two finite doubles, rounded once. A sum of zero is positive unless both terms are
negative. -/
def add (x y : Double) : Double :=
  let sum := x.signedUnits + y.signedUnits
  ⟨if sum = 0 then x.negative && y.negative else sum < 0, rankOfUnits sum.natAbs 1⟩

end Double

end SessionRelay
