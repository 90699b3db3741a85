import SessionRelay.Number.Double
import SessionRelay.Number.Width
import SessionRelay.Toml.Basic

/-!
# TOML numbers and dates

Single underscores may stand between digits. Integers have 64 bits; a float must not be too large.
-/

namespace SessionRelay.Toml

/-- Digits of a base with single underscores between them. -/
def digitsAfter (isDigit : Char → Bool) : List Char → Option (List Char × List Char)
  | '_' :: c :: rest =>
    if isDigit c then (digitsAfter isDigit rest).map fun (ds, rest) => (c :: ds, rest) else none
  | ['_'] => none
  | c :: rest =>
    if isDigit c then (digitsAfter isDigit rest).map fun (ds, rest) => (c :: ds, rest)
    else some ([], c :: rest)
  | [] => some ([], [])

/-- At least one digit, with underscores between digits. -/
def digits? (isDigit : Char → Bool) : Reader (List Char)
  | c :: rest =>
    if isDigit c then (digitsAfter isDigit rest).map fun (ds, rest) => (c :: ds, rest) else none
  | [] => none

/-- The digits of a decimal integer; only a lone zero starts with zero. -/
def decimalDigits? : Reader (List Char)
  | '0' :: rest => some (['0'], rest)
  | cs => digits? isDigit cs

def sign : List Char → Bool × List Char
  | '+' :: rest => (false, rest)
  | '-' :: rest => (true, rest)
  | cs => (false, cs)

def natOf (base : Nat) (digits : List Char) : Nat :=
  digits.foldl (fun n c => base * n + (hexValue? c).getD 0) 0

def isDigitOf (base : Nat) (c : Char) : Bool :=
  match hexValue? c with
  | some d => d < base
  | none => false

def smallInteger? (n : Int) : Option Toml :=
  if Width.isInt64 n then some (.integer n) else none

def basedInteger? (base : Nat) (cs : List Char) : Option (Toml × List Char) := do
  let (ds, rest) ← digits? (isDigitOf base) cs
  let n ← smallInteger? (natOf base ds)
  return (n, rest)

def integer? : Reader Toml
  | '0' :: 'x' :: rest => basedInteger? 16 rest
  | '0' :: 'o' :: rest => basedInteger? 8 rest
  | '0' :: 'b' :: rest => basedInteger? 2 rest
  | cs => do
    let (negative, rest) := sign cs
    let (ds, rest) ← decimalDigits? rest
    let n : Int := natOf 10 ds
    let n ← smallInteger? (if negative then -n else n)
    return (n, rest)

/-- Whether digits with an exponent are a double that is not infinite. -/
def isFinite (digits : List Char) (exponent : Int) : Bool :=
  let significant := digits.dropWhile (· == '0')
  let magnitude : Int := significant.length + exponent
  if significant.isEmpty || magnitude ≤ 300 then true
  else if 320 ≤ magnitude then false
  else
    let n := natOf 10 significant
    let rank :=
      if 0 ≤ exponent then Double.rankOfUnits (n * Nat.pow 10 exponent.toNat * Double.one) 1
      else Double.rankOfUnits (n * Double.one) (Nat.pow 10 exponent.natAbs)
    rank < Double.infinityRank

/-- The digits after the point. -/
def fraction? : Reader (List Char)
  | '.' :: rest => digits? isDigit rest
  | _ => none

def exponent? (cs : List Char) : Option (Int × List Char) := do
  let rest ←
    match cs with
    | 'e' :: rest => some rest
    | 'E' :: rest => some rest
    | _ => none
  let (negative, rest) := sign rest
  let (ds, rest) ← digits? isDigit rest
  let n : Int := natOf 10 ds
  return (if negative then -n else n, rest)

/-- The names of floats that are no numbers. -/
def specialFloat? : Reader Toml
  | 'i' :: 'n' :: 'f' :: rest => some (.float, rest)
  | 'n' :: 'a' :: 'n' :: rest => some (.float, rest)
  | _ => none

def float? (cs : List Char) : Option (Toml × List Char) := do
  let (negative, rest) := sign cs
  match specialFloat? rest with
  | some found => some found
  | none =>
    let (whole, rest) ← decimalDigits? rest
    let (digits, places, rest) ←
      match rest with
      | '.' :: _ => (fraction? rest).map fun (ds, rest) => (whole ++ ds, ds.length, rest)
      | _ => if (exponent? rest).isSome then some (whole, 0, rest) else none
    let startsExponent :=
      match rest with
      | c :: _ => c == 'e' || c == 'E'
      | [] => false
    let (exponent, rest) ← if startsExponent then exponent? rest else some (0, rest)
    if negative || isFinite digits (exponent - places) then some (.float, rest) else none

/-! ### Dates -/

/-- A number of exactly so many digits between two bounds. -/
def fixed? (count low high : Nat) (cs : List Char) : Option (Nat × List Char) :=
  let ds := cs.take count
  let n := natOf 10 ds
  if ds.length = count ∧ ds.all isDigit ∧ low ≤ n ∧ n ≤ high then some (n, cs.drop count) else none

def char? (c : Char) : List Char → Option (List Char)
  | x :: rest => if x = c then some rest else none
  | [] => none

def daysIn (year month : Nat) : Nat :=
  let leap := year % 4 == 0 && (year % 100 != 0 || year % 400 == 0)
  if month = 2 then (if leap then 29 else 28)
  else if month = 4 ∨ month = 6 ∨ month = 9 ∨ month = 11 then 30
  else 31

def date? (cs : List Char) : Option (List Char) := do
  let (year, rest) ← fixed? 4 0 9999 cs
  let rest ← char? '-' rest
  let (month, rest) ← fixed? 2 1 12 rest
  let rest ← char? '-' rest
  let (_, rest) ← fixed? 2 1 (daysIn year month) rest
  return rest

def time? (cs : List Char) : Option (List Char) := do
  let (_, rest) ← fixed? 2 0 23 cs
  let rest ← char? ':' rest
  let (_, rest) ← fixed? 2 0 59 rest
  let rest ← char? ':' rest
  let (_, rest) ← fixed? 2 0 60 rest
  match rest with
  | '.' :: d :: more => if isDigit d then some (more.dropWhile isDigit) else none
  | '.' :: [] => none
  | _ => some rest

def offset? : List Char → Option (List Char)
  | 'Z' :: rest => some rest
  | 'z' :: rest => some rest
  | c :: rest =>
    if c = '+' ∨ c = '-' then do
      let (_, rest) ← fixed? 2 0 23 rest
      let rest ← char? ':' rest
      let (_, rest) ← fixed? 2 0 59 rest
      return rest
    else none
  | [] => none

/-- Leaves what follows a time with its offset, if there is one. -/
def skipTime (cs : List Char) : List Char :=
  match cs with
  | c :: rest =>
    if c = 'T' ∨ c = 't' ∨ c = ' ' then
      match time? rest with
      | some rest => (offset? rest).getD rest
      | none => cs
    else cs
  | [] => cs

/-- A date, a time, or both. -/
def datetime? (cs : List Char) : Option (Toml × List Char) :=
  match date? cs with
  | some rest => some (.datetime, skipTime rest)
  | none => (time? cs).map fun rest => (.datetime, rest)

/-- A number or a date. -/
def numeric? (cs : List Char) : Option (Toml × List Char) :=
  (datetime? cs).or ((float? cs).or (integer? cs))

/-- A word that is a value. -/
def word? : Reader Toml
  | 't' :: 'r' :: 'u' :: 'e' :: rest => some (.boolean true, rest)
  | 'f' :: 'a' :: 'l' :: 's' :: 'e' :: rest => some (.boolean false, rest)
  | cs => specialFloat? cs

end SessionRelay.Toml
