/-!
# Punycode

How a label with characters outside ASCII is spelled in ASCII (RFC 3492): its ASCII characters in
order, a hyphen, and then numbers that tell which other characters go where. A number is a run of
digits to base 36, least significant first, that ends with a digit below a threshold; the thresholds
adapt to the numbers read so far.
-/

namespace SessionRelay.Url.Punycode

/-- The value of a digit: a letter of either case or a decimal digit. -/
def digitValue? (c : Char) : Option Nat :=
  let n := c.toNat
  if c.isLower then some (n - 97)
  else if c.isUpper then some (n - 65)
  else if c.isDigit then some (n - 48 + 26)
  else none

/-- The digit that ends a number at a position lies below this. -/
def threshold (position bias : Nat) : Nat := min 26 (max 1 (position - bias))

/-- Reads one number from a position on, and gives what follows it. A digit weighs less than
`2 ^ 32`. -/
def number? (bias : Nat) (position weight value : Nat) : List Char → Option (Nat × List Char)
  | [] => none
  | c :: cs =>
    match digitValue? c with
    | none => none
    | some digit =>
      let value := value + digit * weight
      let limit := threshold position bias
      if digit < limit then some (value, cs)
      else if 0x100000000 ≤ weight * (36 - limit) then none
      else number? bias (position + 36) (weight * (36 - limit)) value cs

/-- Divides by 35 until at most 455 is left. -/
def adaptBy (bias delta : Nat) : Nat :=
  if 455 < delta then adaptBy (bias + 36) (delta / 35) else bias + 36 * delta / (delta + 38)
termination_by delta
decreasing_by omega

/-- The bias after a number was read, with so many characters placed. -/
def adapt (delta placed : Nat) (isFirst : Bool) : Nat :=
  let delta := if isFirst then delta / 700 else delta / 2
  adaptBy 0 (delta + delta / placed)

/-- Reads numbers and places a character for each: at most so many. -/
def place? (placed : List Char) (code index bias : Nat) (isFirst : Bool) :
    Nat → List Char → Option (List Char)
  | _, [] => some placed
  | 0, _ => none
  | fuel + 1, cs =>
    match number? bias 36 1 0 cs with
    | none => none
    | some (delta, rest) =>
      let slots := placed.length + 1
      let code := code + (index + delta) / slots
      let index := (index + delta) % slots
      if code.isValidChar then
        place? (placed.insertIdx index (Char.ofNat code)) code (index + 1)
          (adapt delta slots isFirst) false fuel rest
      else none

/-- The label that a text in ASCII spells. The last hyphen ends the ASCII characters, if there are
any before it. -/
def decode? (cs : List Char) : Option (List Char) :=
  let backwards := cs.reverse
  let basic := ((backwards.dropWhile (· != '-')).drop 1).reverse
  let numbers := if basic.isEmpty then cs else (backwards.takeWhile (· != '-')).reverse
  if cs.all fun c => c.toNat < 128 then place? basic 128 0 72 true numbers.length numbers else none

end SessionRelay.Url.Punycode
