import SessionRelay.Text.Split

/-!
# Tables of code points

A property of characters is written down as rows of words. A word is one code point in hexadecimal
digits, or the first and the last of a range with a hyphen between them. A word that gives code
points others says after `>` where the first one goes, and after a slash how far apart those are that
are meant.
-/

namespace SessionRelay.Text

/-- The code points from a first to a last one. -/
structure CodeRange where
  first : Nat
  last : Nat

/-- The words of some rows, in order. -/
def rowWords (rows : List String) : List (List Char) :=
  rows.flatMap fun row => splitOn ' ' row.toList

/-- The number that lower-case hexadecimal digits write. -/
def codePoint (digits : List Char) : Nat :=
  digits.foldl (fun n c => 16 * n + (if c.isDigit then c.toNat - 48 else c.toNat - 87)) 0

def CodeRange.ofWord (word : List Char) : CodeRange :=
  match splitOn '-' word with
  | [first, last] => ⟨codePoint first, codePoint last⟩
  | _ => ⟨codePoint word, codePoint word⟩

def codeRanges (rows : List String) : List CodeRange := (rowWords rows).map .ofWord

/-- Gives every so many code points of a range those that follow another one. -/
structure Shift where
  range : CodeRange
  step : Nat
  target : Nat

namespace Shift

def ofWord? (word : List Char) : Option Shift :=
  match splitOn '>' word with
  | [source, target] =>
    match splitOn '/' source with
    | [range] => some ⟨.ofWord range, 1, codePoint target⟩
    | [range, step] => some ⟨.ofWord range, codePoint step, codePoint target⟩
    | _ => none
  | _ => none

/-- What a code point is given. -/
def target? (s : Shift) (n : Nat) : Option Nat :=
  if s.range.first ≤ n && n ≤ s.range.last && (n - s.range.first) % s.step == 0 then
    some (s.target + (n - s.range.first))
  else none

end Shift

def shiftsOf (rows : List String) : List Shift := (rowWords rows).filterMap Shift.ofWord?

/-- Whether a character lies in one of the ranges. -/
def isWithin (ranges : List CodeRange) (c : Char) : Bool :=
  ranges.any fun range => range.first ≤ c.toNat && c.toNat ≤ range.last

end SessionRelay.Text
