import SessionRelay.Json.Numeral

/-!
# The tokens of a JSON text

The text is read one character at a time. A literal that the grammar allows but that has no value,
a number beyond the doubles or a string with half a surrogate pair, is still a token; it matters
only where its value is wanted.
-/

namespace SessionRelay.Json

inductive Token
  | openArray
  | closeArray
  | openObject
  | closeObject
  | comma
  | colon
  | null
  | bool (b : Bool)
  | number (value : Option Number)
  | string (value : Option String)
  deriving DecidableEq

/-- A string literal being read: its text so far, last character first, the first half of a
surrogate pair that waits for the second, and whether all escapes so far named characters. -/
structure Partial where
  text : List Char
  half : Option Nat
  sound : Bool
  deriving DecidableEq

namespace Partial

def start : Partial := ⟨[], none, true⟩

/-- A half pair that is not completed at once stays half. -/
def settle (p : Partial) : Partial := ⟨p.text, none, p.sound && p.half.isNone⟩

def push (p : Partial) (c : Char) : Partial :=
  let p := p.settle
  { p with text := c :: p.text }

/-- Adds an escaped UTF-16 unit. -/
def pushUnit (p : Partial) (unit : Nat) : Partial :=
  if 0xD800 ≤ unit ∧ unit < 0xDC00 then { p.settle with half := some unit }
  else if 0xDC00 ≤ unit ∧ unit < 0xE000 then
    match p.half with
    | some high =>
      ⟨Char.ofNat (0x10000 + (high - 0xD800) * 0x400 + (unit - 0xDC00)) :: p.text, none, p.sound⟩
    | none => { p with sound := false }
  else p.push (Char.ofNat unit)

def token (p : Partial) : Token :=
  let p := p.settle
  .string (if p.sound then some (String.ofList p.text.reverse) else none)

end Partial

/-- Where the reader stands in the text. -/
inductive Scan
  | between
  | word (letters : List Char)
  | numeral (chars : List Char)
  | string (p : Partial)
  | escape (p : Partial)
  | unit (p : Partial) (left : Nat) (value : Nat)
  deriving DecidableEq

def isBlank (c : Char) : Bool := c == ' ' || c == '\n' || c == '\t' || c == '\r'

def isNumeralChar (c : Char) : Bool :=
  c.isDigit || c == '+' || c == '-' || c == '.' || c == 'e' || c == 'E'

def hexValue? (c : Char) : Option Nat :=
  if '0' ≤ c ∧ c ≤ '9' then some (c.toNat - 48)
  else if 'a' ≤ c ∧ c ≤ 'f' then some (c.toNat - 87)
  else if 'A' ≤ c ∧ c ≤ 'F' then some (c.toNat - 55)
  else none

/-- The character a one-letter escape names. -/
def escaped? (c : Char) : Option Char :=
  if c = '"' ∨ c = '\\' ∨ c = '/' then some c
  else if c = 'b' then some '\x08'
  else if c = 'f' then some '\x0c'
  else if c = 'n' then some '\n'
  else if c = 'r' then some '\r'
  else if c = 't' then some '\t'
  else none

def word? (letters : List Char) : Option Token :=
  if letters = ['n', 'u', 'l', 'l'] then some .null
  else if letters = ['t', 'r', 'u', 'e'] then some (.bool true)
  else if letters = ['f', 'a', 'l', 's', 'e'] then some (.bool false)
  else none

def numeral? (chars : List Char) : Option Token :=
  (Numeral.ofChars? chars).map fun l => .number l.toNumber?

/-- A character between tokens: a token of its own, or the start of one. -/
def startToken (c : Char) : Option (Scan × List Token) :=
  if isBlank c then some (.between, [])
  else if c = '[' then some (.between, [.openArray])
  else if c = ']' then some (.between, [.closeArray])
  else if c = '\x7b' then some (.between, [.openObject])
  else if c = '\x7d' then some (.between, [.closeObject])
  else if c = ',' then some (.between, [.comma])
  else if c = ':' then some (.between, [.colon])
  else if c = '"' then some (.string .start, [])
  else if c.isDigit ∨ c = '-' then some (.numeral [c], [])
  else if c.isAlpha then some (.word [c], [])
  else none

/-- Reads one character: the new place, and the tokens it completes. -/
def scan (place : Scan) (c : Char) : Option (Scan × List Token) :=
  match place with
  | .between => startToken c
  | .word letters =>
    if c.isAlpha then some (.word (c :: letters), [])
    else do
      let token ← word? letters.reverse
      let (next, tokens) ← startToken c
      return (next, token :: tokens)
  | .numeral chars =>
    if isNumeralChar c then some (.numeral (c :: chars), [])
    else do
      let token ← numeral? chars.reverse
      let (next, tokens) ← startToken c
      return (next, token :: tokens)
  | .string p =>
    if c = '"' then some (.between, [p.token])
    else if c = '\\' then some (.escape p, [])
    else if c.toNat < 32 then none
    else some (.string (p.push c), [])
  | .escape p =>
    if c = 'u' then some (.unit p 3 0, [])
    else (escaped? c).map fun c => (.string (p.push c), [])
  | .unit p left value =>
    (hexValue? c).map fun d =>
      match left with
      | 0 => (.string (p.pushUnit (16 * value + d)), [])
      | left + 1 => (.unit p left (16 * value + d), [])

/-- The tokens completed by the end of the text. -/
def finishScan : Scan → Option (List Token)
  | .between => some []
  | .word letters => (word? letters.reverse).map fun token => [token]
  | .numeral chars => (numeral? chars.reverse).map fun token => [token]
  | .string _ | .escape _ | .unit _ _ _ => none

/-- The tokens of a text read from a place on. -/
def tokensFrom? (place : Scan) : List Char → Option (List Token)
  | [] => finishScan place
  | c :: cs => do
    let (next, tokens) ← scan place c
    let rest ← tokensFrom? next cs
    return tokens ++ rest

def tokens? (text : List Char) : Option (List Token) := tokensFrom? .between text

end SessionRelay.Json
