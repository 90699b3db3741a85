import SessionRelay.Json.Basic

/-!
# JSON text

`compact` writes a value without spaces, `pretty` with an indent of two spaces. Strings escape only
what JSON requires, so a written value never contains a control character.
-/

namespace SessionRelay

/-- The lower-case hexadecimal digit of a number below 16. -/
def hexDigit (n : Nat) : Char :=
  if n < 10 then Char.ofNat (48 + n) else Char.ofNat (87 + n)

namespace Json

/-- One character of a string literal. -/
def escape (c : Char) : List Char :=
  if c = '"' then ['\\', '"']
  else if c = '\\' then ['\\', '\\']
  else if c = '\x08' then ['\\', 'b']
  else if c = '\x0c' then ['\\', 'f']
  else if c = '\n' then ['\\', 'n']
  else if c = '\r' then ['\\', 'r']
  else if c = '\t' then ['\\', 't']
  else if c.toNat < 32 then
    ['\\', 'u', '0', '0', hexDigit (c.toNat / 16), hexDigit (c.toNat % 16)]
  else [c]

/-- A string literal. -/
def quote (s : String) : List Char := '"' :: s.toList.flatMap escape ++ ['"']

end Json

namespace Number

/-- An integer in decimal. -/
def intChars (n : Int) : List Char :=
  if n < 0 then '-' :: Decimal.digitChars n.natAbs else Decimal.digitChars n.natAbs

/-- A number as it is written; an infinity, which JSON cannot write, is `null`. -/
def chars : Number → List Char
  | .int n => intChars n
  | .real x => if x.isFinite then x.chars else ['n', 'u', 'l', 'l']

end Number

namespace Json

mutual

/-- A value without spaces. -/
def compactChars : Json → List Char
  | .null => ['n', 'u', 'l', 'l']
  | .bool true => ['t', 'r', 'u', 'e']
  | .bool false => ['f', 'a', 'l', 's', 'e']
  | .number n => n.chars
  | .string s => quote s
  | .array [] => ['[', ']']
  | .array (item :: items) => '[' :: compactChars item ++ compactItems items
  | .object [] => ['\x7b', '\x7d']
  | .object (member :: members) => '\x7b' :: compactMember member ++ compactMembers members

/-- The items after the first, and the closing bracket. -/
def compactItems : List Json → List Char
  | [] => [']']
  | item :: items => ',' :: compactChars item ++ compactItems items

def compactMember : String × Json → List Char
  | (key, value) => quote key ++ ':' :: compactChars value

/-- The members after the first, and the closing brace. -/
def compactMembers : List (String × Json) → List Char
  | [] => ['\x7d']
  | member :: members => ',' :: compactMember member ++ compactMembers members

end

/-- A new line at a depth. -/
def lineBreak (depth : Nat) : List Char := '\n' :: List.replicate (2 * depth) ' '

mutual

/-- A value spread over lines, standing at a depth. -/
def prettyChars (depth : Nat) : Json → List Char
  | .null => ['n', 'u', 'l', 'l']
  | .bool true => ['t', 'r', 'u', 'e']
  | .bool false => ['f', 'a', 'l', 's', 'e']
  | .number n => n.chars
  | .string s => quote s
  | .array [] => ['[', ']']
  | .array (item :: items) =>
    '[' :: lineBreak (depth + 1) ++ prettyChars (depth + 1) item ++ prettyItems depth items
  | .object [] => ['\x7b', '\x7d']
  | .object (member :: members) =>
    '\x7b' :: lineBreak (depth + 1) ++ prettyMember (depth + 1) member ++ prettyMembers depth members

def prettyItems (depth : Nat) : List Json → List Char
  | [] => lineBreak depth ++ [']']
  | item :: items =>
    ',' :: lineBreak (depth + 1) ++ prettyChars (depth + 1) item ++ prettyItems depth items

def prettyMember (depth : Nat) : String × Json → List Char
  | (key, value) => quote key ++ ':' :: ' ' :: prettyChars depth value

def prettyMembers (depth : Nat) : List (String × Json) → List Char
  | [] => lineBreak depth ++ ['\x7d']
  | member :: members =>
    ',' :: lineBreak (depth + 1) ++ prettyMember (depth + 1) member ++ prettyMembers depth members

end

/-- The text of a value, without spaces. -/
def compact (v : Json) : String := String.ofList v.compactChars

/-- The text of a value, spread over lines. -/
def pretty (v : Json) : String := String.ofList (v.prettyChars 0)

end Json

end SessionRelay
