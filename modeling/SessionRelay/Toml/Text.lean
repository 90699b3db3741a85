import SessionRelay.Toml.Basic

/-!
# TOML strings and keys

Basic strings have escapes, literal strings have none; both come on one line or on several, where
a first line break does not count. Two quotes at most may stand before the three that close a
string of several lines.
-/

namespace SessionRelay.Toml

/-- The character of a number of hexadecimal digits. -/
def scalar? (count : Nat) (cs : List Char) : Option (Char × List Char) := do
  let digits := cs.take count
  let values ← digits.mapM hexValue?
  if digits.length < count then none
  else
    let n := values.foldl (fun n d => 16 * n + d) 0
    if n.isValidChar then some (Char.ofNat n, cs.drop count) else none

/-- The character of an escape, after the backslash. -/
def escape? : Reader Char
  | 'b' :: rest => some ('\x08', rest)
  | 't' :: rest => some ('\t', rest)
  | 'n' :: rest => some ('\n', rest)
  | 'f' :: rest => some ('\x0c', rest)
  | 'r' :: rest => some ('\r', rest)
  | '"' :: rest => some ('"', rest)
  | '\\' :: rest => some ('\\', rest)
  | 'u' :: rest => scalar? 4 rest
  | 'U' :: rest => scalar? 8 rest
  | _ => none

/-- Drops white space and line breaks. -/
def skipLines : List Char → List Char
  | '\r' :: '\n' :: rest => skipLines rest
  | c :: rest => if isBlank c || c == '\n' then skipLines rest else c :: rest
  | [] => []

/-- Leaves what follows a line break that a backslash takes out, with all white space after it. -/
def continuation? (cs : List Char) : Option (List Char) :=
  (newline? (skipBlanks cs)).map skipLines

/-- The quotes that end a string of several lines: how many of a run belong to the text. -/
def closing? (quote : Char) (cs : List Char) : Option (List Char × List Char) :=
  let run := (cs.takeWhile (· == quote)).length
  if run < 3 then none
  else
    let kept := min (run - 3) 2
    some (List.replicate kept quote, cs.drop (kept + 3))

/-- The rest of a basic string on one line. The number of characters is fuel enough. -/
def basicRest : Nat → Reader (List Char)
  | 0, _ => none
  | _, [] => none
  | fuel + 1, c :: rest =>
    if c = '"' then some ([], rest)
    else if c = '\\' then do
      let (e, rest) ← escape? rest
      let (text, rest) ← basicRest fuel rest
      return (e :: text, rest)
    else if isPrintable c then do
      let (text, rest) ← basicRest fuel rest
      return (c :: text, rest)
    else none

/-- The rest of a literal string on one line. -/
def literalRest : Reader (List Char)
  | [] => none
  | c :: rest =>
    if c = '\x27' then some ([], rest)
    else if isPrintable c then do
      let (text, rest) ← literalRest rest
      return (c :: text, rest)
    else none

/-- The rest of a basic string on several lines. -/
def basicLines : Nat → Reader (List Char)
  | 0, _ => none
  | fuel + 1, cs =>
    match closing? '"' cs with
    | some closed => some closed
    | none =>
      match newline? cs with
      | some rest => do
        let (text, rest) ← basicLines fuel rest
        return ('\n' :: text, rest)
      | none =>
        match cs with
        | [] => none
        | '\\' :: rest =>
          match continuation? rest with
          | some rest => basicLines fuel rest
          | none => do
            let (e, rest) ← escape? rest
            let (text, rest) ← basicLines fuel rest
            return (e :: text, rest)
        | c :: rest =>
          if isPrintable c then do
            let (text, rest) ← basicLines fuel rest
            return (c :: text, rest)
          else none

/-- The rest of a literal string on several lines. -/
def literalLines : Nat → Reader (List Char)
  | 0, _ => none
  | fuel + 1, cs =>
    match closing? '\x27' cs with
    | some closed => some closed
    | none =>
      match newline? cs with
      | some rest => do
        let (text, rest) ← literalLines fuel rest
        return ('\n' :: text, rest)
      | none =>
        match cs with
        | [] => none
        | c :: rest =>
          if isPrintable c then do
            let (text, rest) ← literalLines fuel rest
            return (c :: text, rest)
          else none

/-- Leaves what follows a line break, if there is one. -/
def skipNewline (cs : List Char) : List Char := (newline? cs).getD cs

/-- A string on one line. -/
def lineString? : Reader String
  | '"' :: rest => (basicRest (rest.length + 1) rest).map fun (text, rest) => (.ofList text, rest)
  | '\x27' :: rest => (literalRest rest).map fun (text, rest) => (.ofList text, rest)
  | _ => none

/-- A string of any of the four kinds. -/
def string? : Reader String
  | '"' :: '"' :: '"' :: rest =>
    (basicLines (rest.length + 1) (skipNewline rest)).map fun (text, rest) => (.ofList text, rest)
  | '\x27' :: '\x27' :: '\x27' :: rest =>
    (literalLines (rest.length + 1) (skipNewline rest)).map fun (text, rest) => (.ofList text, rest)
  | cs => lineString? cs

def isBareKeyChar (c : Char) : Bool := c.isAlphanum || c == '_' || c == '-'

/-- One part of a key. -/
def simpleKey? (cs : List Char) : Option (String × List Char) :=
  match lineString? cs with
  | some key => some key
  | none =>
    match cs with
    | c :: _ =>
      if isBareKeyChar c then
        some (.ofList (cs.takeWhile isBareKeyChar), cs.dropWhile isBareKeyChar)
      else none
    | [] => none

/-- How many containers, or parts of a key, may be nested. -/
def maxDepth : Nat := 79

/-- The parts of a key between dots, with the blanks around them. -/
def keyParts : Nat → Reader (List String)
  | 0, _ => none
  | fuel + 1, cs => do
    let (part, rest) ← simpleKey? (skipBlanks cs)
    match skipBlanks rest with
    | '.' :: rest =>
      let (parts, rest) ← keyParts fuel rest
      return (part :: parts, rest)
    | rest => return ([part], rest)

def key? : Reader (List String) := keyParts maxDepth

end SessionRelay.Toml
