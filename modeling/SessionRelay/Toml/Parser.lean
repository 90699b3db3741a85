import SessionRelay.Toml.Scalar
import SessionRelay.Toml.Table
import SessionRelay.Toml.Text

/-!
# Reading TOML text

A document is read line by line: headers choose the table that the keys after them go to. Values are
read with as much fuel as the text has characters, since each step takes at least one.
-/

namespace SessionRelay.Toml

/-- Leaves what follows blanks, line breaks and comments. -/
def skipSpace : Nat → List Char → List Char
  | 0, cs => cs
  | fuel + 1, cs =>
    match cs with
    | c :: rest =>
      if isBlank c then skipSpace fuel rest
      else
        match newline? (skipComment cs) with
        | some rest => skipSpace fuel rest
        | none => cs
    | [] => []

mutual

/-- A value, inside containers that leave the given depth. -/
def value? (depth : Nat) : Nat → Reader Toml
  | 0, _ => none
  | fuel + 1, cs =>
    match cs with
    | '[' :: rest =>
      match depth with
      | 0 => none
      | depth + 1 => do
        let (items, rest) ← items? depth fuel (skipSpace rest.length rest)
        return (.array items, rest)
    | '\x7b' :: rest =>
      match depth with
      | 0 => none
      | depth + 1 => do
        let (members, rest) ←
          match skipBlanks rest with
          | '\x7d' :: rest => some ([], rest)
          | rest => pairs? depth fuel [] rest
        return (.table (membersToToml members), rest)
    | '"' :: _ | '\x27' :: _ => (string? cs).map fun (s, rest) => (.string s, rest)
    | c :: _ => if isDigit c || c == '+' || c == '-' then numeric? cs else word? cs
    | [] => none

/-- The items of an array and its end. A comma may stand after the last item. -/
def items? (depth : Nat) : Nat → Reader (List Toml)
  | 0, _ => none
  | fuel + 1, cs =>
    match cs with
    | ']' :: rest => some ([], rest)
    | _ => do
      let (item, rest) ← value? depth fuel cs
      match skipSpace rest.length rest with
      | ',' :: rest =>
        let (items, rest) ← items? depth fuel (skipSpace rest.length rest)
        return (item :: items, rest)
      | ']' :: rest => return ([item], rest)
      | _ => none

/-- The members of a table on one line and its end, added to those before. -/
def pairs? (depth : Nat) : Nat → Members → Reader Members
  | 0, _, _ => none
  | fuel + 1, members, cs => do
    let (path, rest) ← key? cs
    let rest ← char? '=' rest
    let (v, rest) ← value? depth fuel (skipBlanks rest)
    let (_, members) ←
      Members.addValue path.dropLast (path.getLast?.getD "") v .header members
    match skipBlanks rest with
    | ',' :: rest => pairs? depth fuel members rest
    | '\x7d' :: rest => return (members, rest)
    | _ => none

end

/-- A document being read: the members so far and the table that takes the next key. -/
structure Draft where
  members : Members := []
  current : List String := []

def Draft.change (d : Draft) (path : List String)
    (f : Origin → Members → Option (Origin × Members)) : Option Members :=
  (Members.within false f path .header d.members).map Prod.snd

/-- A header in brackets: its path and whether it starts a table of an array. -/
def header? : Reader (List String × Bool)
  | '[' :: '[' :: rest => do
    let (path, rest) ← key? rest
    let rest ← char? ']' rest
    let rest ← char? ']' rest
    return ((path, true), rest)
  | '[' :: rest => do
    let (path, rest) ← key? rest
    let rest ← char? ']' rest
    return ((path, false), rest)
  | _ => none

/-- A line that is not empty. -/
def line? (d : Draft) (cs : List Char) : Option (Draft × List Char) :=
  match cs with
  | '[' :: _ => do
    let ((path, element), rest) ← header? cs
    let last := path.getLast?.getD ""
    let members ←
      d.change path.dropLast
        (if element then Members.startElement last else Members.startTable last)
    let rest ← endLine? rest
    return (⟨members, path⟩, rest)
  | _ => do
    let (path, rest) ← key? cs
    let rest ← char? '=' rest
    let (v, rest) ← value? maxDepth (cs.length + 1) (skipBlanks rest)
    let rest ← endLine? rest
    let members ← d.change d.current (Members.addValue path.dropLast (path.getLast?.getD "") v)
    return (⟨members, d.current⟩, rest)

/-- The lines of a text. Each takes at least one character. -/
def lines? : Nat → Draft → List Char → Option Draft
  | 0, _, _ => none
  | fuel + 1, d, cs =>
    match skipBlanks cs with
    | [] => some d
    | '#' :: rest => do
      let rest ← endLine? ('#' :: rest)
      lines? fuel d rest
    | rest =>
      match newline? rest with
      | some rest => lines? fuel d rest
      | none => do
        let (d, rest) ← line? d rest
        lines? fuel d rest

/-- The members of a document. A byte order mark at its start does not count. -/
def parse? (text : String) : Option (List (String × Toml)) :=
  let cs :=
    match text.toList with
    | '\ufeff' :: rest => rest
    | cs => cs
  (lines? (cs.length + 1) {} cs).map fun d => membersToToml d.members

end SessionRelay.Toml
