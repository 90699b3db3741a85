import SessionRelay.Text.Blank
import SessionRelay.Url.Host

/-!
# Absolute URLs

`check` decides whether a text is an absolute URL by the rules browsers follow: blanks around it
and tabs or line ends anywhere in it do not count, a scheme with a known meaning tolerates any
number of slashes, and only the authority can be wrong.
-/

namespace SessionRelay.Url

/-- How a scheme's name decides what follows it. -/
inductive SchemeKind
  | file
  | special
  | other
  deriving DecidableEq

def schemeKind (name : List Char) : SchemeKind :=
  let lower := String.ofList (name.map Char.toLower)
  if lower = "file" then .file
  else if lower ∈ ["http", "https", "ws", "wss", "ftp"] then .special
  else .other

/-- The name before the first colon, and what follows it. -/
def splitScheme? (cs : List Char) : Option (List Char × List Char) :=
  let isNameChar (c : Char) : Bool := c.isAlphanum || c == '+' || c == '-' || c == '.'
  match cs with
  | c :: _ =>
    if c.isAlpha then
      match cs.dropWhile isNameChar with
      | ':' :: rest => some (cs.takeWhile isNameChar, rest)
      | _ => none
    else none
  | [] => none

/-- Where the authority of a URL ends. -/
def endsAuthority (kind : SchemeKind) (c : Char) : Bool :=
  c == '/' || c == '?' || c == '#' || (c == '\\' && kind != .other)

/-- The host up to a port or the end of the authority; a colon inside brackets belongs to the
host. -/
def takeHost (kind : SchemeKind) (inBrackets : Bool) : List Char → List Char × List Char
  | [] => ([], [])
  | c :: cs =>
    if endsAuthority kind c || (c == ':' && !inBrackets) then ([], c :: cs)
    else
      let inBrackets := if c = '[' then true else if c = ']' then false else inBrackets
      let (host, rest) := takeHost kind inBrackets cs
      (c :: host, rest)

/-- A port is a number of 16 bits and ends where the authority does; it may be empty. -/
def checkPort (port : Nat) : List Char → Except Error Unit
  | [] => .ok ()
  | c :: cs =>
    if c.isDigit then
      let port := port * 10 + (c.toNat - 48)
      if 65535 < port then .error .invalidPort else checkPort port cs
    else if c = '/' ∨ c = '\\' ∨ c = '?' ∨ c = '#' then .ok ()
    else .error .invalidPort

/-- The last `@` of an authority splits it into user information and host. -/
def splitUser? (authority : List Char) : Option (List Char × List Char) :=
  if '@' ∈ authority then
    let backwards := authority.reverse
    some ((backwards.dropWhile (· != '@')).drop 1 |>.reverse,
      (backwards.takeWhile (· != '@')).reverse)
  else none

/-- Whether user information names a user or a password. A lone colon names neither. -/
def namesUser (user : List Char) : Bool := !user.isEmpty && user != [':']

/-- What follows the slashes of an authority. -/
def checkAuthority (kind : SchemeKind) (cs : List Char) : Except Error Unit :=
  let authority := cs.takeWhile fun c => !endsAuthority kind c
  let after := cs.drop authority.length
  let (user, rest) : List Char × List Char :=
    match splitUser? authority with
    | some (user, rest) => (user, rest ++ after)
    | none => ([], cs)
  let atSign := (splitUser? authority).isSome
  if atSign ∧ user.isEmpty ∧ (rest.head?.map (endsAuthority kind)).getD false then
    .error .emptyHost
  else
    let (host, afterHost) := takeHost kind false rest
    if kind = .special ∧ host.isEmpty then .error .emptyHost
    else do
      if kind = .special then checkHost host else checkOpaqueHost host
      if host.isEmpty ∧ afterHost.head? = some ':' then throw .emptyHost
      match afterHost with
      | ':' :: port => checkPort 0 port
      | _ => pure ()
      if host.isEmpty ∧ namesUser user then throw .emptyHost

/-- A drive letter in place of a file's host. -/
def isDriveLetter (cs : List Char) : Bool :=
  match cs with
  | [letter, mark] => letter.isAlpha && (mark == ':' || mark == '|')
  | _ => false

/-- What follows `file:`. Only a host after two slashes can be wrong. -/
def checkFile (cs : List Char) : Except Error Unit :=
  let isSlash (c : Char) : Bool := c == '/' || c == '\\'
  match cs with
  | a :: b :: rest =>
    if isSlash a && isSlash b then
      let host := rest.takeWhile fun c => !endsAuthority .file c
      if host.isEmpty || isDriveLetter host then .ok () else checkHost host
    else .ok ()
  | _ => .ok ()

/-- The characters that count: blanks and controls around the text do not, nor do tabs and line ends
inside it. -/
def significant (text : String) : List Char :=
  (Text.trimChars (fun c => c.toNat ≤ 32) text.toList).filter fun c =>
    c != '\t' && c != '\n' && c != '\r'

/-- Whether a text is an absolute URL, and if not, why. -/
def check (text : String) : Except Error Unit :=
  match splitScheme? (significant text) with
  | none => .error .relative
  | some (name, rest) =>
    match schemeKind name with
    | .file => checkFile rest
    | .special => checkAuthority .special (rest.dropWhile fun c => c == '/' || c == '\\')
    | .other =>
      match rest with
      | '/' :: '/' :: rest => checkAuthority .other rest
      | _ => .ok ()

end SessionRelay.Url
