import SessionRelay.Url.Domain
import SessionRelay.Text.Split

/-!
# Hosts

The host of a URL is a domain, an IPv4 address in one of its many spellings, or an IPv6 address in
brackets. Only schemes with a known meaning give their host a structure; in any other scheme a host
is any text without the delimiters of a URL.
-/

namespace SessionRelay.Url

/-- Why a text is not an absolute URL. -/
inductive Error
  | relative
  | emptyHost
  | invalidPort
  | invalidIpv4
  | invalidIpv6
  | invalidDomain
  | invalidHostCharacter
  deriving DecidableEq

def Error.message : Error → String
  | .relative => "relative URL without a base"
  | .emptyHost => "empty host"
  | .invalidPort => "invalid port number"
  | .invalidIpv4 => "invalid IPv4 address"
  | .invalidIpv6 => "invalid IPv6 address"
  | .invalidDomain => "invalid international domain name"
  | .invalidHostCharacter => "invalid domain character"

/-! ### IPv4 -/

def isDigitBelow (base : Nat) (c : Char) : Bool :=
  if base ≤ 10 then '0' ≤ c && c.toNat < 48 + base
  else c.isDigit || ('a' ≤ c && c ≤ 'f') || ('A' ≤ c && c ≤ 'F')

def digitValue (c : Char) : Nat :=
  if c.isDigit then c.toNat - 48 else if 'a' ≤ c then c.toNat - 87 else c.toNat - 55

/-- A number of an IPv4 address: decimal, octal after `0`, hexadecimal after `0x`. -/
def ipv4Number? (cs : List Char) : Option Nat :=
  let (base, digits) : Nat × List Char :=
    match cs with
    | '0' :: 'x' :: rest | '0' :: 'X' :: rest => (16, rest)
    | '0' :: c :: rest => (8, c :: rest)
    | _ => (10, cs)
  if cs.isEmpty then none
  else if digits.all (isDigitBelow base) then
    some (digits.foldl (fun n c => n * base + digitValue c) 0)
  else none

/-- The parts of a dotted text; a dot at its end separates nothing. -/
def dottedParts (cs : List Char) : List (List Char) :=
  let parts := Text.splitOn '.' cs
  if parts.length > 1 ∧ parts.getLast? = some [] then parts.dropLast else parts

/-- A domain whose last part is a number is meant as an IPv4 address. -/
def endsInNumber (domain : List Char) : Bool :=
  match (dottedParts domain).getLast? with
  | some last => (!last.isEmpty && last.all Char.isDigit) || (ipv4Number? last).isSome
  | none => false

/-- An IPv4 address has at most four numbers; the last one fills the bytes that are left. -/
def checkIpv4 (domain : List Char) : Except Error Unit :=
  let parts := dottedParts domain
  if parts.length > 4 then .error .invalidIpv4
  else
    match parts.mapM ipv4Number? with
    | none => .error .invalidIpv4
    | some numbers =>
      let last := numbers.getLast?.getD 0
      let firsts := numbers.dropLast
      if last < Nat.pow 256 (4 - firsts.length) ∧ firsts.all (· ≤ 255) then .ok ()
      else .error .invalidIpv4

/-! ### IPv6 -/

/-- One decimal number below 256 without a leading zero, and what follows it. -/
def byteNumber? (cs : List Char) : Option (List Char) :=
  let digits := cs.takeWhile Char.isDigit
  let value := digits.foldl (fun n c => n * 10 + digitValue c) 0
  match digits with
  | [] => none
  | d :: rest => if (d = '0' ∧ !rest.isEmpty) ∨ 255 < value then none else some (cs.drop digits.length)

/-- Four numbers between dots, to the end. -/
def isDottedQuad (cs : List Char) : Bool :=
  let parts := Text.splitOn '.' cs
  parts.length == 4 && parts.all fun part => byteNumber? part == some []

/-- The pieces of an IPv6 address from a place on: how many pieces stand before it, and whether
`::` has occurred. -/
def ipv6Rest (pieces : Nat) (compressed : Bool) (cs : List Char) : Bool :=
  match cs with
  | [] => compressed || pieces == 8
  | c :: rest =>
    if pieces = 8 then false
    else if c = ':' then !compressed && ipv6Rest (pieces + 1) true rest
    else
      let digits := (c :: rest).take 4 |>.takeWhile (isDigitBelow 16)
      match h : (c :: rest).drop digits.length with
      | [] => ipv6Rest (pieces + 1) compressed []
      | '.' :: _ =>
        !digits.isEmpty && pieces ≤ 6 && isDottedQuad (c :: rest)
          && (compressed || pieces == 6)
      | ':' :: next => !next.isEmpty && ipv6Rest (pieces + 1) compressed next
      | _ => false
termination_by cs.length
decreasing_by
  · simp
  · simp
  · have := congrArg List.length h
    simp at this ⊢
    omega

def isIpv6 (cs : List Char) : Bool :=
  match cs with
  | ':' :: ':' :: rest => ipv6Rest 1 true rest
  | ':' :: _ => false
  | _ :: _ :: _ => ipv6Rest 0 false cs
  | _ => false

/-- A host that starts with a bracket is an IPv6 address in brackets. -/
def checkBracketed (cs : List Char) : Except Error Unit :=
  match cs.getLast? with
  | some ']' => if isIpv6 (cs.drop 1).dropLast then .ok () else .error .invalidIpv6
  | _ => .error .invalidIpv6

/-! ### Hosts by kind of scheme -/

/-- The host of a scheme that gives it a meaning. -/
def checkHost (cs : List Char) : Except Error Unit :=
  if cs.head? = some '[' then checkBracketed cs
  else
    match Domain.ofText? cs with
    | none => .error .invalidDomain
    | some domain =>
      if domain.isEmpty then .error .emptyHost
      else if endsInNumber domain then checkIpv4 domain
      else .ok ()

/-- The delimiters that no host contains. -/
def isHostDelimiter (c : Char) : Bool :=
  c ∈ ['\x00', '\t', '\n', '\r', ' ', '#', '/', ':', '<', '>', '?', '@', '[', '\\', ']', '^', '|']

/-- The host of any other scheme. -/
def checkOpaqueHost (cs : List Char) : Except Error Unit :=
  if cs.head? = some '[' then checkBracketed cs
  else if cs.any isHostDelimiter then .error .invalidHostCharacter
  else .ok ()

end SessionRelay.Url
