import SessionRelay.Crypto.Sha256
import SessionRelay.Json.Printer
import SessionRelay.Text.Utf8

/-!
# Names of relay queues

Every instance has a queue named after its id. A name has at most 63 characters, lower-case ASCII
letters, digits and single dashes. The readable part loses information, so the name ends with the
start of the digest of the full id.
-/

namespace SessionRelay.QueueName

def start : String := "mcp-backplane-"

/-- How many characters of an id stay readable. -/
def readableLength : Nat := 40

/-- ASCII letters in lower case, digits as they are, and a dash for everything else. -/
def plainChar (c : Char) : Char := if c.isAlphanum then c.toLower else '-'

/-- One dash for every run of dashes, and none at the start. -/
def collapse (afterDash : Bool) : List Char → List Char
  | [] => []
  | c :: cs =>
    if c = '-' then
      if afterDash then collapse true cs else '-' :: collapse true cs
    else c :: collapse false cs

/-- The part of a name that can be read, without a dash at either end. -/
def readable (instanceId : String) : List Char :=
  let kept := (collapse true (instanceId.toList.map plainChar)).take readableLength
  (kept.reverse.dropWhile (· = '-')).reverse

/-- The first eight hexadecimal digits of the digest of an id. -/
def fingerprint (instanceId : String) : List Char :=
  ((Sha256.digest (Utf8.encode instanceId)).take 4).flatMap fun b =>
    [hexDigit (b.toNat / 16), hexDigit (b.toNat % 16)]

/-- The queue of an instance. -/
def ofInstance (instanceId : String) : String :=
  let shown := readable instanceId
  start ++ String.ofList
    (if shown.isEmpty then fingerprint instanceId else shown ++ '-' :: fingerprint instanceId)

end SessionRelay.QueueName
