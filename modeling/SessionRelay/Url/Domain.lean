import SessionRelay.Text.Split
import SessionRelay.Text.Utf8
import SessionRelay.Url.Domain.Label
import SessionRelay.Url.Percent

/-!
# Domains

A domain is percent-decoded, its characters are put into one form, and then it must hold no delimiter
of a URL and only labels that stand, each on its own and all of them together.
-/

namespace SessionRelay.Url.Domain

/-- The ASCII characters no domain contains: controls, the space and the delimiters of a URL. -/
def isForbidden (c : Char) : Bool :=
  c.toNat ≤ 32 || c.toNat == 127
    || c ∈ ['%', '#', '/', ':', '<', '>', '?', '@', '[', '\\', ']', '^', '|']

/-- Labels fit together if each is valid, and keeps its direction where one has characters that are
written from right to left. -/
def areLabels (labels : List (List Char)) : Bool :=
  labels.all Label.isValid
    && (!labels.any (·.any Label.isRightToLeft) || labels.all Label.keepsDirection)

/-- The domain that percent codes and characters stand for. -/
def ofText? (cs : List Char) : Option (List Char) := do
  let text ← Utf8.decode? (percentDecode (Utf8.encode (String.ofList cs)))
  let domain ← folded? text.toList
  let labels ← (Text.splitOn '.' domain).mapM Label.ofText?
  if !domain.any isForbidden && areLabels labels then some domain else none

end SessionRelay.Url.Domain
