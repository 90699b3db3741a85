/-!
# Searching text

Whether a text occurs in another one.
-/

namespace SessionRelay.Text

/-- Whether a pattern occurs anywhere in a text. -/
def occursIn (pattern : List Char) : List Char → Bool
  | [] => pattern.isEmpty
  | c :: cs => pattern.isPrefixOf (c :: cs) || occursIn pattern cs

end SessionRelay.Text
