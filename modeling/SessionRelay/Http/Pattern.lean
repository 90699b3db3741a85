import SessionRelay.Text.Split

/-!
# Path patterns

A pattern is a path that may have captures: a name in braces stands for any text within one segment
of a path, none included. A brace that is written twice stands for itself.
-/

namespace SessionRelay.Http.Pattern

/-- A segment of a pattern: some text, or a capture between two texts. -/
inductive Segment
  | fixed (text : List Char)
  | capture (before after : List Char)
  deriving DecidableEq

/-- A text in which each pair of braces stands for one. -/
def unescaped : List Char → List Char
  | '\x7b' :: '\x7b' :: cs => '\x7b' :: unescaped cs
  | '\x7d' :: '\x7d' :: cs => '\x7d' :: unescaped cs
  | c :: cs => c :: unescaped cs
  | [] => []

/-- What follows the name of a capture. -/
def afterName : List Char → List Char
  | '\x7d' :: '\x7d' :: cs => afterName cs
  | '\x7d' :: cs => cs
  | _ :: cs => afterName cs
  | [] => []

/-- Reads a segment after some text, which is given in reverse. -/
def readSegment (before : List Char) : List Char → Segment
  | '\x7b' :: '\x7b' :: cs => readSegment ('\x7b' :: before) cs
  | '\x7d' :: '\x7d' :: cs => readSegment ('\x7d' :: before) cs
  | '\x7b' :: cs => .capture before.reverse (unescaped (afterName cs))
  | c :: cs => readSegment (c :: before) cs
  | [] => .fixed before.reverse

/-- Whether a segment of a path is meant. -/
def Segment.accepts (part : List Char) : Segment → Bool
  | .fixed text => part == text
  | .capture before after =>
    before.isPrefixOf part && after.isSuffixOf (part.drop before.length)

/-- Whether a pattern stands for a path. Without a brace it stands for itself. -/
def accepts (pattern path : String) : Bool :=
  if pattern.toList.all fun c => c != '\x7b' && c != '\x7d' then path == pattern
  else
    let segments := (Text.splitOn '/' pattern.toList).map (readSegment [])
    let parts := Text.splitOn '/' path.toList
    parts.length == segments.length && (parts.zip segments).all fun (part, s) => s.accepts part

end SessionRelay.Http.Pattern
