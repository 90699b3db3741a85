/-!
# Splitting text

The parts of a text between the occurrences of a character. There is always one part more than
there are occurrences.
-/

namespace SessionRelay.Text

/-- The parts of a text between occurrences of a character. -/
def splitOn (separator : Char) : List Char → List (List Char)
  | [] => [[]]
  | c :: cs =>
    match splitOn separator cs with
    | part :: parts => if c = separator then [] :: part :: parts else (c :: part) :: parts
    | [] => [[]]

end SessionRelay.Text
