import SessionRelay.Text.Composition
import SessionRelay.Text.Direction
import SessionRelay.Text.Joining
import SessionRelay.Url.Domain.Folding
import SessionRelay.Url.Punycode

/-!
# Labels

A domain is a row of labels. A label with characters outside ASCII can be spelled in ASCII, and then
it must be the label that its spelling would be read as. A label starts with no mark, has joiners
only between letters that they join, and where any label of a domain is written from right to left,
each label keeps one direction.
-/

namespace SessionRelay.Url.Domain

open Text

/-- The composed form of what the characters of a text count as. -/
def folded? (cs : List Char) : Option (List Char) :=
  (cs.mapM fold?).map fun parts => composed parts.flatten

def isAscii (cs : List Char) : Bool := cs.all fun c => c.toNat < 128

/-- Whether a label counts as itself and each of its characters counts. -/
def isFolded (label : List Char) : Bool :=
  label.all (fun c => fold? c != some []) && folded? label == some label

namespace Label

/-- The longest spelling in ASCII that is read. -/
def maxSpelling : Nat := 2000

/-- The longest label outside ASCII. -/
def maxLength : Nat := 1000

/-- The label that a text stands for: a text in ASCII may spell a label that is not. -/
def ofText? (cs : List Char) : Option (List Char) :=
  match cs with
  | 'x' :: 'n' :: '-' :: '-' :: spelling =>
    if maxSpelling < spelling.length then none
    else
      match Punycode.decode? spelling with
      | some label => if !isAscii label && isFolded label then some label else none
      | none => none
  | _ => some cs

/-- Whether the character before a place, given in reverse, is a mark that joins. -/
def isAfterVirama : List Char → Bool
  | last :: _ => isVirama last
  | [] => false

/-- Whether the letters on both sides of a place would be joined. -/
def isBetweenLetters (before after : List Char) : Bool :=
  ((before.dropWhile Joining.isTransparent).head?.map Joining.joinsNext).getD false
    && ((after.dropWhile Joining.isTransparent).head?.map Joining.joinsPrevious).getD false

/-- Whether the joiners of a label are in place. Either of them may follow a mark that joins; the one
that keeps letters apart may also stand between two letters that would be joined. The characters
before a place are given in reverse. -/
def joinersFit (before : List Char) : List Char → Bool
  | [] => true
  | c :: after =>
    (if c.toNat == 0x200C then isAfterVirama before || isBetweenLetters before after
      else c.toNat != 0x200D || isAfterVirama before)
      && joinersFit (c :: before) after

/-- Whether a label stands on its own. -/
def isValid (label : List Char) : Bool :=
  isAscii label
    || label.length ≤ maxLength && !(label.head?.map isMark).getD false && joinersFit [] label

/-- Whether a character is written from right to left, or is a number of such a script. -/
def isRightToLeft (c : Char) : Bool :=
  128 ≤ c.toNat && (direction c == .rightToLeft || direction c == .arabicNumber)

/-- Whether a label keeps one direction. It starts with a letter. From left to right, letters of
the other direction are out of place, and it ends in a letter or a number; from right to left,
letters of the other direction are, it ends likewise, and it has numbers of one kind. Marks at its
end do not count. -/
def keepsDirection (label : List Char) : Bool :=
  let directions := label.map direction
  let ending := (directions.reverse.dropWhile (· == .mark)).head?
  match directions.head? with
  | none => true
  | some .leftToRight =>
    directions.all (fun d => d != .rightToLeft && d != .arabicNumber)
      && (ending == some .leftToRight || ending == some .europeanNumber)
  | some .rightToLeft =>
    directions.all (· != .leftToRight)
      && (ending == some .rightToLeft || ending == some .europeanNumber
        || ending == some .arabicNumber)
      && !(directions.contains .europeanNumber && directions.contains .arabicNumber)
  | _ => false

end Label

end SessionRelay.Url.Domain
