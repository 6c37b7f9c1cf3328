import TimedPublishing.DomainName.Composition
import TimedPublishing.DomainName.Table.Direction
import TimedPublishing.DomainName.Table.Joining
import TimedPublishing.Text.Basic

/-!
# Joiners

Two characters without a shape control whether the letters around them join. A label can hold
them only where that makes a difference: both behind a mark that takes the vowel from a
letter, and the one that keeps letters apart also between two letters that would join.
-/

namespace TimedPublishing.DomainName

/-- The character that keeps letters from joining. -/
def nonJoiner : Char := Char.ofNat 0x200C

/-- The character that lets letters join. -/
def joiner : Char := Char.ofNat 0x200D

/-- Whether a mark takes the vowel from the letter before it. -/
def isVirama (character : Char) : Bool := combiningClass character.toNat = 9

/-- Whether joining looks through a character. -/
def isLookedThrough (character : Char) : Bool :=
  Text.inRanges nonspacingRanges character || Text.inRanges lookedThroughRanges character

/-- Whether a letter joins the one behind it. -/
def joinsNext (character : Char) : Bool :=
  Text.inRanges leftJoiningRanges character || Text.inRanges dualJoiningRanges character

/-- Whether a letter joins the one before it. -/
def joinsPrevious (character : Char) : Bool :=
  Text.inRanges rightJoiningRanges character || Text.inRanges dualJoiningRanges character

/-- Whether the nearest letter joins, when a text is looked through from its beginning. -/
def reaches (joins : Char → Bool) (text : List Char) : Bool :=
  (text.dropWhile fun character => isLookedThrough character && !joins character).head?.any joins

/-- Whether a joiner can stand between two texts, the first of which is given backwards. -/
def canStand (before : List Char) (character : Char) (after : List Char) : Bool :=
  before.head?.any isVirama ||
    (character = nonJoiner && reaches joinsNext before && reaches joinsPrevious after)

/-- Whether all joiners of a label can stand where they are, behind what is given backwards. -/
def joinersFit (before : List Char) : List Char → Bool
  | [] => true
  | character :: rest =>
    (!(character = nonJoiner || character = joiner) || canStand before character rest) &&
      joinersFit (character :: before) rest

end TimedPublishing.DomainName
