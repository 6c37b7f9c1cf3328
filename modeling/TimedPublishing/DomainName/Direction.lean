import TimedPublishing.DomainName.Table.Direction
import TimedPublishing.Text.Basic

/-!
# Names in two directions

A domain name with letters that are written from right to left, or with numbers that go with
them, must not be confused when it is shown. So each of its labels begins with a letter, which
gives it a direction; marks without a width apart, it ends with a letter of that direction or
with a number; and it holds nothing of the other direction. A label from right to left holds
numbers of one kind only.
-/

namespace TimedPublishing.DomainName

/-- The classes of characters by their direction. -/
inductive Direction
  | leftToRight
  | rightToLeft
  | arabicNumber
  | europeanNumber
  | neutral
  | nonspacing
deriving DecidableEq, Repr

/-- The class of a character. -/
def Direction.of (character : Char) : Direction :=
  if Text.inRanges rightToLeftRanges character then .rightToLeft
  else if Text.inRanges arabicNumberRanges character then .arabicNumber
  else if Text.inRanges europeanNumberRanges character then .europeanNumber
  else if Text.inRanges neutralRanges character then .neutral
  else if Text.inRanges nonspacingRanges character then .nonspacing
  else .leftToRight

/-- Whether a character makes the rule apply to the name that it is in. -/
def isBidirectional (character : Char) : Bool :=
  [Direction.rightToLeft, .arabicNumber].contains (.of character)

/-- Whether what follows the first letter of a label goes with its direction, when it can end
with some classes and holds these and the given others. -/
def follows (ends others : List Direction) (directions : List Direction) : Bool :=
  let shown := (directions.reverse.dropWhile (· = .nonspacing)).reverse
  shown.getLast?.all (ends.contains ·) &&
    shown.all fun direction => (ends ++ others).contains direction

/-- Whether a label of a name to which the rule applies obeys it. -/
def obeysDirection (label : List Char) : Bool :=
  match label.map Direction.of with
  | [] => true
  | .leftToRight :: rest =>
    follows [.leftToRight, .europeanNumber] [.neutral, .nonspacing] rest
  | .rightToLeft :: rest =>
    follows [.rightToLeft, .europeanNumber, .arabicNumber] [.neutral, .nonspacing] rest &&
      !(rest.contains .europeanNumber && rest.contains .arabicNumber)
  | _ => false

end TimedPublishing.DomainName
