import TimedPublishing.DomainName.Table.Mapping
import TimedPublishing.DomainName.Table.Valid
import TimedPublishing.Text.Basic
import TimedPublishing.Text.Number

/-!
# The form of characters in a domain name

A character of a domain name stands for itself, for other characters or for none, or it is
not allowed at all. Mapping a name replaces every character by what it stands for.
-/

namespace TimedPublishing.DomainName

/-- What the characters of a row of the table stand for. -/
def readRow (row : String) : List (Nat × List Char) :=
  match (Text.pieces (· = ' ') row.toList).map (Text.pieces (· = '+')) with
  | [first] :: forms =>
    forms.zipIdx.filterMap fun (form, index) => do
      let points ← form.mapM Text.hexNumber?
      return ((← Text.hexNumber? first) + index, points.map Char.ofNat)
  | _ => []

/-- The code points of all rows with what they stand for. -/
def mappedForms : List (Nat × List Char) := mappingRows.flatMap readRow

/-- What a code point in a run stands for. -/
def shifted? (point : Nat) : Option Char :=
  mappingRuns.findSome? fun (first, last, step, target) =>
    if first ≤ point ∧ point ≤ last ∧ (point - first) % step = 0 then
      some (Char.ofNat (target + (point - first)))
    else none

/-- What a character stands for; `none` if it is not allowed. -/
def mapChar? (character : Char) : Option (List Char) :=
  match shifted? character.toNat, mappedForms.lookup character.toNat with
  | some form, _ => some [form]
  | none, some form => some form
  | none, none =>
    if Text.inRanges ignoredRanges character then some []
    else if Text.inRanges validRanges character then some [character]
    else none

/-- Whether a character is allowed and stands for itself. -/
def isValid (character : Char) : Bool := mapChar? character = some [character]

/-- What the characters of a text stand for, one after the other. -/
def mapped? (text : List Char) : Option (List Char) := (text.mapM mapChar?).map List.flatten

end TimedPublishing.DomainName
