import TimedPublishing.DomainName.Table.Composite
import TimedPublishing.DomainName.Table.Mark

/-!
# Composition of characters

A character with marks can be written in several ways: as one composite character, or as a
letter with marks behind it in more than one order. The composed form picks one of them. The
characters are taken apart, the marks behind a letter are put in the order of their classes
(those of the same class stay as they are), and then each mark is joined with the letter
before it, unless a mark between them stands in the way.

A syllable of Hangul consists of a leading consonant, a vowel and perhaps a trailing
consonant, each with a number, and its own number follows from theirs.
-/

namespace TimedPublishing.DomainName

/-- The class of a code point among the marks of a letter; a letter itself has class zero. -/
def combiningClass (point : Nat) : Nat :=
  match combiningClasses.find? fun (first, last, _) => first ≤ point && point ≤ last with
  | some (_, _, order) => order
  | none => 0

namespace Hangul

/-- The first syllable. -/
def firstSyllable : Nat := 0xAC00

/-- The first leading consonant. -/
def firstLeading : Nat := 0x1100

/-- The first vowel. -/
def firstVowel : Nat := 0x1161

/-- The code point before the first trailing consonant, which stands for none. -/
def noTrailing : Nat := 0x11A7

/-- The number of leading consonants. -/
def leadings : Nat := 19

/-- The number of vowels. -/
def vowels : Nat := 21

/-- The number of trailing consonants, with none among them. -/
def trailings : Nat := 28

/-- The place of a syllable among all of them. -/
def index? (point : Nat) : Option Nat :=
  if firstSyllable ≤ point ∧ point < firstSyllable + leadings * vowels * trailings then
    some (point - firstSyllable)
  else none

/-- The two parts of a syllable. One with a trailing consonant consists of that and of the
syllable without it. -/
def parts? (point : Nat) : Option (Nat × Nat) := do
  let index ← index? point
  let trailing := index % trailings
  if trailing = 0 then
    let syllable := index / trailings
    return (firstLeading + syllable / vowels, firstVowel + syllable % vowels)
  else return (point - trailing, noTrailing + trailing)

/-- The syllable of two parts. -/
def compose? (first second : Nat) : Option Nat :=
  if firstLeading ≤ first ∧ first < firstLeading + leadings then
    if firstVowel ≤ second ∧ second < firstVowel + vowels then
      some (firstSyllable +
        ((first - firstLeading) * vowels + (second - firstVowel)) * trailings)
    else none
  else
    match index? first with
    | some index =>
      if index % trailings = 0 ∧ noTrailing < second ∧ second < noTrailing + trailings then
        some (first + (second - noTrailing))
      else none
    | none => none

end Hangul

/-- The two parts of a composite character. -/
def parts? (point : Nat) : Option (Nat × Nat) :=
  (Hangul.parts? point).orElse fun _ =>
    (composites.find? fun (composite, _) => composite = point).map fun (_, parts) => parts

/-- The composite character of two parts. -/
def compose? (first second : Nat) : Option Nat :=
  (Hangul.compose? first second).orElse fun _ =>
    (composites.find? fun (_, parts) => parts = (first, second)).map fun (composite, _) => composite

/-- The parts of a code point, of which only the first can be composite again, for as many
steps as are allowed. -/
def decomposed : Nat → Nat → List Nat
  | 0, point => [point]
  | steps + 1, point =>
    match parts? point with
    | some (first, second) => decomposed steps first ++ [second]
    | none => [point]

/-- No character is composed in more steps. -/
def longestComposition : Nat := 4

/-- Put a code point behind others, which are given from the last to the first: a mark goes
before the marks of a higher class. -/
def insertMark (point : Nat) : List Nat → List Nat
  | [] => [point]
  | last :: before =>
    if combiningClass point ≠ 0 ∧ combiningClass point < combiningClass last then
      last :: insertMark point before
    else point :: last :: before

/-- The parts of a text with its marks in order. -/
def decomposition (text : List Nat) : List Nat :=
  ((text.flatMap (decomposed longestComposition)).foldl (fun done point => insertMark point done)
    []).reverse

/-- Compose a letter with the code points behind it. `marks` are those between them that did
not join it, from the last to the first. A code point is kept from joining by a mark of its
own class or a higher one. -/
def composeFrom (letter : Nat) (marks : List Nat) : List Nat → List Nat
  | [] => letter :: marks.reverse
  | point :: rest =>
    let isFree := marks.head?.all fun mark => combiningClass mark < combiningClass point
    match if isFree then compose? letter point else none with
    | some composite => composeFrom composite marks rest
    | none =>
      if combiningClass point = 0 then letter :: marks.reverse ++ composeFrom point [] rest
      else composeFrom letter (point :: marks) rest

/-- Compose what follows the first letter; marks before it stay as they are. -/
def composed : List Nat → List Nat
  | [] => []
  | point :: rest =>
    if combiningClass point = 0 then composeFrom point [] rest else point :: composed rest

/-- The composed form of a text. -/
def normalized (text : List Char) : List Char :=
  (composed (decomposition (text.map Char.toNat))).map Char.ofNat

end TimedPublishing.DomainName
