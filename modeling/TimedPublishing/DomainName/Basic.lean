import TimedPublishing.DomainName.Composition
import TimedPublishing.DomainName.Direction
import TimedPublishing.DomainName.Joiner
import TimedPublishing.DomainName.Mapping
import TimedPublishing.DomainName.Punycode

/-!
# Domain names

A domain name is compared and looked up in its ASCII form. To bring a name into it, its
characters are mapped, the result is composed and cut into labels at its dots, and each label
is written in ASCII. A name that cannot be shown safely has no such form. A name of ASCII
characters without an encoded label is only brought into lower case.

A label with characters outside ASCII has a second form in ASCII: a mark, and behind it the
label in Punycode. A label that is given in this form must stand for a text that could have
been given itself: one of valid characters, in composed form. No label holds a character that
has a meaning in urls.
-/

namespace TimedPublishing.DomainName

/-- Whether a character is one of ASCII. -/
def isAscii (character : Char) : Bool := character.toNat < 0x80

/-- The characters that no label can hold: controls, the space and those with a meaning in
urls. -/
def isForbidden (character : Char) : Bool :=
  character.toNat ≤ 0x20 || character.toNat = 0x7F || "%#/:<>?@[\\]^|".toList.contains character

/-- What a label in its ASCII form begins with. -/
def encodedMark : List Char := ['x', 'n', '-', '-']

/-- Whether a label in lower case is in its ASCII form. -/
def isEncoded (label : List Char) : Bool := encodedMark.isPrefixOf label

/-- A label longer than this has no second form. -/
def longestLabel : Nat := 1000

/-- Whether a text can be a label: it holds no forbidden character, does not begin with a mark,
has its joiners where they make a difference, and is not too long. -/
def isLabel (text : List Char) : Bool :=
  !text.any isForbidden && !text.head?.any (Text.inRanges markRanges) && joinersFit [] text &&
    text.length ≤ longestLabel

/-- The text that an ASCII form stands for. There is one only if something is written behind
the hyphen, for a text of ASCII characters needs no such form. -/
def decoded? (written : List Char) : Option (List Char) := do
  let text ← Punycode.decode? written
  if written.getLast?.any (· ≠ '-') ∧ written.length ≤ 2 * longestLabel ∧ text.all isValid ∧
      normalized text = text ∧ !text.contains '.' ∧ isLabel text then some text
  else none

/-- A label: its text, and its form in ASCII. -/
structure Label where
  text : List Char
  ascii : List Char
deriving DecidableEq, Repr

/-- Read a label of a name that is mapped and composed. -/
def Label.read? (label : List Char) : Option Label :=
  if isEncoded label then
    (decoded? (label.drop encodedMark.length)).map fun text => ⟨text, label⟩
  else if label.all isAscii then
    if label.any isForbidden then none else some ⟨label, label⟩
  else if isLabel label then some ⟨label, encodedMark ++ Punycode.encode label⟩
  else none

/-- A name that is plain: it has no character outside ASCII, and stands for no such name. -/
def isPlain (name : List Char) : Bool :=
  name.all isAscii &&
    (Text.pieces (· = '.') (name.map Char.toLower)).all fun label => !isEncoded label

/-- The ASCII form of a name that is not plain. -/
def encodedName? (name : List Char) : Option (List Char) := do
  let labels ← (Text.pieces (· = '.') (normalized (← mapped? name))).mapM Label.read?
  let texts := labels.map Label.text
  if texts.any (·.any isBidirectional) ∧ !texts.all obeysDirection then none
  else some (Text.joined ['.'] (labels.map Label.ascii))

/-- The ASCII form of a name; `none` if the text is no name. -/
def toAscii? (name : List Char) : Option (List Char) :=
  if isPlain name then if name.any isForbidden then none else some (name.map Char.toLower)
  else encodedName? name

end TimedPublishing.DomainName
