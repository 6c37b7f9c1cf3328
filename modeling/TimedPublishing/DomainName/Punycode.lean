/-!
# Punycode

A text is written in ASCII letters, digits and hyphens: first its ASCII characters with a
hyphen behind them, if it has any, then a sequence of numbers for the others in ascending
order of their code points. Counting on from the place and the code point of one of them,
past every place of every code point up to the next, gives the number that stands for the
next. Numbers have 36 digits, the least significant one first; a digit below the threshold
of its position is the last one, and the thresholds adapt to the size of the numbers before.
-/

namespace TimedPublishing.DomainName.Punycode

/-- A letter or figure for each of 36 digits. -/
def digit (value : Nat) : Char :=
  if value < 26 then Char.ofNat ('a'.toNat + value) else Char.ofNat ('0'.toNat + (value - 26))

/-- The value of a digit, where letters can be of either case. -/
def digitValue? (character : Char) : Option Nat :=
  if character.isLower then some (character.toNat - 'a'.toNat)
  else if character.isUpper then some (character.toNat - 'A'.toNat)
  else if character.isDigit then some (character.toNat - '0'.toNat + 26)
  else none

/-- The code point that counting begins with, the first one outside ASCII. -/
def firstPoint : Nat := 0x80

/-- The bias of the thresholds before there is any number. -/
def firstBias : Nat := 72

/-- The threshold at a position, where the positions count on by 36. -/
def threshold (bias position : Nat) : Nat := max 1 (min 26 (position - bias))

theorem one_le_threshold (bias position : Nat) : 1 ≤ threshold bias position := by
  unfold threshold
  omega

/-- The bias that fits numbers of a size. -/
def biasOf (size : Nat) : Nat :=
  if 455 < size then 36 + biasOf (size / 35) else 36 * size / (size + 38)
termination_by size
decreasing_by omega

/-- The bias after a number, as there are `count` characters. The first number tells less
about those to come than the ones after it. -/
def adapted (number count : Nat) (isFirst : Bool) : Nat :=
  let size := if isFirst then number / 700 else number / 2
  biasOf (size + size / count)

/-- The digits of a number from a position on. -/
def digits (bias position number : Nat) : List Char :=
  let limit := threshold bias position
  if number < limit then [digit number]
  else
    digit (limit + (number - limit) % (36 - limit)) ::
      digits bias (position + 36) ((number - limit) / (36 - limit))
termination_by number
decreasing_by
  have atLeast := one_le_threshold bias position
  have atMost := Nat.div_le_self (number - threshold bias position) (36 - threshold bias position)
  omega

/-- A text that is partly written: the digits so far, the count since the last number, the
bias, and how many characters have been written. -/
structure Writing where
  digits : List Char
  count : Nat
  bias : Nat
  written : Nat
deriving DecidableEq, Repr

/-- Count past one character of the text on the way through the places of a code point, or
write the number of a character that has this code point. -/
def Writing.pass (point : Nat) (isFirst : Nat → Bool) (state : Writing) (character : Char) :
    Writing :=
  if character.toNat < point then { state with count := state.count + 1 }
  else if character.toNat = point then
    ⟨state.digits ++ Punycode.digits state.bias 36 state.count, 0,
      adapted state.count (state.written + 1) (isFirst state.written), state.written + 1⟩
  else state

/-- Write the characters of the code points that are left, when counting has come to the code
point `next`. -/
def writePoints (text : List Char) (basic : Nat) : List Nat → Nat → Writing → Writing
  | [], _, state => state
  | point :: rest, next, state =>
    let counted := { state with count := state.count + (point - next) * (state.written + 1) }
    let passed := text.foldl (Writing.pass point (· = basic)) counted
    writePoints text basic rest (point + 1) { passed with count := passed.count + 1 }

/-- The written form of a text. -/
def encode (text : List Char) : List Char :=
  let basic := text.filter fun character => character.toNat < firstPoint
  let others := text.filter fun character => firstPoint ≤ character.toNat
  let points := (others.map Char.toNat).mergeSort.eraseReps
  let written := writePoints text basic.length points firstPoint ⟨[], 0, firstBias, basic.length⟩
  basic ++ (if basic.isEmpty then [] else ['-']) ++ written.digits

/-- A text that is partly read: its characters so far, the place and the code point that
counting has come to, the bias, and the number that is being read with the weight and the
position of its next digit. -/
structure Reading where
  text : List Char
  place : Nat
  point : Nat
  bias : Nat
  number : Nat
  weight : Nat
  position : Nat
deriving DecidableEq, Repr

/-- Take up a number that is complete: count on by it and insert a character there. -/
def Reading.insert? (state : Reading) (number : Nat) : Option Reading :=
  let length := state.text.length + 1
  let count := state.place + number
  let point := state.point + count / length
  let place := count % length
  if point.isValidChar then
    some ⟨state.text.insertIdx place (Char.ofNat point), place + 1, point,
      adapted number length (state.place = 0), 0, 1, 36⟩
  else none

/-- Read one digit. -/
def Reading.step? (state : Reading) (character : Char) : Option Reading := do
  let value ← digitValue? character
  let number := state.number + value * state.weight
  let limit := threshold state.bias state.position
  if value < limit then state.insert? number
  else
    return { state with
      number := number
      weight := state.weight * (36 - limit)
      position := state.position + 36 }

/-- The text of a written form, whose last hyphen stands behind the ASCII characters. Where no
character stands before it, the hyphen is none of these: the numbers begin with it, and it is no
digit. -/
def decode? (written : List Char) : Option (List Char) := do
  let behind := (written.reverse.takeWhile (· ≠ '-')).reverse
  let basic := written.take (written.length - behind.length - 1)
  let tail := if basic.isEmpty then written else behind
  let state ← tail.foldlM Reading.step? ⟨basic, 0, firstPoint, firstBias, 0, 1, 36⟩
  if state.position = 36 ∧ basic.all (fun character => character.toNat < firstPoint) then
    some state.text
  else none

end TimedPublishing.DomainName.Punycode
