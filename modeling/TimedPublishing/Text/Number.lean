/-!
# Unsigned numbers in decimal

The written form of a number is one or more ASCII digits, after an optional plus sign.
Leading zeros are allowed, a minus sign is not. A reader is given the largest value its
field can hold, and it reads from the left: the first character that is not a digit, or
the first digit that carries the value past the limit, decides the fault.
-/

namespace TimedPublishing.Text

/-- Why a text is not the written form of a number. -/
inductive NumberFault
  | empty
  | invalidDigit
  | tooLarge
deriving DecidableEq, Repr

/-- The wording of a fault. -/
def NumberFault.message : NumberFault → String
  | .empty => "cannot parse integer from empty string"
  | .invalidDigit => "invalid digit found in string"
  | .tooLarge => "number too large to fit in target type"

/-- The value of an ASCII digit. -/
def digitValue (character : Char) : Nat := character.toNat - '0'.toNat

/-- Read the remaining digits onto the value of those before them. -/
def readDigits (limit : Nat) : Nat → List Char → Except NumberFault Nat
  | value, [] => .ok value
  | value, character :: rest =>
    if character.isDigit then
      let next := value * 10 + digitValue character
      if next ≤ limit then readDigits limit next rest else .error .tooLarge
    else .error .invalidDigit

/-- Read a whole text as a number of at most `limit`. A sign with nothing behind it is
an invalid digit, only the empty text is reported as empty. -/
def readNumber (limit : Nat) : List Char → Except NumberFault Nat
  | [] => .error .empty
  | ['+'] => .error .invalidDigit
  | '+' :: digits => readDigits limit 0 digits
  | digits => readDigits limit 0 digits

/-- The largest value of a 64-bit field. -/
def maxWord64 : Nat := 18446744073709551615

/-- The largest value of a 32-bit field. -/
def maxWord32 : Nat := 4294967295

/-- A number written with at least `width` digits, filled up with zeros on the left. -/
def padded (width : Nat) (value : Nat) : String :=
  let digits := Nat.toDigits 10 value
  String.ofList (List.replicate (width - digits.length) '0' ++ digits)

/-- The lower-case hexadecimal digit of a value below sixteen. -/
def hexDigit (value : Nat) : Char :=
  if value < 10 then Char.ofNat (value + '0'.toNat) else Char.ofNat (value - 10 + 'a'.toNat)

/-- The upper-case hexadecimal digit of a value below sixteen. -/
def upperHexDigit (value : Nat) : Char :=
  if value < 10 then Char.ofNat (value + '0'.toNat) else Char.ofNat (value - 10 + 'A'.toNat)

/-- The last `width` hexadecimal digits of a value, most significant first. -/
def hexDigits : Nat → Nat → List Char
  | 0, _ => []
  | width + 1, value => hexDigits width (value / 16) ++ [hexDigit (value % 16)]

/-- The value of a hexadecimal digit of either case. -/
def hexValue? (character : Char) : Option Nat :=
  if character.isDigit then some (digitValue character)
  else if 'a' ≤ character ∧ character ≤ 'f' then some (character.toNat - 'a'.toNat + 10)
  else if 'A' ≤ character ∧ character ≤ 'F' then some (character.toNat - 'A'.toNat + 10)
  else none

/-- The value of a text of digits in a base of at most sixteen. The empty text has the value
zero, and a text with any other character has none. -/
def numeral? (base : Nat) (text : List Char) : Option Nat :=
  text.foldl
    (fun value character => do
      let digit ← (hexValue? character).filter (· < base)
      return (← value) * base + digit)
    (some 0)

/-- The value of a text of hexadecimal digits; a text with any other character has none. -/
def hexNumber? (text : List Char) : Option Nat := numeral? 16 text

end TimedPublishing.Text
