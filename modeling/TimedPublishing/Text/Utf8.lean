/-!
# UTF-8

Characters are sent as one to four octets. Reading octets back is total: a sequence that
no character can produce is replaced by U+FFFD, once for each longest run of octets that
could still have become a character, or for the single octet that cannot start one.

The reader walks the octets with the bounds that the next one has to meet. A first octet
fixes how many octets follow and narrows the bounds of the second one, which rules out
overlong forms, surrogates and code points past the last.
-/

namespace TimedPublishing.Text

/-- The octets of a text. -/
def utf8 (text : String) : List Nat := text.toUTF8.toList.map UInt8.toNat

/-- The character that stands for octets that are no character. -/
def replacement : Char := Char.ofNat 0xFFFD

/-- A character that is partly read: the value of its octets so far, the number of octets
still to come, and the bounds of the next one. -/
structure PartialChar where
  value : Nat
  missing : Nat
  low : Nat
  high : Nat
deriving DecidableEq, Repr

/-- What a first octet starts; `none` when no character starts with it. -/
def PartialChar.ofFirst? (octet : Nat) : Option PartialChar :=
  if octet ≤ 0x7F then some ⟨octet, 0, 0, 0⟩
  else if 0xC2 ≤ octet ∧ octet ≤ 0xDF then some ⟨octet - 0xC0, 1, 0x80, 0xBF⟩
  else if octet = 0xE0 then some ⟨0, 2, 0xA0, 0xBF⟩
  else if octet = 0xED then some ⟨0xD, 2, 0x80, 0x9F⟩
  else if 0xE1 ≤ octet ∧ octet ≤ 0xEF then some ⟨octet - 0xE0, 2, 0x80, 0xBF⟩
  else if octet = 0xF0 then some ⟨0, 3, 0x90, 0xBF⟩
  else if 0xF1 ≤ octet ∧ octet ≤ 0xF3 then some ⟨octet - 0xF0, 3, 0x80, 0xBF⟩
  else if octet = 0xF4 then some ⟨4, 3, 0x80, 0x8F⟩
  else none

/-- The octets of a text that begins between two characters, or inside one when `open?`
holds it. An octet out of bounds ends the open character as a replacement and is read
again as a first octet; reading it again happens once, because nothing is open then. -/
def decodeFrom : Option PartialChar → List Nat → List Char
  | none, [] => []
  | some _, [] => [replacement]
  | none, octet :: rest => start octet rest
  | some pending, octet :: rest =>
    if pending.low ≤ octet ∧ octet ≤ pending.high then
      let value := pending.value * 64 + (octet - 0x80)
      if pending.missing ≤ 1 then Char.ofNat value :: decodeFrom none rest
      else decodeFrom (some ⟨value, pending.missing - 1, 0x80, 0xBF⟩) rest
    else replacement :: start octet rest
where
  /-- Read an octet between two characters. -/
  start (octet : Nat) (rest : List Nat) : List Char :=
    match PartialChar.ofFirst? octet with
    | none => replacement :: decodeFrom none rest
    | some pending =>
      if pending.missing = 0 then Char.ofNat pending.value :: decodeFrom none rest
      else decodeFrom (some pending) rest

/-- The characters of a sequence of octets, with replacements where there is none. -/
def decodeUtf8 (octets : List Nat) : List Char := decodeFrom none octets

end TimedPublishing.Text
