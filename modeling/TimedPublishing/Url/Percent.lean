import TimedPublishing.Text.Number
import TimedPublishing.Text.Utf8

/-!
# Percent encoding

An octet that a part of a url may not hold is written as a percent sign and two upper-case
hexadecimal digits. Which octets those are depends on the part; in every part they include
the controls and all octets outside ASCII, so a character outside ASCII is encoded octet
by octet of its UTF-8 form. Decoding undoes it and leaves alone a percent sign that two
hexadecimal digits do not follow.
-/

namespace TimedPublishing.Url

/-- The octets that no part of a url holds as they are. -/
def isControl (octet : Nat) : Bool := octet < 0x20 || 0x7F ≤ octet

/-- Membership of an octet among the characters of a text. -/
def among (characters : String) (octet : Nat) : Bool :=
  characters.toList.any fun character => character.toNat == octet

/-- The octets that are encoded in a fragment. -/
def escapesInFragment (octet : Nat) : Bool := isControl octet || among " \"<>\x60" octet

/-- The octets that are encoded in a path. -/
def escapesInPath (octet : Nat) : Bool := escapesInFragment octet || among "#?\x7b\x7d" octet

/-- The octets that are encoded in a segment that is added to a path: also the separator
of segments and the percent sign. The schemes that read a backslash as a separator encode
it too. -/
def escapesInSegment (special : Bool) (octet : Nat) : Bool :=
  escapesInPath octet || among "/%" octet || (special && among "\\" octet)

/-- The octets that are encoded in credentials. -/
def escapesInCredentials (octet : Nat) : Bool := escapesInPath octet || among "/:;=@[\\]^|" octet

/-- The octets that are encoded in a query. -/
def escapesInQuery (special : Bool) (octet : Nat) : Bool :=
  isControl octet || among " \"#<>" octet || (special && octet == '\''.toNat)

/-- One octet in its encoded form. -/
def escaped (octet : Nat) : List Char :=
  ['%', Text.upperHexDigit (octet / 16), Text.upperHexDigit (octet % 16)]

/-- One octet in a part that encodes the given ones. -/
def encodeOctet (escapes : Nat → Bool) (octet : Nat) : List Char :=
  if escapes octet then escaped octet else [Char.ofNat octet]

/-- One character in a part that encodes the given octets. -/
def encodeChar (escapes : Nat → Bool) (character : Char) : List Char :=
  (String.utf8EncodeChar character).flatMap fun octet => encodeOctet escapes octet.toNat

/-- A text in a part that encodes the given octets. -/
def encode (escapes : Nat → Bool) (text : List Char) : List Char :=
  text.flatMap (encodeChar escapes)

/-- The octets that an encoded text stands for. -/
def decode : List Char → List Nat
  | '%' :: high :: low :: rest =>
    match Text.hexValue? high, Text.hexValue? low with
    | some upper, some lower => (upper * 16 + lower) :: decode rest
    | _, _ => '%'.toNat :: decode (high :: low :: rest)
  | character :: rest =>
    (String.utf8EncodeChar character).map UInt8.toNat ++ decode rest
  | [] => []

end TimedPublishing.Url
