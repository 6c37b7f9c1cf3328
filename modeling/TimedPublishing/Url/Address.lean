import TimedPublishing.Text.Basic
import TimedPublishing.Text.Number

/-!
# Network addresses

A host may be an address in place of a name. An address of 32 bits is written as its four
octets in decimal. It is read more liberally: from one to four numbers between dots, each in
decimal, octal after a leading zero or hexadecimal after `0x`, where the last number fills
all the octets that the ones before it leave, and one dot at the end does not count.

An address of 128 bits is written as eight pieces of 16 bits in hexadecimal, with colons
between them and the first of the longest runs of zero pieces left out between two colons,
if that run is longer than one. Two colons in a text that is read stand for the zero pieces
that it lacks, at least one; its last two pieces may be the octets of a 32-bit address.
-/

namespace TimedPublishing.Url

/-- An address of 32 bits. -/
structure Ipv4 where
  bits : BitVec 32
deriving DecidableEq, Repr

namespace Ipv4

/-- The octets of an address, most significant first. -/
def octets (address : Ipv4) : List Nat :=
  [24, 16, 8, 0].map fun shift => (address.bits >>> shift).toNat % 256

/-- The written form of an address. -/
def text (address : Ipv4) : String :=
  ".".intercalate (address.octets.map toString)

/-- The value of a number in one of the three notations; the hexadecimal mark alone is zero. -/
def number? : List Char → Option Nat
  | [] => none
  | '0' :: 'x' :: digits => Text.numeral? 16 digits
  | '0' :: 'X' :: digits => Text.numeral? 16 digits
  | '0' :: digit :: digits => Text.numeral? 8 (digit :: digits)
  | digits => Text.numeral? 10 digits

/-- The parts of a host between its dots, without the empty one behind a dot at the end. -/
def parts (host : List Char) : List (List Char) :=
  let all := Text.pieces (· = '.') host
  if all.getLast? = some [] then all.dropLast else all

/-- A host whose last part is a number, or looks like one in decimal, is meant as an address
and is no name. -/
def isMeant (host : List Char) : Bool :=
  match (parts host).getLast? with
  | some part => (!part.isEmpty && part.all Char.isDigit) || (number? part).isSome
  | none => false

/-- Read an address. Every number but the last has to fit an octet, and the last the octets
that are left. -/
def read? (host : List Char) : Option Ipv4 := do
  let numbers ← (parts host).mapM number?
  let leading := numbers.dropLast
  let last ← numbers.getLast?
  let width := 8 * (4 - leading.length)
  if leading.length ≤ 3 ∧ leading.all (· < 256) ∧ last >>> width = 0 then
    let upper := leading.foldl (fun value octet => value * 256 + octet) 0
    some ⟨BitVec.ofNat 32 (upper <<< width + last)⟩
  else none

/-- Read an address from exactly four octets in decimal, without leading zeros. -/
def ofOctets? (text : List Char) : Option Ipv4 := do
  let parts := Text.pieces (· = '.') text
  let octets ← parts.mapM (Text.numeral? 10)
  if parts.length = 4 ∧ parts.all (fun part => part = ['0'] || part.head?.any (· ≠ '0')) ∧
      octets.all (· < 256) then
    some ⟨BitVec.ofNat 32 (octets.foldl (fun value octet => value * 256 + octet) 0)⟩
  else none

end Ipv4

/-- An address of 128 bits. -/
structure Ipv6 where
  bits : BitVec 128
deriving DecidableEq, Repr

namespace Ipv6

/-- The pieces of an address, most significant first. -/
def pieces (address : Ipv6) : List Nat :=
  [112, 96, 80, 64, 48, 32, 16, 0].map fun shift => (address.bits >>> shift).toNat % 65536

/-- The address of eight pieces. -/
def ofPieces (pieces : List Nat) : Ipv6 :=
  ⟨BitVec.ofNat 128 (pieces.foldl (fun value piece => value * 65536 + piece) 0)⟩

/-- The longest run of zeros in a list, as the place where it begins and its length. Of runs
of the same length the first counts. -/
def longestZeros (pieces : List Nat) : Nat × Nat :=
  (List.range pieces.length).foldl
    (fun best start =>
      let length := ((pieces.drop start).takeWhile (· = 0)).length
      if best.2 < length then (start, length) else best)
    (0, 0)

/-- Pieces in hexadecimal with colons between them. -/
def colons (pieces : List Nat) : String :=
  ":".intercalate (pieces.map fun piece => String.ofList (Nat.toDigits 16 piece))

/-- The written form of an address. -/
def text (address : Ipv6) : String :=
  let pieces := address.pieces
  let (start, length) := longestZeros pieces
  if 2 ≤ length then colons (pieces.take start) ++ "::" ++ colons (pieces.drop (start + length))
  else colons pieces

/-- Read one piece: one to four hexadecimal digits. -/
def piece? (text : List Char) : Option Nat :=
  if 1 ≤ text.length ∧ text.length ≤ 4 then Text.hexNumber? text else none

/-- Read pieces with colons between them; no text at all is no piece. The octets of a 32-bit
address are two pieces where they may stand at the end. -/
def pieces? (octetsAtEnd : Bool) (text : List Char) : Option (List Nat) :=
  if text.isEmpty then some [] else run (Text.pieces (· = ':') text)
where
  /-- Read what stands between the colons. -/
  run : List (List Char) → Option (List Nat)
    | [] => some []
    | [last] =>
      if octetsAtEnd && last.contains '.' then
        (Ipv4.ofOctets? last).map fun address =>
          [address.bits.toNat / 65536, address.bits.toNat % 65536]
      else (piece? last).map ([·])
    | text :: rest => do return (← piece? text) :: (← run rest)

/-- Split a text at its first two colons in a row. -/
def splitGap? : List Char → Option (List Char × List Char)
  | ':' :: ':' :: rest => some ([], rest)
  | character :: rest => (splitGap? rest).map fun (before, after) => (character :: before, after)
  | [] => none

/-- Read an address. -/
def read? (text : List Char) : Option Ipv6 :=
  match splitGap? text with
  | some (before, after) => do
    let upper ← pieces? false before
    let lower ← pieces? true after
    let given := upper.length + lower.length
    if given < 8 then some (ofPieces (upper ++ List.replicate (8 - given) 0 ++ lower)) else none
  | none => do
    let pieces ← pieces? true text
    if pieces.length = 8 then some (ofPieces pieces) else none

end Ipv6

end TimedPublishing.Url
