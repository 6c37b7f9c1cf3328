import TimedPublishing.Text.Basic
import TimedPublishing.Text.Number

/-!
# Identifiers of jobs, contents and workers

A job is named by 128 bits, ordered as a number and written in the hyphenated form of a
UUID. Reading is more generous than writing: the digits may be of either case, without
hyphens, in braces, or behind `urn:uuid:`; nothing else is accepted. A new name carries
the time in its upper bits and a running number in the lower ones, in the layout of a
version 7 UUID, so names sort in the order in which they were made.

Contents and workers are named by texts that belong to others. The checked constructors
refuse a blank text; the types themselves hold any text, because a stored configuration
is read without checks.
-/

namespace TimedPublishing

/-- The name of a job. -/
structure JobId where
  bits : BitVec 128
deriving DecidableEq, Repr, Inhabited

/-- The name of a content item, which belongs to the content service. -/
structure ContentId where
  text : String
deriving DecidableEq, Repr, Inhabited

/-- The name of a worker that claims jobs. -/
structure WorkerId where
  text : String
deriving DecidableEq, Repr, Inhabited

/-- Why a text names nothing. -/
inductive NameFault
  | malformedJob
  | blankContent
  | blankWorker
  /-- A fault in the words of whoever found it. -/
  | reported (detail : String)
deriving DecidableEq, Repr

/-- The wording of a fault. -/
def NameFault.message : NameFault → String
  | .malformedJob => "JobId"
  | .blankContent => "ContentId: empty"
  | .blankWorker => "WorkerId: empty"
  | .reported detail => detail

namespace JobId

/-- The order of job names is that of their numbers. -/
def precedes (left right : JobId) : Bool := left.bits.toNat ≤ right.bits.toNat

/-- The lengths of the five groups of digits in the hyphenated form. -/
def groupLengths : List Nat := [8, 4, 4, 4, 12]

/-- Cut a text into groups of the given lengths with a hyphen between two groups, and
join the groups. -/
def joinGroups? : List Nat → List Char → Option (List Char)
  | [], [] => some []
  | [], _ :: _ => none
  | [length], text => if text.length = length then some text else none
  | length :: lengths, text =>
    match text.drop length with
    | '-' :: rest => do
      let digits ← joinGroups? lengths rest
      return text.take length ++ digits
    | _ => none

/-- The text inside one pair of braces, behind the name prefix, or the text as it is. -/
def unwrapped (text : List Char) : List Char :=
  match text with
  | '\x7b' :: rest => if rest.getLast? = some '\x7d' then rest.dropLast else text
  | _ => if (text.take 9).map Char.toLower = "urn:uuid:".toList then text.drop 9 else text

/-- The 32 hexadecimal digits of a written name. -/
def digits? (text : List Char) : Option (List Char) :=
  if text.length = 32 then some text else joinGroups? groupLengths (unwrapped text)

/-- Read a name. -/
def ofText? (text : String) : Option JobId := do
  let digits ← digits? text.toList
  let value ← Text.hexNumber? digits
  return ⟨BitVec.ofNat 128 value⟩

/-- Put hyphens between groups of the given lengths. -/
def hyphenated : List Nat → List Char → List Char
  | [], _ => []
  | [length], digits => digits.take length
  | length :: lengths, digits => digits.take length ++ '-' :: hyphenated lengths (digits.drop length)

/-- The written form: lower-case digits in five groups. -/
def text (id : JobId) : String :=
  String.ofList (hyphenated groupLengths (Text.hexDigits 32 id.bits.toNat))

/-- The version field of the layout. -/
def version (id : JobId) : Nat := (id.bits.extractLsb' 76 4).toNat

/-- The name made at a millisecond since 1970 as the one with a running number. The time
fills the upper 48 bits, and the version mark follows; the number fills the rest beside
the variant mark, twelve bits before it and 62 behind. -/
def timeOrdered (millis number : Nat) : JobId :=
  let counter := BitVec.ofNat 74 number
  ⟨BitVec.ofNat 48 millis ++ BitVec.ofNat 4 7 ++ counter.extractLsb' 62 12 ++ BitVec.ofNat 2 2 ++
    counter.extractLsb' 0 62⟩

end JobId

/-- A supply of job names: the millisecond they carry and how many were handed out. -/
structure IdSupply where
  millis : Nat
  issued : Nat
deriving DecidableEq, Repr

/-- Hand out the next name. -/
def IdSupply.next (supply : IdSupply) : JobId × IdSupply :=
  (JobId.timeOrdered supply.millis (supply.issued + 1),
    { supply with issued := supply.issued + 1 })

/-- Hand out a number of names, the first one first. -/
def IdSupply.take (supply : IdSupply) : Nat → List JobId × IdSupply
  | 0 => ([], supply)
  | count + 1 =>
    let (first, after) := supply.next
    let (others, last) := after.take count
    (first :: others, last)

/-- Name a content, unless the text is blank. -/
def ContentId.ofText? (text : String) : Except NameFault ContentId :=
  if Text.blank text then .error .blankContent else .ok ⟨text⟩

/-- Name a worker, unless the text is blank. -/
def WorkerId.ofText? (text : String) : Except NameFault WorkerId :=
  if Text.blank text then .error .blankWorker else .ok ⟨text⟩

/-- A name for a worker that was given none: its process number and eight hexadecimal
digits of a number of its own. -/
def WorkerId.generated (process : Nat) (number : Nat) : WorkerId :=
  ⟨"worker-" ++ toString process ++ "-" ++ String.ofList (Text.hexDigits 8 number)⟩

end TimedPublishing
