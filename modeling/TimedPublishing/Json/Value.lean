import TimedPublishing.Text.Number

/-!
# JSON

A JSON text is read as the value that it stands for, kept as far as a reader of settings needs
it: the members of an object in their order and with repetitions, and of a number whether it is
a whole one without sign, fraction or exponent. A string may contain half of a surrogate
pair in escaped form; it is then no text, which only matters where a text is wanted.

The reader follows the grammar and gives what is left of the text. Each part of a text is
shorter than the whole, and the length of the text is a bound on the depth of its values,
so it serves as fuel.

A text is written as a JSON string, and texts with names as an object. A quote, a backslash and
the control characters are escaped; every other character stands as it is.
-/

namespace TimedPublishing.Json

/-- A JSON value. -/
inductive Value
  | null
  | boolean (value : Bool)
  /-- A number of digits alone. -/
  | natural (value : Nat)
  /-- A number with a sign, a fraction or an exponent. -/
  | otherNumber
  /-- A string, if it is a text. -/
  | string (text : Option (List Char))
  | array (items : List Value)
  | object (members : List (Option (List Char) × Value))

/-- The blanks between the parts of a text. -/
def isBlank (character : Char) : Bool :=
  character = ' ' || character = '\t' || character = '\n' || character = '\r'

/-- What is left behind the blanks. -/
def skipBlanks (text : List Char) : List Char := text.dropWhile isBlank

/-- Four hexadecimal digits as a number. -/
def hexUnit? : List Char → Option (Nat × List Char)
  | first :: second :: third :: fourth :: rest => do
    let unit ← Text.hexNumber? [first, second, third, fourth]
    return (unit, rest)
  | _ => none

/-- The character behind a backslash that has one. -/
def simpleEscape? : Char → Option Char
  | '"' => some '"'
  | '\\' => some '\\'
  | '/' => some '/'
  | 'b' => some (Char.ofNat 8)
  | 'f' => some (Char.ofNat 12)
  | 'n' => some '\n'
  | 'r' => some '\r'
  | 't' => some '\t'
  | _ => none

/-- The first or second half of a surrogate pair. -/
def isSurrogate (unit : Nat) : Bool := 0xD800 ≤ unit && unit ≤ 0xDFFF

/-- The character of a surrogate pair. -/
def pairChar? (high low : Nat) : Option Char :=
  if 0xD800 ≤ high ∧ high ≤ 0xDBFF ∧ 0xDC00 ≤ low ∧ low ≤ 0xDFFF then
    some (Char.ofNat (0x10000 + (high - 0xD800) * 0x400 + (low - 0xDC00)))
  else none

/-- Put a character in front of a string that is a text. -/
def prepend (character : Char) : Option (List Char) × List Char → Option (List Char) × List Char
  | (text, rest) => (text.map (character :: ·), rest)

/-- Read a string behind its opening quote. A control character ends the reading; half a
surrogate pair only makes the string no text. -/
def string? : Nat → List Char → Option (Option (List Char) × List Char)
  | 0, _ => none
  | fuel + 1, text =>
    match text with
    | '"' :: rest => some (some [], rest)
    | '\\' :: 'u' :: rest => do
      let (unit, rest) ← hexUnit? rest
      if isSurrogate unit then
        let paired := do
          let ('\\' :: 'u' :: after) := rest | none
          let (low, after) ← hexUnit? after
          return (← pairChar? unit low, after)
        match paired with
        | some (character, after) => return prepend character (← string? fuel after)
        | none => return (none, (← string? fuel rest).2)
      else return prepend (Char.ofNat unit) (← string? fuel rest)
    | '\\' :: mark :: rest => do return prepend (← simpleEscape? mark) (← string? fuel rest)
    | character :: rest =>
      if character.toNat < 0x20 then none
      else do return prepend character (← string? fuel rest)
    | [] => none

/-- One or more digits, and what follows them. -/
def digits? (text : List Char) : Option (List Char × List Char) :=
  let digits := text.takeWhile Char.isDigit
  if digits.isEmpty then none else some (digits, text.dropWhile Char.isDigit)

/-- What is left behind the digits of a fraction, if there is a point. -/
def fraction? : List Char → Option (Bool × List Char)
  | '.' :: rest => do return (true, (← digits? rest).2)
  | text => some (false, text)

/-- What is left behind the digits of an exponent, if there is one. -/
def exponent? : List Char → Option (Bool × List Char)
  | mark :: rest =>
    if mark = 'e' ∨ mark = 'E' then
      match rest with
      | '+' :: after => do return (true, (← digits? after).2)
      | '-' :: after => do return (true, (← digits? after).2)
      | after => do return (true, (← digits? after).2)
    else some (false, mark :: rest)
  | [] => some (false, [])

/-- The value of decimal digits. -/
def digitsValue (digits : List Char) : Nat :=
  digits.foldl (fun value digit => value * 10 + Text.digitValue digit) 0

/-- Read a number. Digits do not begin with a zero unless it is the only one. -/
def number? (text : List Char) : Option (Value × List Char) := do
  let (negative, unsigned) :=
    match text with
    | '-' :: rest => (true, rest)
    | _ => (false, text)
  let (digits, rest) ← digits? unsigned
  if digits.length > 1 ∧ digits.head? = some '0' then none
  else
    let (fractional, rest) ← fraction? rest
    let (scaled, rest) ← exponent? rest
    if negative || fractional || scaled then return (.otherNumber, rest)
    else return (.natural (digitsValue digits), rest)

/-- What is left behind a word. -/
def word? (word : String) (text : List Char) : Option (List Char) :=
  if word.toList.isPrefixOf text then some (text.drop word.length) else none

mutual

/-- Read a value and what follows it. -/
def value? : Nat → List Char → Option (Value × List Char)
  | 0, _ => none
  | fuel + 1, text =>
    match skipBlanks text with
    | '"' :: rest => do
      let (content, after) ← string? (rest.length + 1) rest
      return (.string content, after)
    | '[' :: rest =>
      match skipBlanks rest with
      | ']' :: after => some (.array [], after)
      | items => do
        let (values, after) ← items? fuel items
        return (.array values, after)
    | '\x7b' :: rest =>
      match skipBlanks rest with
      | '\x7d' :: after => some (.object [], after)
      | members => do
        let (values, after) ← members? fuel members
        return (.object values, after)
    | 'n' :: rest => do return (.null, ← word? "ull" rest)
    | 't' :: rest => do return (.boolean true, ← word? "rue" rest)
    | 'f' :: rest => do return (.boolean false, ← word? "alse" rest)
    | text => number? text

/-- Read the items of an array up to its end. -/
def items? : Nat → List Char → Option (List Value × List Char)
  | 0, _ => none
  | fuel + 1, text => do
    let (value, rest) ← value? fuel text
    match skipBlanks rest with
    | ',' :: after =>
      let (values, last) ← items? fuel after
      return (value :: values, last)
    | ']' :: after => return ([value], after)
    | _ => none

/-- Read the members of an object up to its end. -/
def members? : Nat → List Char → Option (List (Option (List Char) × Value) × List Char)
  | 0, _ => none
  | fuel + 1, text =>
    match skipBlanks text with
    | '"' :: rest => do
      let (name, rest) ← string? (rest.length + 1) rest
      let (':' :: rest) := skipBlanks rest | none
      let (value, rest) ← value? fuel rest
      match skipBlanks rest with
      | ',' :: after =>
        let (members, last) ← members? fuel after
        return ((name, value) :: members, last)
      | '\x7d' :: after => return ([(name, value)], after)
      | _ => none
    | _ => none

end

/-- The value that a text stands for, with nothing but blanks around it. A value, an item
and a member take at least one character each and use two units of fuel. -/
def parse? (text : String) : Option Value := do
  let characters := text.toList
  let (value, rest) ← value? (2 * characters.length + 2) characters
  if (skipBlanks rest).isEmpty then return value else none

/-- The digit of a number below sixteen. -/
def hexDigit (number : Nat) : Char := (Nat.toDigits 16 number).headD '0'

/-- A character inside the quotes. -/
def escaped (character : Char) : List Char :=
  match character with
  | '"' => ['\\', '"']
  | '\\' => ['\\', '\\']
  | '\n' => ['\\', 'n']
  | '\r' => ['\\', 'r']
  | '\t' => ['\\', 't']
  | other =>
    let code := other.toNat
    if code < 32 then ['\\', 'u', '0', '0', hexDigit (code / 16), hexDigit (code % 16)] else [other]

/-- A text as a JSON string. -/
def quoted (text : String) : String :=
  String.ofList (['"'] ++ text.toList.flatMap escaped ++ ['"'])

/-- A member of an object, its value already written. -/
def member (name value : String) : String := quoted name ++ ":" ++ value

/-- An object of members. -/
def objectOf (members : List String) : String := "\x7b" ++ ",".intercalate members ++ "\x7d"

end TimedPublishing.Json
