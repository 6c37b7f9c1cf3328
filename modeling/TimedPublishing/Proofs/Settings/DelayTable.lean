import Mathlib.Data.List.Induction
import TimedPublishing.Proofs.Settings.Meaning

/-!
# How a table of delays is written

A delay is written in decimal, and it may be written with more than its digits: with zeros and a
plus sign before them and with white space around it all. `WrittenDelay` is a delay together with
everything that is written around it, so a table is written as a list of these with commas between
them.

The reader of tables gives back what was written, in order, and it accepts nothing else. What it
refuses has a first entry that is no written delay, and that entry is reported as it stands. That
the digits can be told from the zeros before them is `Decimal.eq_toDigits`: a text of digits is the
decimal form of its value with zeros before it.
-/

namespace TimedPublishing

namespace Text

/-- The digits are the characters from 0 to 9. -/
theorem isDigit_iff {character : Char} :
    character.isDigit = true ↔ 48 ≤ character.toNat ∧ character.toNat ≤ 57 := by
  change decide (48 ≤ character.toNat) && decide (character.toNat ≤ 57) ↔ _
  simp

/-- A digit is the decimal form of its own value. -/
theorem toDigits_digitValue {character : Char} (digit : character.isDigit = true) :
    digitValue character < 10 ∧ Nat.toDigits 10 (digitValue character) = [character] := by
  obtain ⟨atLeast, atMost⟩ := isDigit_iff.mp digit
  have small : character.toNat - 48 < 10 := by omega
  have same : Nat.digitChar (character.toNat - 48) = character := by
    apply Char.toNat_inj.mp
    rw [Nat.toNat_digitChar_of_lt_ten small]
    omega
  refine ⟨small, ?_⟩
  change Nat.toDigits 10 (character.toNat - 48) = _
  rw [Nat.toDigits_of_lt_base small, same]

/-- The value of digits is what they are read as from the left. -/
theorem ofDigits_eq_ofDigitChars (digits : List Char) :
    Nat.ofDigits 10 (digits.map digitValue).reverse = Nat.ofDigitChars 10 digits 0 := by
  induction digits with
  | nil => rfl
  | cons character rest inductionHypothesis =>
    have read (start : Nat) : Nat.ofDigitChars 10 rest start =
        10 ^ rest.length * start + Nat.ofDigitChars 10 rest 0 :=
      Nat.ofDigitChars_eq_ofDigitChars_zero
    rw [List.map_cons, Nat.ofDigits_reverse_cons, inductionHypothesis, List.length_map,
      Nat.ofDigitChars_cons, Nat.mul_zero, Nat.zero_add, read (character.toNat - '0'.toNat),
      Nat.add_comm]
    rfl

/-- The decimal form of a number, with zeros before it, has its value. -/
theorem decimal_toDigits (zeros value : Nat) :
    Decimal (List.replicate zeros '0' ++ Nat.toDigits 10 value) value := by
  refine ⟨fun character member => ?_, ?_⟩
  · rcases List.mem_append.mp member with zero | digit
    · rw [(List.mem_replicate.mp zero).2]
      rfl
    · exact Nat.isDigit_of_mem_toDigits (by decide) (by decide) digit
  · rw [ofDigits_eq_ofDigitChars, Nat.ofDigitChars_append, Nat.ofDigitChars_replicate_zero,
      Nat.mul_zero, Nat.ofDigitChars_ten_toDigits]

/-- Digits are the decimal form of their value, with zeros before it.

Proof: by induction on the digits, with the last one taken off. That digit is one more in the
decimal form of those before it, unless these are all zeros: then it is the form alone. -/
theorem Decimal.eq_toDigits {digits : List Char} {value : Nat} (decimal : Decimal digits value)
    (nonempty : digits ≠ []) :
    ∃ zeros, digits = List.replicate zeros '0' ++ Nat.toDigits 10 value := by
  obtain ⟨allDigits, isValue⟩ := decimal
  rw [isValue, ofDigits_eq_ofDigitChars]
  clear isValue
  induction digits using List.reverseRecOn with
  | nil => exact absurd rfl nonempty
  | append_singleton earlier character inductionHypothesis =>
    have digit : character.isDigit = true := allDigits character (by simp)
    obtain ⟨small, form⟩ := toDigits_digitValue digit
    have read : Nat.ofDigitChars 10 (earlier ++ [character]) 0 =
        10 * Nat.ofDigitChars 10 earlier 0 + digitValue character := by
      rw [Nat.ofDigitChars_append, Nat.ofDigitChars_cons, Nat.ofDigitChars_nil]
      rfl
    rw [read]
    by_cases empty : earlier = []
    · refine ⟨0, ?_⟩
      rw [empty, Nat.ofDigitChars_nil, Nat.mul_zero, Nat.zero_add, form]
      rfl
    · obtain ⟨zeros, own⟩ := inductionHypothesis empty
        fun other member => allDigits other (List.mem_append_left _ member)
      rcases Nat.eq_zero_or_pos (Nat.ofDigitChars 10 earlier 0) with zero | positive
      · rw [zero, Nat.toDigits_zero] at own
        refine ⟨zeros + 1, ?_⟩
        rw [zero, Nat.mul_zero, Nat.zero_add, form, List.replicate_succ', ← own]
      · refine ⟨zeros, ?_⟩
        rw [← Nat.toDigits_append_toDigits (by decide) positive small, form, ← List.append_assoc,
          ← own]

/-- A number in decimal, with zeros before it and perhaps a plus sign before these. -/
def signedDecimal (signed : Bool) (zeros value : Nat) : List Char :=
  (if signed then ['+'] else []) ++ (List.replicate zeros '0' ++ Nat.toDigits 10 value)

/-- The written forms of a number are its decimal form with zeros and a sign. -/
theorem numeral_iff_signedDecimal {text : List Char} {value : Nat} :
    Numeral text value ↔ ∃ signed zeros, text = signedDecimal signed zeros value := by
  constructor
  · rintro ⟨digits, written, nonempty, decimal⟩
    obtain ⟨zeros, rfl⟩ := decimal.eq_toDigits nonempty
    rcases written with rfl | rfl
    · exact ⟨false, zeros, rfl⟩
    · exact ⟨true, zeros, rfl⟩
  · rintro ⟨signed, zeros, rfl⟩
    refine ⟨_, ?_, ?_, decimal_toDigits zeros value⟩
    · cases signed
      · exact Or.inl rfl
      · exact Or.inr rfl
    · simp [Nat.toDigits_ne_nil]

/-- A written number holds neither white space nor commas. -/
theorem Numeral.visible {text : List Char} {value : Nat} (numeral : Numeral text value) :
    ∀ character ∈ text, isSpace character = false ∧ character ≠ ',' := by
  obtain ⟨digits, written, _, allDigits, _⟩ := numeral
  have ofDigit {character : Char} (digit : character.isDigit = true) :
      isSpace character = false ∧ character ≠ ',' := by
    obtain ⟨atLeast, atMost⟩ := isDigit_iff.mp digit
    constructor
    · simp only [isSpace, Bool.or_eq_false_iff, Bool.and_eq_false_iff, decide_eq_false_iff_not,
        beq_eq_false_iff_ne]
      omega
    · rintro rfl
      revert digit
      decide
  rcases written with rfl | rfl
  · exact fun character member => ofDigit (allDigits character member)
  · rw [List.forall_mem_cons]
    exact ⟨by decide, fun character member => ofDigit (allDigits character member)⟩

/-- A text stands for a number of 64 bits, up to white space around it. -/
def IsWord64 (text : List Char) (value : Nat) : Prop := IsNumber text value ∧ value ≤ maxWord64

end Text

/-- A delay as it stands in a table: a number of 64 bits with what is written around it. -/
structure WrittenDelay where
  before : List Char
  signed : Bool
  zeros : Nat
  value : Nat
  after : List Char
  blankBefore : Text.isBlank before = true
  blankAfter : Text.isBlank after = true
  fits : value ≤ Text.maxWord64

namespace WrittenDelay

/-- The delay without the white space around it. -/
def numeral (delay : WrittenDelay) : List Char :=
  Text.signedDecimal delay.signed delay.zeros delay.value

/-- The text of a written delay. -/
def text (delay : WrittenDelay) : List Char := delay.before ++ delay.numeral ++ delay.after

/-- The text of a table: its delays with commas between them. -/
def table (delays : List WrittenDelay) : String :=
  String.ofList ([','].intercalate (delays.map text))

/-- Without the white space around it, a delay is a written number. -/
theorem numeral_numeral (delay : WrittenDelay) : Text.Numeral delay.numeral delay.value :=
  Text.numeral_iff_signedDecimal.mpr ⟨_, _, rfl⟩

/-- What is written stands for its value. -/
theorem isWord64_text (delay : WrittenDelay) : Text.IsWord64 delay.text delay.value := by
  have padded : Text.Padded delay.numeral delay.text :=
    ⟨_, _, delay.blankBefore, delay.blankAfter, rfl⟩
  have visible : ∀ character ∈ delay.numeral, Text.isSpace character = false :=
    fun character member => (delay.numeral_numeral.visible character member).1
  refine ⟨?_, delay.fits⟩
  rw [Text.IsNumber, padded.trim_eq, Text.trim_eq_self visible]
  exact delay.numeral_numeral

/-- What stands for a number of 64 bits is the text of a written delay. -/
theorem exists_of_isWord64 {entry : List Char} {value : Nat} (word : Text.IsWord64 entry value) :
    ∃ delay : WrittenDelay, delay.text = entry ∧ delay.value = value := by
  obtain ⟨isNumber, fits⟩ := word
  obtain ⟨signed, zeros, written⟩ := Text.numeral_iff_signedDecimal.mp isNumber
  obtain ⟨before, after, blankBefore, blankAfter, whole⟩ := Text.padded_trim entry
  rw [written] at whole
  exact ⟨⟨before, signed, zeros, value, after, blankBefore, blankAfter, fits⟩, whole.symm, rfl⟩

/-- There is no comma within a written delay. -/
theorem comma_not_mem_text (delay : WrittenDelay) : ',' ∉ delay.text := by
  have visible : Text.isSpace ',' = false := by decide
  have unmarkedBefore : ',' ∉ delay.before := Text.not_mem_of_isBlank visible delay.blankBefore
  have unmarkedAfter : ',' ∉ delay.after := Text.not_mem_of_isBlank visible delay.blankAfter
  have unmarked : ',' ∉ delay.numeral :=
    fun member => (delay.numeral_numeral.visible _ member).2 rfl
  simp [text, unmarkedBefore, unmarked, unmarkedAfter]

/-- Cut at its commas, a table is what was written. -/
theorem splitOn_table {delays : List WrittenDelay} (nonempty : delays ≠ []) :
    (table delays).toList.splitOn ',' = delays.map text := by
  rw [table, String.toList_ofList, List.splitOn_intercalate]
  · intro entry member
    obtain ⟨delay, _, rfl⟩ := List.mem_map.mp member
    exact delay.comma_not_mem_text
  · simpa using nonempty

/-- Entries that stand for numbers of 64 bits, one by one, are the texts of written delays. -/
theorem forall₂_isWord64_iff {entries : List (List Char)} {values : List Nat} :
    List.Forall₂ Text.IsWord64 entries values ↔
      ∃ delays : List WrittenDelay, delays.map text = entries ∧ delays.map value = values := by
  constructor
  · intro stand
    induction stand with
    | nil => exact ⟨[], rfl, rfl⟩
    | cons first _ inductionHypothesis =>
      obtain ⟨delay, rfl, rfl⟩ := exists_of_isWord64 first
      obtain ⟨delays, rfl, rfl⟩ := inductionHypothesis
      exact ⟨delay :: delays, rfl, rfl⟩
  · rintro ⟨delays, rfl, rfl⟩
    rw [List.forall₂_map_left_iff, List.forall₂_map_right_iff]
    exact List.forall₂_same.mpr fun delay _ => delay.isWord64_text

end WrittenDelay

namespace Environment

/-- A text is read as a table exactly when it is one that was written, and what is read are the
delays that were written.

Reading a table cuts it at its commas and needs every entry to stand for a number of 64 bits. -/
theorem backoffTable_eq_ok_iff_written {text : String} {values : List Nat} :
    backoffTable text = .ok values ↔
      ∃ delays : List WrittenDelay, delays ≠ [] ∧ text = WrittenDelay.table delays ∧
        values = delays.map WrittenDelay.value := by
  rw [backoffTable_eq_ok]
  change List.Forall₂ Text.IsWord64 _ _ ↔ _
  rw [WrittenDelay.forall₂_isWord64_iff]
  constructor
  · rintro ⟨delays, entries, rfl⟩
    refine ⟨delays, ?_, ?_, rfl⟩
    · rintro rfl
      exact List.splitOn_ne_nil _ _ entries.symm
    · rw [WrittenDelay.table, entries, List.intercalate_splitOn, String.ofList_toList]
  · rintro ⟨delays, nonempty, rfl, rfl⟩
    exact ⟨delays, (WrittenDelay.splitOn_table nonempty).symm, rfl⟩

/-- An entry that is refused stands for no number of 64 bits, and it is reported as it stands. -/
theorem number_eq_error_of_entry {entry : List Char} {cause : SettingsError}
    (refused : number Text.maxWord64 .backoff (String.ofList entry) = .error cause) :
    (¬ ∃ value, Text.IsWord64 entry value) ∧
      ∃ fault, cause = .invalid .backoff (String.ofList entry) (.number fault) := by
  constructor
  · rintro ⟨value, isNumber, fits⟩
    have accepted : number Text.maxWord64 .backoff (String.ofList entry) = .ok value := by
      rw [number_eq_ok, String.toList_ofList]
      exact ⟨isNumber, fits⟩
    cases refused.symm.trans accepted
  · obtain ⟨fault, _, rfl⟩ := mapError_eq_error.mp refused
    exact ⟨fault, rfl⟩

/-- The reader of tables inverts their printing and accepts nothing else. A text is read exactly
when it is some delays as they may be written, in decimal, with zeros, a plus sign and white space
around them and commas between them, and then these delays are read in their order. Put without the
printing, every entry between the commas is, without the white space around it, digits after an
optional plus sign, of a value that 64 bits hold, and it is read as that value. A text that is
refused has a first entry that is not of this form, and the error shows that entry as it stands.

Proof: the entries are what the table is cut into at its commas. An entry is accepted exactly when
it is a written delay, as digits are the decimal form of their value with zeros before it. -/
theorem backoffTable_inverts_printing (text : String) :
    (∀ values, backoffTable text = .ok values ↔
        ∃ delays : List WrittenDelay, delays ≠ [] ∧ text = WrittenDelay.table delays ∧
          values = delays.map WrittenDelay.value) ∧
      (∀ values, backoffTable text = .ok values ↔
        List.Forall₂ Text.IsWord64 (text.toList.splitOn ',') values) ∧
      ∀ cause, backoffTable text = .error cause →
        ∃ earlier offending later, text.toList.splitOn ',' = earlier ++ offending :: later ∧
          (∀ entry ∈ earlier, ∃ value, Text.IsWord64 entry value) ∧
          (¬ ∃ value, Text.IsWord64 offending value) ∧
          ∃ fault, cause = .invalid .backoff (String.ofList offending) (.number fault) := by
  refine ⟨fun _ => backoffTable_eq_ok_iff_written, fun _ => backoffTable_eq_ok,
    fun cause refused => ?_⟩
  rw [backoffTable, mapM_eq_error, Text.pieces_eq_splitOnP] at refused
  obtain ⟨earlier, offending, later, entries, accepted, refused⟩ := refused.exists_split
  refine ⟨earlier, offending, later, entries, fun entry member => ?_,
    number_eq_error_of_entry refused⟩
  obtain ⟨value, read⟩ := accepted entry member
  rw [number_eq_ok, String.toList_ofList] at read
  exact ⟨value, read⟩

/-- Between two commas there has to be a number. -/
example : backoffTable "5,,60" = .error (.invalid .backoff "" (.number .empty)) := by decide

end Environment

end TimedPublishing
