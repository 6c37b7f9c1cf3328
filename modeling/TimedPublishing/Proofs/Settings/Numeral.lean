import Mathlib.Data.Nat.Digits.Defs
import TimedPublishing.Text.Basic
import TimedPublishing.Text.Number

/-!
# How numbers and lists are written

The readers of numbers and of lists work from the left, a character at a time. What they accept is
said here without them: a number is its digits in base ten with an optional plus sign before them,
and a list is what the library's splitting leaves between its separators. `readNumber_eq_ok` and
`pieces_eq_splitOnP` say that the readers accept exactly this.
-/

namespace TimedPublishing.Text

/-- Decimal digits with their value, the most significant first. -/
def Decimal (digits : List Char) (value : Nat) : Prop :=
  (∀ character ∈ digits, character.isDigit = true) ∧
    value = Nat.ofDigits 10 (digits.map digitValue).reverse

/-- A text is the written form of a number: one or more decimal digits, after an optional plus
sign. -/
def Numeral (text : List Char) (value : Nat) : Prop :=
  ∃ digits, (text = digits ∨ text = '+' :: digits) ∧ digits ≠ [] ∧ Decimal digits value

/-- A plus sign is no digit. -/
theorem Decimal.plus_not_mem {digits : List Char} {value : Nat} (decimal : Decimal digits value) :
    '+' ∉ digits := by
  intro member
  have digit : '+'.isDigit = true := decimal.1 '+' member
  revert digit
  decide

/-- The remaining digits are read onto a value when they are digits and the number they end in is
within the limit.

Proof: by induction on the digits. The value read so far only grows, so a value past the limit
stays past it. -/
theorem readDigits_eq_ok {limit value number : Nat} {text : List Char} (within : value ≤ limit) :
    readDigits limit value text = .ok number ↔
      (∀ character ∈ text, character.isDigit = true) ∧ number ≤ limit ∧
        number = value * 10 ^ text.length + Nat.ofDigits 10 (text.map digitValue).reverse := by
  induction text generalizing value with
  | nil =>
    simp only [readDigits, Except.ok.injEq, List.not_mem_nil, List.map_nil, List.reverse_nil,
      Nat.ofDigits_nil, List.length_nil, Nat.pow_zero, Nat.mul_one, Nat.add_zero]
    constructor
    · rintro rfl
      exact ⟨nofun, within, rfl⟩
    · rintro ⟨_, _, rfl⟩
      rfl
  | cons character rest inductionHypothesis =>
    have positional : value * 10 ^ (character :: rest).length +
          Nat.ofDigits 10 ((character :: rest).map digitValue).reverse =
        (value * 10 + digitValue character) * 10 ^ rest.length +
          Nat.ofDigits 10 (rest.map digitValue).reverse := by
      rw [List.map_cons, Nat.ofDigits_reverse_cons, List.length_map, List.length_cons, Nat.pow_succ]
      ring
    rw [positional, List.forall_mem_cons]
    unfold readDigits
    split
    · next digit =>
      dsimp only
      split
      · next fits => simp [digit, inductionHypothesis fits]
      · next exceeds =>
        simp only [reduceCtorEq, false_iff]
        rintro ⟨_, bounded, rfl⟩
        have grows : value * 10 + digitValue character ≤
            (value * 10 + digitValue character) * 10 ^ rest.length :=
          Nat.le_mul_of_pos_right _ (Nat.pow_pos (by decide))
        omega
    · next other => simp [other]

/-- Behind a plus sign there are the digits. -/
theorem numeral_signed {digits : List Char} {value : Nat} (nonempty : digits ≠ []) :
    Numeral ('+' :: digits) value ↔ Decimal digits value := by
  constructor
  · rintro ⟨own, rfl | signed, _, decimal⟩
    · exact absurd List.mem_cons_self decimal.plus_not_mem
    · cases signed
      exact decimal
  · intro decimal
    exact ⟨digits, Or.inr rfl, nonempty, decimal⟩

/-- Without a plus sign there are only digits. -/
theorem numeral_unsigned {digits : List Char} {value : Nat} (nonempty : digits ≠ [])
    (unsigned : ∀ rest, digits ≠ '+' :: rest) : Numeral digits value ↔ Decimal digits value := by
  constructor
  · rintro ⟨own, rfl | signed, _, decimal⟩
    · exact decimal
    · exact absurd signed (unsigned own)
  · intro decimal
    exact ⟨digits, Or.inl rfl, nonempty, decimal⟩

/-- A text is read as a number exactly when it is the written form of that number and the number is
within the limit. -/
theorem readNumber_eq_ok {limit number : Nat} {text : List Char} :
    readNumber limit text = .ok number ↔ Numeral text number ∧ number ≤ limit := by
  have read (digits : List Char) :
      readDigits limit 0 digits = .ok number ↔ Decimal digits number ∧ number ≤ limit := by
    rw [readDigits_eq_ok (Nat.zero_le limit), Nat.zero_mul, Nat.zero_add]
    unfold Decimal
    tauto
  unfold readNumber
  split
  · simp [Numeral]
  · simp only [reduceCtorEq, false_iff]
    rintro ⟨⟨digits, rfl | signed, nonempty, decimal⟩, _⟩
    · exact absurd List.mem_cons_self decimal.plus_not_mem
    · exact nonempty (List.cons.inj signed).2.symm
  · next digits notAlone =>
    rw [numeral_signed fun empty => notAlone (by rw [empty]), read]
  · next nonempty _ unsigned =>
    rw [numeral_unsigned nonempty fun rest same => unsigned rest same, read]

/-- The pieces of a text are what is left of it when it is split at its separators. -/
theorem pieces_eq_splitOnP (separates : Char → Bool) (text : List Char) :
    pieces separates text = text.splitOnP separates := by
  induction text with
  | nil => rfl
  | cons character rest inductionHypothesis =>
    rw [List.splitOnP_cons_eq_if_modifyHead, ← inductionHypothesis, pieces]
    split
    · rfl
    · cases found : pieces separates rest with
      | nil =>
        have empty : rest.splitOnP separates = [] := inductionHypothesis.symm.trans found
        exact absurd empty (List.splitOnP_ne_nil separates rest)
      | cons piece others => rfl

end TimedPublishing.Text
