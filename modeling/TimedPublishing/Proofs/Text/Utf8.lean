import Mathlib.Tactic.SplitIfs
import TimedPublishing.Text.Utf8

/-!
# Reading back the octets of a text

A character is sent as one octet, or as a first octet that fixes how many follow and octets that
carry six bits each. The reader narrows the bounds of the second octet so as to refuse what no
character is sent as. These bounds never refuse an octet of a character: the first octet is the
least or the greatest of its kind only where the code points that it begins are cut off there, at
the shorter forms, at the surrogates or behind the last code point. So the reader gives every text
back from its octets.
-/

namespace TimedPublishing.Text

/-- The octets of a character. -/
def charOctets (character : Char) : List Nat :=
  (String.utf8EncodeChar character).map UInt8.toNat

/-- The octets of a text. -/
def octets (text : List Char) : List Nat := text.flatMap charOctets

/-- A code point is below the last one and no surrogate. -/
theorem toNat_valid (character : Char) :
    character.toNat < 0xD800 ∨ 0xDFFF < character.toNat ∧ character.toNat < 0x110000 :=
  character.valid

/-- The octets of a character in numbers: the leading bits behind the mark of a first octet, and six
bits behind the mark of each further one. -/
theorem charOctets_eq (character : Char) :
    charOctets character =
      if character.toNat ≤ 0x7F then [character.toNat]
      else if character.toNat ≤ 0x7FF then
        [character.toNat / 64 + 0xC0, character.toNat % 64 + 0x80]
      else if character.toNat ≤ 0xFFFF then
        [character.toNat / 4096 + 0xE0, character.toNat / 64 % 64 + 0x80,
          character.toNat % 64 + 0x80]
      else
        [character.toNat / 262144 + 0xF0, character.toNat / 4096 % 64 + 0x80,
          character.toNat / 64 % 64 + 0x80, character.toNat % 64 + 0x80] := by
  have valid := toNat_valid character
  simp only [charOctets, String.utf8EncodeChar, Char.toNat] at valid ⊢
  -- The encoder cuts every octet to eight bits, which no mark with its bits behind it exceeds.
  split_ifs <;> simp only [List.map_cons, List.map_nil, UInt8.toNat_ofNat', List.cons.injEq,
    and_true] <;> omega

/-- A character of ASCII is its own octet. -/
theorem charOctets_of_ascii {character : Char} (ascii : character.toNat ≤ 0x7F) :
    charOctets character = [character.toNat] := by
  rw [charOctets_eq]
  exact if_pos ascii

/-- An octet within ASCII is a character of its own. -/
theorem eq_of_mem_charOctets {character : Char} {octet : Nat}
    (member : octet ∈ charOctets character) (ascii : octet ≤ 0x7F) : character.toNat = octet := by
  rw [charOctets_eq] at member
  split_ifs at member <;> simp only [List.mem_cons, List.not_mem_nil, or_false] at member <;> omega

/-- Octets have eight bits. -/
theorem lt_of_mem_charOctets {character : Char} {octet : Nat}
    (member : octet ∈ charOctets character) : octet < 256 := by
  obtain ⟨octet, _, rfl⟩ := List.mem_map.mp member
  exact octet.toNat_lt

section Reader

variable {octet : Nat} {rest : List Nat} {pending : PartialChar}

/-- A first octet that is a whole character. -/
theorem decodeFrom_whole (first : PartialChar.ofFirst? octet = some pending)
    (whole : pending.missing = 0) :
    decodeFrom none (octet :: rest) = Char.ofNat pending.value :: decodeFrom none rest := by
  simp only [decodeFrom, decodeFrom.start, first, whole, ↓reduceIte]

/-- A first octet that others follow. -/
theorem decodeFrom_open (first : PartialChar.ofFirst? octet = some pending)
    (more : pending.missing ≠ 0) :
    decodeFrom none (octet :: rest) = decodeFrom (some pending) rest := by
  simp only [decodeFrom, decodeFrom.start, first, if_neg more]

/-- A further octet within its bounds that is not the last. -/
theorem decodeFrom_further (within : pending.low ≤ octet ∧ octet ≤ pending.high)
    (more : 1 < pending.missing) :
    decodeFrom (some pending) (octet :: rest) =
      decodeFrom (some ⟨pending.value * 64 + (octet - 0x80), pending.missing - 1, 0x80, 0xBF⟩)
        rest := by
  simp only [decodeFrom, if_pos within, if_neg (Nat.not_le.mpr more)]

/-- The last octet of a character, within its bounds. -/
theorem decodeFrom_last (within : pending.low ≤ octet ∧ octet ≤ pending.high)
    (last : pending.missing ≤ 1) :
    decodeFrom (some pending) (octet :: rest) =
      Char.ofNat (pending.value * 64 + (octet - 0x80)) :: decodeFrom none rest := by
  simp only [decodeFrom, if_pos within, if_pos last]

end Reader

/-- The first of two octets. -/
theorem ofFirst?_two : ∀ lead < 0x20, 2 ≤ lead →
    PartialChar.ofFirst? (lead + 0xC0) = some ⟨lead, 1, 0x80, 0xBF⟩ := by decide

/-- The first of three octets. The second one is bounded below for the shorter forms and above for
the surrogates. -/
theorem ofFirst?_three : ∀ lead < 0x10,
    PartialChar.ofFirst? (lead + 0xE0) =
      some ⟨lead, 2, if lead = 0 then 0xA0 else 0x80, if lead = 0xD then 0x9F else 0xBF⟩ := by
  decide

/-- The first of four octets. The second one is bounded below for the shorter forms and above for
what lies behind the last code point. -/
theorem ofFirst?_four : ∀ lead < 5,
    PartialChar.ofFirst? (lead + 0xF0) =
      some ⟨lead, 3, if lead = 0 then 0x90 else 0x80, if lead = 4 then 0x8F else 0xBF⟩ := by
  decide

/-- The octets of a character are read as the character. -/
theorem decodeFrom_charOctets (character : Char) (rest : List Nat) :
    decodeFrom none (charOctets character ++ rest) = character :: decodeFrom none rest := by
  have valid := toNat_valid character
  have same {point : Nat} (bits : point = character.toNat) : Char.ofNat point = character := by
    rw [bits, Char.ofNat_toNat]
  rw [charOctets_eq]
  split_ifs with one two three
  · rw [List.singleton_append, decodeFrom_whole (if_pos one) rfl, same rfl]
  · rw [List.cons_append, List.singleton_append,
      decodeFrom_open (ofFirst?_two _ (by omega) (by omega)) (by simp),
      decodeFrom_last (by constructor <;> simp only <;> omega) (by simp),
      same (by simp only; omega)]
  · rw [List.cons_append, List.cons_append, List.singleton_append,
      decodeFrom_open (ofFirst?_three _ (by omega)) (by simp),
      decodeFrom_further (by constructor <;> simp only <;> split_ifs <;> omega) (by simp),
      decodeFrom_last (by constructor <;> simp only <;> omega) (by simp),
      same (by simp only; omega)]
  · rw [List.cons_append, List.cons_append, List.cons_append, List.singleton_append,
      decodeFrom_open (ofFirst?_four _ (by omega)) (by simp),
      decodeFrom_further (by constructor <;> simp only <;> split_ifs <;> omega) (by simp),
      decodeFrom_further (by constructor <;> simp only <;> omega) (by simp),
      decodeFrom_last (by constructor <;> simp only <;> omega) (by simp),
      same (by simp only; omega)]

/-- A text is read back from its octets. -/
theorem decodeUtf8_octets (text : List Char) : decodeUtf8 (octets text) = text := by
  induction text with
  | nil => simp only [octets, List.flatMap_nil, decodeUtf8, decodeFrom]
  | cons character text inductionHypothesis =>
    rw [octets, List.flatMap_cons, decodeUtf8, decodeFrom_charOctets]
    exact congrArg (character :: ·) inductionHypothesis

/-- Different texts have different octets. -/
theorem octets_inj {text other : List Char} : octets text = octets other ↔ text = other := by
  refine ⟨fun same => ?_, fun same => same ▸ rfl⟩
  rw [← decodeUtf8_octets text, same, decodeUtf8_octets]

end TimedPublishing.Text
