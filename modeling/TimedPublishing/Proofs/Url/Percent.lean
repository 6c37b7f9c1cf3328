import TimedPublishing.Proofs.Text.Utf8
import TimedPublishing.Url.Path

/-!
# Undoing percent encoding

A part of a url that encodes all octets outside ASCII keeps a character as it is or writes every
octet of it. An encoded text therefore holds characters that were kept, percent signs and
hexadecimal digits, and no separator that the part encodes. If the percent sign is encoded too, then
each one in the encoded text begins an octet, and decoding gives the octets of the text back. That
also says which texts are encoded as a dot segment: the dots themselves.
-/

namespace TimedPublishing.Url

open Text (charOctets octets)

variable {escapes : Nat → Bool} {text : List Char}

/-- A part that encodes all octets outside ASCII. -/
def CoversOctets (escapes : Nat → Bool) : Prop := ∀ octet, 0x7F < octet → escapes octet = true

theorem CoversOctets.path : CoversOctets escapesInPath := by
  intro octet outside
  simp [escapesInPath, escapesInFragment, isControl, Nat.le_of_lt outside]

theorem CoversOctets.segment (special : Bool) : CoversOctets (escapesInSegment special) := by
  intro octet outside
  simp [escapesInSegment, CoversOctets.path octet outside]

/-- A character is kept as it is, or every octet of it is written in its encoded form. -/
theorem encodeChar_cases (covers : CoversOctets escapes) (character : Char) :
    (escapes character.toNat = false ∧ encodeChar escapes character = [character]) ∨
      encodeChar escapes character = (charOctets character).flatMap escaped := by
  have unfolded : encodeChar escapes character =
      (charOctets character).flatMap (encodeOctet escapes) := by
    rw [encodeChar, charOctets, List.flatMap_map]
  by_cases kept : character.toNat ≤ 0x7F ∧ escapes character.toNat = false
  · refine .inl ⟨kept.2, ?_⟩
    rw [unfolded, Text.charOctets_of_ascii kept.1, List.flatMap_singleton, encodeOctet, kept.2,
      Char.ofNat_toNat]
    rfl
  · refine .inr ?_
    rw [unfolded, List.flatMap_def, List.flatMap_def]
    refine congrArg List.flatten (List.map_congr_left fun octet member => ?_)
    rw [encodeOctet, if_pos]
    by_cases ascii : octet ≤ 0x7F
    · obtain rfl := Text.eq_of_mem_charOctets member ascii
      simpa [ascii] using kept
    · exact covers octet (Nat.lt_of_not_le ascii)

theorem hexValue?_upperHexDigit :
    ∀ digit < 16, Text.hexValue? (Text.upperHexDigit digit) = some digit := by decide

/-- The marks of a part that encodes them are no characters of an encoded text, unless encoding
brings them in. -/
theorem mem_of_mem_encode (covers : CoversOctets escapes) {mark : Char} (noPercent : mark ≠ '%')
    (noDigit : Text.hexValue? mark = none) (member : mark ∈ encode escapes text) :
    mark ∈ text ∧ escapes mark.toNat = false := by
  obtain ⟨character, inText, member⟩ := List.mem_flatMap.mp member
  obtain ⟨kept, same⟩ | spelled := encodeChar_cases covers character
  · rw [same, List.mem_singleton] at member
    exact ⟨member ▸ inText, member ▸ kept⟩
  · rw [spelled] at member
    obtain ⟨octet, inOctets, member⟩ := List.mem_flatMap.mp member
    have small := Text.lt_of_mem_charOctets inOctets
    simp only [escaped, List.mem_cons, noPercent, List.not_mem_nil, or_false, false_or] at member
    obtain rfl | rfl := member <;>
      rw [hexValue?_upperHexDigit _ (by omega)] at noDigit <;> cases noDigit

/-- An octet in its encoded form is decoded. -/
theorem decode_escaped {octet : Nat} (small : octet < 256) (rest : List Char) :
    decode (escaped octet ++ rest) = octet :: decode rest := by
  rw [escaped, List.cons_append, List.cons_append, List.singleton_append, decode,
    hexValue?_upperHexDigit _ (by omega), hexValue?_upperHexDigit _ (by omega)]
  simp only [List.cons.injEq, and_true]
  omega

/-- A character other than the percent sign is decoded as itself. -/
theorem decode_cons {character : Char} (noPercent : character ≠ '%') (rest : List Char) :
    decode (character :: rest) = charOctets character ++ decode rest :=
  decode.eq_2 character rest fun _ _ _ percent _ => noPercent percent

/-- A character that is written octet by octet is decoded octet by octet. -/
theorem decode_flatMap_escaped (spelled : List Nat) (small : ∀ octet ∈ spelled, octet < 256)
    (rest : List Char) : decode (spelled.flatMap escaped ++ rest) = spelled ++ decode rest := by
  induction spelled with
  | nil => rfl
  | cons octet spelled inductionHypothesis =>
    rw [List.flatMap_cons, List.append_assoc, decode_escaped (small octet List.mem_cons_self),
      inductionHypothesis fun other member => small other (List.mem_cons_of_mem octet member),
      List.cons_append]

/-- Decoding undoes encoding where the percent sign is encoded. -/
theorem decode_encode (covers : CoversOctets escapes) (percent : escapes '%'.toNat = true)
    (text : List Char) : decode (encode escapes text) = octets text := by
  induction text with
  | nil => exact decode.eq_3
  | cons character text inductionHypothesis =>
    rw [encode, List.flatMap_cons, octets, List.flatMap_cons]
    rw [encode, octets] at inductionHypothesis
    obtain ⟨kept, same⟩ | spelled := encodeChar_cases covers character
    · have noPercent : character ≠ '%' := by
        rintro rfl
        rw [percent] at kept
        cases kept
      rw [same, List.singleton_append, decode_cons noPercent, inductionHypothesis]
    · rw [spelled, decode_flatMap_escaped _ (fun octet => Text.lt_of_mem_charOctets),
        inductionHypothesis]

/-- Decoding undoes the encoding of a segment that is added to a path. -/
theorem decode_encode_segment (special : Bool) (text : List Char) :
    decode (encode (escapesInSegment special) text) = octets text :=
  decode_encode (.segment special) (by cases special <;> rfl) text

/-- Bringing a character into lower case leaves it as it is or moves a capital by 32. -/
theorem toLower_cases (character : Char) :
    character.toLower = character ∨
      'A'.toNat ≤ character.toNat ∧ character.toNat ≤ 'Z'.toNat ∧
        character.toLower.toNat = character.toNat + 32 := by
  unfold Char.toLower
  split
  next upper =>
    have low : 65 ≤ character.toNat := upper.1
    have high : character.toNat ≤ 90 := upper.2
    refine .inr ⟨low, high, ?_⟩
    change (character.val + 32).toNat = character.val.toNat + 32
    rw [UInt32.toNat_add, Nat.mod_eq_of_lt]
    · rfl
    · change character.toNat + 32 < 2 ^ 32
      omega
  next => exact .inl rfl

/-- A character whose lower-case form is no letter is that form. -/
theorem eq_of_toLower_eq {character lower : Char} (same : character.toLower = lower)
    (noLetter : lower.toNat < 'a'.toNat) : character = lower := by
  obtain kept | ⟨low, high, moved⟩ := toLower_cases character
  · exact kept.symm.trans same
  · rw [same] at moved
    have : 'a'.toNat = 'A'.toNat + 32 := rfl
    omega

namespace Path

/-- A dot in either spelling decodes to the dot. -/
theorem decode_of_dot {segment dot rest : List Char}
    (spelled : segment.map Char.toLower = dot ++ rest)
    (isDot : dot = ['.'] ∨ dot = ['%', '2', 'e']) :
    ∃ behind, behind.map Char.toLower = rest ∧ decode segment = '.'.toNat :: decode behind := by
  obtain rfl | rfl := isDot
  · obtain ⟨character, behind, rfl, same, others⟩ := List.map_eq_cons_iff.mp spelled
    obtain rfl := eq_of_toLower_eq same (by decide)
    exact ⟨behind, others, decode_cons (by decide) behind⟩
  · obtain ⟨percent, digits, rfl, same, digitsEq⟩ := List.map_eq_cons_iff.mp spelled
    obtain ⟨two, lettered, rfl, same', letterEq⟩ := List.map_eq_cons_iff.mp digitsEq
    obtain ⟨letter, behind, rfl, isLetter, others⟩ := List.map_eq_cons_iff.mp letterEq
    obtain rfl := eq_of_toLower_eq same (by decide)
    obtain rfl := eq_of_toLower_eq same' (by decide)
    have value : Text.hexValue? letter = some 14 := by
      obtain kept | ⟨_, _, moved⟩ := toLower_cases letter
      · rw [← kept, isLetter]
        rfl
      · rw [isLetter] at moved
        have capital : letter.toNat = 'E'.toNat := Nat.add_right_cancel moved.symm
        rw [← Char.ofNat_toNat letter, capital]
        rfl
    refine ⟨behind, others, ?_⟩
    rw [decode, value]
    rfl

/-- What is read as one dot decodes to one. -/
theorem decode_of_isSingleDot {segment : List Char} (single : isSingleDot segment = true) :
    decode segment = octets ['.'] := by
  simp only [isSingleDot, List.contains_iff_mem, List.mem_cons, List.not_mem_nil, or_false]
    at single
  have spelled : ∃ dot, (dot = ['.'] ∨ dot = ['%', '2', 'e']) ∧
      segment.map Char.toLower = dot ++ [] := by
    obtain same | same := single
    · exact ⟨_, .inl rfl, String.ofList_injective same⟩
    · exact ⟨_, .inr rfl, String.ofList_injective same⟩
  obtain ⟨dot, isDot, spelled⟩ := spelled
  obtain ⟨behind, none, decoded⟩ := decode_of_dot spelled isDot
  rw [decoded, List.map_eq_nil_iff.mp none, decode.eq_3]
  rfl

/-- What is read as two dots decodes to two. -/
theorem decode_of_isDoubleDot {segment : List Char} (double : isDoubleDot segment = true) :
    decode segment = octets ['.', '.'] := by
  simp only [isDoubleDot, List.contains_iff_mem, List.mem_cons, List.not_mem_nil, or_false]
    at double
  have spelled : ∃ first second, (first = ['.'] ∨ first = ['%', '2', 'e']) ∧
      (second = ['.'] ∨ second = ['%', '2', 'e']) ∧
        segment.map Char.toLower = first ++ (second ++ []) := by
    obtain same | same | same | same := double
    · exact ⟨_, _, .inl rfl, .inl rfl, String.ofList_injective same⟩
    · exact ⟨_, _, .inl rfl, .inr rfl, String.ofList_injective same⟩
    · exact ⟨_, _, .inr rfl, .inl rfl, String.ofList_injective same⟩
    · exact ⟨_, _, .inr rfl, .inr rfl, String.ofList_injective same⟩
  obtain ⟨first, second, isFirst, isSecond, spelled⟩ := spelled
  obtain ⟨behind, others, decoded⟩ := decode_of_dot spelled isFirst
  obtain ⟨none, nothing, decoded'⟩ := decode_of_dot others isSecond
  rw [decoded, decoded', List.map_eq_nil_iff.mp nothing, decode.eq_3]
  rfl

variable {special : Bool}

/-- A text that is added as a segment is one dot there only if it is one. -/
theorem isSingleDot_encode :
    isSingleDot (encode (escapesInSegment special) text) = true ↔ text = ['.'] := by
  constructor
  · intro single
    rw [← Text.octets_inj, ← decode_of_isSingleDot single, decode_encode_segment]
  · rintro rfl
    cases special <;> rfl

/-- A text that is added as a segment is two dots there only if it is. -/
theorem isDoubleDot_encode :
    isDoubleDot (encode (escapesInSegment special) text) = true ↔ text = ['.', '.'] := by
  constructor
  · intro double
    rw [← Text.octets_inj, ← decode_of_isDoubleDot double, decode_encode_segment]
  · rintro rfl
    cases special <;> rfl

end Path

end TimedPublishing.Url
