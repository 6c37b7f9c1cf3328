/-!
# Texts and their characters

A property of characters is given as a list of closed ranges of code points, in ascending
order.

White space is Unicode's `White_Space` property, given here as its code points: the
ASCII blanks with line, form and vertical feeds, the next-line and no-break spaces, and
the typographic spaces up to the ideographic one. Characters that merely have no width,
such as U+200B, are not white space. Trimming removes white space at both ends, and a
text is blank when it holds nothing else; the two agree, as `trim_eq_nil_iff` says.

A text is cut at each of its separators. There is one piece more than there are separators,
so the empty text is one empty piece, and the pieces keep all the other characters in order.
-/

namespace TimedPublishing.Text

/-- Whether a character lies in one of the ranges. -/
def inRanges (ranges : List (Nat × Nat)) (character : Char) : Bool :=
  ranges.any fun range => range.1 ≤ character.toNat && character.toNat ≤ range.2

/-- Membership in Unicode's `White_Space` property. -/
def isSpace (character : Char) : Bool :=
  let point := character.toNat
  (0x09 ≤ point && point ≤ 0x0D) || point == 0x20 || point == 0x85 || point == 0xA0 ||
    point == 0x1680 || (0x2000 ≤ point && point ≤ 0x200A) || point == 0x2028 ||
    point == 0x2029 || point == 0x202F || point == 0x205F || point == 0x3000

/-- A text without the white space it begins and ends with. -/
def trim (text : List Char) : List Char :=
  ((text.dropWhile isSpace).reverse.dropWhile isSpace).reverse

/-- A text of white space only; the empty text is one. -/
def isBlank (text : List Char) : Bool := text.all isSpace

/-- `trim` on strings. -/
def trimmed (text : String) : String := String.ofList (trim text.toList)

/-- `isBlank` on strings. -/
def blank (text : String) : Bool := isBlank text.toList

/-- Dropping a prefix of white space leaves nothing exactly when there was nothing else. -/
theorem dropWhile_space_eq_nil_iff (text : List Char) :
    text.dropWhile isSpace = [] ↔ isBlank text = true := by
  induction text with
  | nil => simp [isBlank]
  | cons character rest inductionHypothesis =>
    cases space : isSpace character
    · simp [isBlank, space]
    · have sameBlank : isBlank (character :: rest) = isBlank rest := by simp [isBlank, space]
      rw [List.dropWhile_cons, if_pos space, sameBlank]
      exact inductionHypothesis

/-- After dropping leading white space, the first character that is left is not white
space. -/
theorem dropWhile_space_cons {text rest : List Char} {character : Char}
    (dropped : text.dropWhile isSpace = character :: rest) : isSpace character = false := by
  induction text with
  | nil => simp at dropped
  | cons first remaining inductionHypothesis =>
    cases space : isSpace first
    · rw [List.dropWhile_cons, space] at dropped
      obtain ⟨rfl, _⟩ := List.cons.inj dropped
      exact space
    · rw [List.dropWhile_cons, space] at dropped
      exact inductionHypothesis dropped

/-- Trimming leaves nothing exactly when the text is blank. -/
theorem trim_eq_nil_iff (text : List Char) : trim text = [] ↔ isBlank text = true := by
  constructor
  · intro nothing
    have inner : (text.dropWhile isSpace).reverse.dropWhile isSpace = [] :=
      List.reverse_eq_nil_iff.mp nothing
    rw [dropWhile_space_eq_nil_iff] at inner
    cases dropped : text.dropWhile isSpace with
    | nil => exact (dropWhile_space_eq_nil_iff text).mp dropped
    | cons character rest =>
      have visible : isSpace character = false := dropWhile_space_cons dropped
      rw [dropped] at inner
      simp [isBlank, visible] at inner
  · intro blankText
    have nothing : text.dropWhile isSpace = [] := (dropWhile_space_eq_nil_iff text).mpr blankText
    simp [trim, nothing]

/-- The pieces of a text between its separators. -/
def pieces (separates : Char → Bool) : List Char → List (List Char)
  | [] => [[]]
  | character :: rest =>
    if separates character then [] :: pieces separates rest
    else
      match pieces separates rest with
      | piece :: others => (character :: piece) :: others
      | [] => [[character]]

/-- Pieces put together again, with a mark between neighbours. -/
def joined (mark : List Char) : List (List Char) → List Char
  | [] => []
  | [last] => last
  | piece :: rest => piece ++ mark ++ joined mark rest

end TimedPublishing.Text
