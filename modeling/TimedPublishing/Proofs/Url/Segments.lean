import TimedPublishing.Http.Endpoint
import TimedPublishing.Proofs.Url.Reading

/-!
# How an identifier stands in the path of its endpoint

The three segments of an endpoint are added one after the other to the base path. The words around
the identifier are always added as they are. What becomes of the identifier depends on its text: one
or two dots are left out; of any other text the tabs and line breaks are dropped, and what is left
is one segment, unless it is dots, which then take effect: one dot leaves an empty segment, two dots
take back the word before the identifier and leave an empty segment in its place.
-/

namespace TimedPublishing.Url

/-- The path that the segments of an endpoint are put behind. -/
def stem (path : List String) : List String :=
  if withoutTrailingSlash path = [""] then [] else withoutTrailingSlash path

/-- What is left of a text that is added as a segment. -/
def kept (text : List Char) : List Char := text.filter fun character => !isBreak character

/-- What becomes of an identifier in the path of its endpoint. -/
inductive Standing
  /-- It is left out. -/
  | omitted
  /-- It takes back the word before it. -/
  | climbing
  /-- It is the segment that encodes a text. -/
  | segment (text : List Char)
deriving DecidableEq, Repr

/-- What becomes of an identifier in the path of its endpoint. -/
def standing (content : ContentId) : Standing :=
  let text := content.text.toList
  if text = ['.'] ∨ text = ['.', '.'] then .omitted
  else if kept text = ['.', '.'] then .climbing
  else if kept text = ['.'] then .segment []
  else .segment (kept text)

/-- The segments of an endpoint behind the stem of its path. -/
def Standing.segments (kind : Kind) (stem : List String) : Standing → List String
  | .omitted => ["content", "publish"]
  | .climbing => if stem = [] then ["publish"] else ["", "publish"]
  | .segment text =>
    ["content", String.ofList (encode (escapesInSegment kind.isSpecial) text), "publish"]

section Adding

variable {kind : Kind} {path : List String} {text : List Char}

/-- A segment that is no drive at the beginning is put behind the path as it is. -/
theorem Path.push_eq (noDrive : path ≠ [] ∨ text.length ≠ 2) :
    Path.push kind path text = path ++ [String.ofList text] := by
  unfold Path.push
  split
  · simp at noDrive
  · rfl

/-- Adding a segment, told by the text that is added: one or two dots are recognized before its tabs
and line breaks are dropped, and take effect if they are left afterwards. -/
theorem pushSegment_eq :
    pushSegment kind path text =
      if text = ['.'] ∨ text = ['.', '.'] then path
      else
        let front := if path = [""] then [] else path
        if kept text = ['.', '.'] then Path.parent front ++ [""]
        else if kept text = ['.'] then front ++ [""]
        else Path.push kind front (encode (escapesInSegment kind.isSpecial) (kept text)) := by
  simp only [pushSegment, Path.add, kept, Path.isDoubleDot_encode, Path.isSingleDot_encode,
    ↓reduceIte]
  split_ifs <;> rfl

/-- A word that is neither dots nor a drive, and that is encoded as it is, is put behind the path,
where it takes the place of the root. -/
theorem pushSegment_word {word : List Char} (long : 2 < word.length) (whole : kept word = word)
    (plain : encode (escapesInSegment kind.isSpecial) word = word) :
    pushSegment kind path word =
      (if path = [""] then [] else path) ++ [String.ofList word] := by
  have noDots {dots : List Char} (few : dots.length ≤ 2) : word ≠ dots := by
    rintro rfl
    omega
  rw [pushSegment_eq, if_neg (not_or.mpr ⟨noDots (by decide), noDots (by decide)⟩), whole,
    if_neg (noDots (by decide)), if_neg (noDots (by decide)), plain,
    Path.push_eq (.inr (by omega))]

/-- The word before the identifier is put behind the stem. -/
theorem pushSegment_content :
    pushSegment kind (withoutTrailingSlash path) "content".toList = stem path ++ ["content"] :=
  pushSegment_word (by decide) rfl (by cases kind <;> rfl)

/-- The word behind the identifier is put behind any path that is not the root. -/
theorem pushSegment_publish :
    pushSegment kind path "publish".toList =
      (if path = [""] then [] else path) ++ ["publish"] :=
  pushSegment_word (by decide) rfl (by cases kind <;> rfl)

/-- The segment that the word before the identifier left is taken back whole. -/
theorem parent_content (front : List String) : Path.parent (front ++ ["content"]) = front := by
  have noDrive : Path.beginsWithDrive "content".toList = false := rfl
  rw [Path.parent, List.getLast?_append, List.dropLast_concat]
  simp only [List.getLast?_singleton, Option.some_or, Option.any_some, noDrive, Bool.false_eq_true,
    ↓reduceIte]

/-- What the identifier makes of the path that ends with the word before it. -/
theorem pushSegment_identifier (front : List String) (content : ContentId) :
    pushSegment kind (front ++ ["content"]) content.text.toList =
      match standing content with
      | .omitted => front ++ ["content"]
      | .climbing => front ++ [""]
      | .segment text =>
        front ++ ["content", String.ofList (encode (escapesInSegment kind.isSpecial) text)] := by
  have noRoot : front ++ ["content"] ≠ [""] := by simp [List.append_eq_singleton_iff]
  rw [pushSegment_eq, if_neg noRoot]
  unfold standing
  dsimp only
  split_ifs with dots climbs dot
  · rfl
  · rw [parent_content]
  · exact List.append_assoc front _ _
  · rw [Path.push_eq (.inl (List.concat_ne_nil _ _))]
    exact List.append_assoc front _ _

end Adding

/-- The endpoint of an identifier: nothing but the path of the base is changed, and the path is its
stem with the segments that the identifier's standing gives. -/
theorem endpoint_eq {base : Url} {place : Place} {path : List String}
    (carries : base.body = .path place path) (content : ContentId) :
    endpoint base content =
      .ok { base with
        body := .path place
          (stem path ++ (standing content).segments base.kind (stem path)) } := by
  have behindWord : stem path ++ ["content"] ≠ [""] := by simp [List.append_eq_singleton_iff]
  rw [endpoint, extend?, carries]
  simp only [List.foldl_cons, List.foldl_nil]
  rw [pushSegment_content, pushSegment_identifier, pushSegment_publish]
  cases standing content with
  | omitted => simp only [if_neg behindWord, Standing.segments, List.append_assoc, List.cons_append,
      List.nil_append]
  | climbing =>
    simp only [Standing.segments, List.append_left_eq_self]
    split_ifs with root
    · rw [root]
    · rw [List.append_assoc]
      rfl
  | segment text =>
    have behindTwo (last : String) : stem path ++ ["content", last] ≠ [""] := by
      simp [List.append_eq_singleton_iff]
    simp only [if_neg (behindTwo _), Standing.segments, List.append_assoc, List.cons_append,
      List.nil_append]

end TimedPublishing.Url
