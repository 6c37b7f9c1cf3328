import Mathlib.Data.List.Forall2
import TimedPublishing.Text.Basic

/-!
# White space around a text

A text may stand with white space around it. `Padded` says that one text is another one with white
space around it, and two texts have the same content when both are some text so padded. Trimming
decides this: `sameContent_iff` says that texts with the same content are those that trimming makes
equal.

White space around a list with separators is white space around its first and its last entry, so
lists with the same content have entries with the same content, one by one.
-/

namespace TimedPublishing.Text

/-- A text is some content with nothing but white space around it. -/
def Padded (content text : List Char) : Prop :=
  ∃ before after, isBlank before = true ∧ isBlank after = true ∧ text = before ++ content ++ after

/-- Two texts differ at most in the white space around them. -/
def SameContent (first second : List Char) : Prop :=
  ∃ content, Padded content first ∧ Padded content second

/-- A blank text holds white space only. -/
theorem isBlank_iff {text : List Char} :
    isBlank text = true ↔ ∀ character ∈ text, isSpace character = true :=
  List.all_eq_true

/-- White space before a text is dropped. -/
theorem trim_blank_append {before : List Char} (blank : isBlank before = true)
    (text : List Char) : trim (before ++ text) = trim text := by
  unfold trim
  rw [List.dropWhile_append_of_pos (isBlank_iff.mp blank)]

/-- White space behind a text is dropped. -/
theorem trim_append_blank {after : List Char} (blank : isBlank after = true)
    (text : List Char) : trim (text ++ after) = trim text := by
  have blankReverse : ∀ character ∈ after.reverse, isSpace character = true :=
    fun character member => isBlank_iff.mp blank character (List.mem_reverse.mp member)
  unfold trim
  rw [List.dropWhile_append]
  split
  · next nothing =>
    rw [(dropWhile_space_eq_nil_iff after).mpr blank, List.isEmpty_iff.mp nothing]
  · rw [List.reverse_append, List.dropWhile_append_of_pos blankReverse]

/-- Trimming looks through the white space around a text. -/
theorem Padded.trim_eq {content text : List Char} (padded : Padded content text) :
    trim text = trim content := by
  obtain ⟨before, after, blankBefore, blankAfter, rfl⟩ := padded
  rw [trim_append_blank blankAfter, trim_blank_append blankBefore]

/-- What is left of a text by trimming is its content. -/
theorem padded_trim (text : List Char) : Padded (trim text) text := by
  let rest := text.dropWhile isSpace
  refine ⟨text.takeWhile isSpace, (rest.reverse.takeWhile isSpace).reverse, List.all_takeWhile,
    ?_, ?_⟩
  · rw [isBlank, List.all_reverse]
    exact List.all_takeWhile
  · have split : rest = trim text ++ (rest.reverse.takeWhile isSpace).reverse := by
      unfold trim
      rw [← List.reverse_append, List.takeWhile_append_dropWhile, List.reverse_reverse]
    rw [List.append_assoc, ← split, List.takeWhile_append_dropWhile]

/-- Texts have the same content exactly when trimming makes them equal. -/
theorem sameContent_iff {first second : List Char} :
    SameContent first second ↔ trim first = trim second := by
  constructor
  · rintro ⟨content, padsFirst, padsSecond⟩
    rw [padsFirst.trim_eq, padsSecond.trim_eq]
  · intro same
    refine ⟨trim first, padded_trim first, ?_⟩
    rw [same]
    exact padded_trim second

/-- Having the same content is mutual. -/
theorem SameContent.symm {first second : List Char} (same : SameContent first second) :
    SameContent second first :=
  sameContent_iff.mpr (sameContent_iff.mp same).symm

/-- Texts have the same content one by one exactly when trimming all of them makes them equal. -/
theorem forall₂_sameContent_iff {texts others : List (List Char)} :
    List.Forall₂ SameContent texts others ↔ texts.map trim = others.map trim := by
  have sameContent_eq : SameContent = fun first second => trim first = trim second := by
    funext first second
    exact propext sameContent_iff
  rw [← List.forall₂_eq_eq_eq, List.forall₂_map_left_iff, List.forall₂_map_right_iff,
    sameContent_eq]

/-- A text without white space is not changed by trimming. -/
theorem trim_eq_self {text : List Char} (visible : ∀ character ∈ text, isSpace character = false) :
    trim text = text := by
  have kept {part : List Char} (own : ∀ character ∈ part, character ∈ text) :
      part.dropWhile isSpace = part := by
    cases part with
    | nil => rfl
    | cons character rest =>
      rw [List.dropWhile_cons_of_neg]
      simp [visible character (own character List.mem_cons_self)]
  unfold trim
  rw [kept fun _ member => member, kept fun _ member => List.mem_reverse.mp member,
    List.reverse_reverse]

/-- Texts with the same content are blank together. -/
theorem SameContent.isBlank_eq {first second : List Char} (same : SameContent first second) :
    isBlank first = isBlank second := by
  rw [Bool.eq_iff_iff, ← trim_eq_nil_iff, ← trim_eq_nil_iff, sameContent_iff.mp same]

section Entries

variable {mark : Char}

/-- A character that is not white space is not in a blank text. -/
theorem not_mem_of_isBlank (visible : isSpace mark = false) {text : List Char}
    (blank : isBlank text = true) : mark ∉ text := by
  intro member
  rw [isBlank_iff.mp blank mark member] at visible
  cases visible

/-- White space around a list is white space around its entries.

Proof: by recursion on what stands behind the first mark. What is before the list is before its
first entry, and what is behind it is handed on to the last one. -/
theorem map_trim_splitOn_padded (visible : isSpace mark = false) {before after : List Char}
    (blankBefore : isBlank before = true) (blankAfter : isBlank after = true) (list : List Char) :
    ((before ++ list ++ after).splitOn mark).map trim = (list.splitOn mark).map trim := by
  have unmarkedBefore : mark ∉ before := not_mem_of_isBlank visible blankBefore
  have unmarkedAfter : mark ∉ after := not_mem_of_isBlank visible blankAfter
  by_cases marked : mark ∈ list
  · obtain ⟨entry, rest, rfl, unmarked⟩ := List.eq_append_cons_of_mem marked
    have regrouped : before ++ (entry ++ mark :: rest) ++ after =
        (before ++ entry) ++ mark :: ([] ++ rest ++ after) := by simp
    rw [regrouped, List.splitOn_append_cons_self_of_not_mem (by simp [unmarkedBefore, unmarked]),
      List.splitOn_append_cons_self_of_not_mem unmarked, List.map_cons, List.map_cons,
      trim_blank_append blankBefore, map_trim_splitOn_padded visible rfl blankAfter rest]
  · have unmarkedWhole : mark ∉ before ++ list ++ after := by
      simp [unmarkedBefore, marked, unmarkedAfter]
    rw [List.splitOn_eq_singleton unmarkedWhole, List.splitOn_eq_singleton marked,
      List.map_singleton, List.map_singleton, trim_append_blank blankAfter,
      trim_blank_append blankBefore]
termination_by list.length

/-- Lists with the same content have entries with the same content, one by one. -/
theorem SameContent.entries (visible : isSpace mark = false) {first second : List Char}
    (same : SameContent first second) :
    List.Forall₂ SameContent (first.splitOn mark) (second.splitOn mark) := by
  have trimmedAlike : (first.splitOn mark).map trim = (second.splitOn mark).map trim := by
    obtain ⟨content, padsFirst, padsSecond⟩ := same
    obtain ⟨before, after, blankBefore, blankAfter, rfl⟩ := padsFirst
    obtain ⟨beforeOther, afterOther, blankBeforeOther, blankAfterOther, rfl⟩ := padsSecond
    rw [map_trim_splitOn_padded visible blankBefore blankAfter,
      map_trim_splitOn_padded visible blankBeforeOther blankAfterOther]
  exact forall₂_sameContent_iff.mpr trimmedAlike

/-- Lists whose entries have the same content are blank together. -/
theorem isBlank_eq_of_entries (visible : isSpace mark = false) {first second : List Char}
    (same : List.Forall₂ SameContent (first.splitOn mark) (second.splitOn mark)) :
    isBlank first = isBlank second := by
  have blank_of_blank {one other : List Char}
      (alike : List.Forall₂ SameContent (one.splitOn mark) (other.splitOn mark))
      (blank : isBlank one = true) : isBlank other = true := by
    -- A blank list is its own only entry, so the other list is one entry too.
    rw [List.splitOn_eq_singleton (not_mem_of_isBlank visible blank),
      List.forall₂_cons_left_iff] at alike
    obtain ⟨entry, rest, content, none, single⟩ := alike
    rw [List.forall₂_nil_left_iff] at none
    have only : other = entry :=
      calc other = [mark].intercalate (other.splitOn mark) := (List.intercalate_splitOn mark).symm
        _ = entry := by rw [single, none, List.intercalate_singleton]
    rw [only, ← content.isBlank_eq, blank]
  rw [Bool.eq_iff_iff]
  exact ⟨blank_of_blank same, blank_of_blank (same.flip.imp fun _ _ => SameContent.symm)⟩

end Entries

end TimedPublishing.Text
