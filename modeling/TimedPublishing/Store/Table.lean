/-!
# Finite tables

A table holds at most one value for each key. The entries stand in a list whose order is
an accident of the history and means nothing: `find?` is the view through which a table is
read, and each operation is described by its effect on that view.
-/

namespace TimedPublishing

universe u
variable {κ ν : Type u} [DecidableEq κ]

namespace Entries

/-- The value at a key. -/
def find? (key : κ) : List (κ × ν) → Option ν
  | [] => none
  | (first, value) :: rest => if first = key then some value else find? key rest

/-- Put a value at a key: in place of the former one, or at the end. -/
def insert (key : κ) (value : ν) : List (κ × ν) → List (κ × ν)
  | [] => [(key, value)]
  | (first, former) :: rest =>
    if first = key then (first, value) :: rest else (first, former) :: insert key value rest

/-- Drop the entry of a key. -/
def erase (key : κ) : List (κ × ν) → List (κ × ν)
  | [] => []
  | (first, value) :: rest => if first = key then erase key rest else (first, value) :: erase key rest

/-- Dropping an entry leaves the others in their order. -/
theorem erase_sublist (key : κ) (entries : List (κ × ν)) : (erase key entries).Sublist entries := by
  induction entries with
  | nil => exact List.Sublist.slnil
  | cons entry rest inductionHypothesis =>
    unfold erase
    split
    · exact inductionHypothesis.cons _
    · exact inductionHypothesis.cons_cons _

/-- The keys after an insertion are the former ones and the new one. -/
theorem mem_keys_insert (key other : κ) (value : ν) (entries : List (κ × ν)) :
    other ∈ (insert key value entries).map Prod.fst ↔ other = key ∨ other ∈ entries.map Prod.fst := by
  induction entries with
  | nil => simp [insert]
  | cons entry rest inductionHypothesis =>
    obtain ⟨first, former⟩ := entry
    unfold insert
    split
    · next same =>
      subst same
      simp
    · simp only [List.map_cons, List.mem_cons, inductionHypothesis]
      constructor
      · rintro (isFirst | isKey | old)
        · exact Or.inr (Or.inl isFirst)
        · exact Or.inl isKey
        · exact Or.inr (Or.inr old)
      · rintro (isKey | isFirst | old)
        · exact Or.inr (Or.inl isKey)
        · exact Or.inl isFirst
        · exact Or.inr (Or.inr old)

/-- Insertion repeats no key. -/
theorem nodup_keys_insert (key : κ) (value : ν) (entries : List (κ × ν))
    (distinct : (entries.map Prod.fst).Nodup) :
    ((insert key value entries).map Prod.fst).Nodup := by
  induction entries with
  | nil => simp [insert]
  | cons entry rest inductionHypothesis =>
    obtain ⟨first, former⟩ := entry
    obtain ⟨fresh, distinctRest⟩ := List.nodup_cons.mp distinct
    unfold insert
    split
    · exact List.nodup_cons.mpr ⟨fresh, distinctRest⟩
    · next different =>
      refine List.nodup_cons.mpr ⟨?_, inductionHypothesis distinctRest⟩
      intro repeated
      rcases (mem_keys_insert key first value rest).mp repeated with isKey | old
      · exact different isKey
      · exact fresh old

/-- Dropping entries repeats no key. -/
theorem nodup_keys_erase (key : κ) (entries : List (κ × ν))
    (distinct : (entries.map Prod.fst).Nodup) : ((erase key entries).map Prod.fst).Nodup :=
  List.Nodup.sublist (List.Sublist.map _ (erase_sublist key entries)) distinct

/-- Reading after an insertion: the new value at its key, the former view elsewhere. -/
theorem find?_insert (key other : κ) (value : ν) (entries : List (κ × ν)) :
    find? other (insert key value entries) =
      if key = other then some value else find? other entries := by
  induction entries with
  | nil => simp [insert, find?]
  | cons entry rest inductionHypothesis =>
    obtain ⟨first, former⟩ := entry
    unfold insert
    split
    · next same =>
      subst same
      by_cases found : first = other <;> simp [find?, found]
    · next different =>
      by_cases found : first = other
      · subst found
        simp [find?, Ne.symm different]
      · simp [find?, found, inductionHypothesis]

/-- Reading after dropping an entry: nothing at its key, the former view elsewhere. -/
theorem find?_erase (key other : κ) (entries : List (κ × ν)) :
    find? other (erase key entries) = if key = other then none else find? other entries := by
  induction entries with
  | nil => simp [erase, find?]
  | cons entry rest inductionHypothesis =>
    obtain ⟨first, former⟩ := entry
    unfold erase
    split
    · next dropped =>
      subst dropped
      rw [inductionHypothesis]
      by_cases found : first = other <;> simp [find?, found]
    · next kept =>
      by_cases found : first = other
      · subst found
        simp [find?, Ne.symm kept]
      · simp [find?, found, inductionHypothesis]

/-- A key that is found is among the keys, with its value. -/
theorem mem_of_find? {key : κ} {value : ν} {entries : List (κ × ν)}
    (found : find? key entries = some value) : (key, value) ∈ entries := by
  induction entries with
  | nil => cases found
  | cons entry rest inductionHypothesis =>
    obtain ⟨first, former⟩ := entry
    unfold find? at found
    split at found
    · next same =>
      cases found
      exact same ▸ List.mem_cons_self
    · exact List.mem_cons_of_mem _ (inductionHypothesis found)

/-- With distinct keys every entry is found at its key. -/
theorem find?_of_mem {key : κ} {value : ν} {entries : List (κ × ν)}
    (distinct : (entries.map Prod.fst).Nodup) (member : (key, value) ∈ entries) :
    find? key entries = some value := by
  induction entries with
  | nil => cases member
  | cons entry rest inductionHypothesis =>
    obtain ⟨first, former⟩ := entry
    obtain ⟨fresh, distinctRest⟩ := List.nodup_cons.mp distinct
    rcases List.mem_cons.mp member with isFirst | inRest
    · cases isFirst
      simp [find?]
    · have different : first ≠ key := by
        rintro rfl
        exact fresh (List.mem_map.mpr ⟨_, inRest, rfl⟩)
      simp [find?, different, inductionHypothesis distinctRest inRest]

end Entries

/-- A finite table from keys to values. -/
structure Table (κ ν : Type u) [DecidableEq κ] where
  entries : List (κ × ν)
  distinct : (entries.map Prod.fst).Nodup

namespace Table

/-- The table without entries. -/
def empty : Table κ ν := ⟨[], List.nodup_nil⟩

/-- The value at a key. -/
def find? (table : Table κ ν) (key : κ) : Option ν := Entries.find? key table.entries

/-- Put a value at a key. -/
def insert (table : Table κ ν) (key : κ) (value : ν) : Table κ ν :=
  ⟨Entries.insert key value table.entries,
    Entries.nodup_keys_insert key value table.entries table.distinct⟩

/-- Leave a key without a value. -/
def erase (table : Table κ ν) (key : κ) : Table κ ν :=
  ⟨Entries.erase key table.entries, Entries.nodup_keys_erase key table.entries table.distinct⟩

/-- Every value, once for each key that has it. -/
def values (table : Table κ ν) : List ν := table.entries.map Prod.snd

/-- The number of keys that have a value. -/
def size (table : Table κ ν) : Nat := table.entries.length

/-- An empty table has a value nowhere. -/
theorem find?_empty (key : κ) : (empty : Table κ ν).find? key = none := rfl

/-- The view after an insertion. -/
theorem find?_insert (table : Table κ ν) (key other : κ) (value : ν) :
    (table.insert key value).find? other = if key = other then some value else table.find? other :=
  Entries.find?_insert key other value table.entries

/-- The view after an erasure. -/
theorem find?_erase (table : Table κ ν) (key other : κ) :
    (table.erase key).find? other = if key = other then none else table.find? other :=
  Entries.find?_erase key other table.entries

/-- The entries are exactly what the view shows. -/
theorem mem_entries_iff (table : Table κ ν) (key : κ) (value : ν) :
    (key, value) ∈ table.entries ↔ table.find? key = some value :=
  ⟨Entries.find?_of_mem table.distinct, Entries.mem_of_find?⟩

/-- The values are exactly those that some key has. -/
theorem mem_values_iff (table : Table κ ν) (value : ν) :
    value ∈ table.values ↔ ∃ key, table.find? key = some value := by
  simp [values, ← mem_entries_iff]

end Table

end TimedPublishing
