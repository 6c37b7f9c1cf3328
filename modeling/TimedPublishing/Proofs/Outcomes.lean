import Mathlib.Data.List.Forall2

/-!
# Steps that may fail

A step gives a result or the cause of its failure. Steps in a row end at the first one that fails,
and so does a pass over a list, which takes the same step for each item. These are the laws by which
what such a sequence came to is read back into what its steps did.
-/

namespace TimedPublishing

/-- Two steps succeed together exactly if the first does and then the second. -/
theorem bind_eq_ok {ε α β : Type} {first : Except ε α} {second : α → Except ε β} {last : β} :
    (first >>= second) = .ok last ↔ ∃ middle, first = .ok middle ∧ second middle = .ok last := by
  cases first with
  | error cause => simp [bind, Except.bind]
  | ok middle => simp [bind, Except.bind]

/-- Two steps fail together exactly if the first does, or the second after it. -/
theorem bind_eq_error {ε α β : Type} {first : Except ε α} {second : α → Except ε β} {cause : ε} :
    (first >>= second) = .error cause ↔
      first = .error cause ∨ ∃ middle, first = .ok middle ∧ second middle = .error cause := by
  cases first with
  | error earlier => simp [bind, Except.bind]
  | ok middle => simp [bind, Except.bind]

/-- Wording an error anew leaves what succeeded. -/
theorem mapError_eq_ok {ε δ α : Type} {outcome : Except ε α} {reword : ε → δ} {value : α} :
    outcome.mapError reword = .ok value ↔ outcome = .ok value := by
  cases outcome <;> simp [Except.mapError]

/-- An error that was worded anew was one before. -/
theorem mapError_eq_error {ε δ α : Type} {outcome : Except ε α} {reword : ε → δ} {cause : δ} :
    outcome.mapError reword = .error cause ↔
      ∃ former, outcome = .error former ∧ cause = reword former := by
  cases outcome <;> simp [Except.mapError, eq_comm]

/-- One of some items is bad, and those before it are good. -/
inductive FirstBad {α : Type} (good bad : α → Prop) : List α → Prop
  | here {first : α} {rest : List α} (isBad : bad first) : FirstBad good bad (first :: rest)
  | later {first : α} {rest : List α} (isGood : good first) (inRest : FirstBad good bad rest) :
    FirstBad good bad (first :: rest)

section Lists

variable {ε α β γ : Type} {step : α → Except ε β} {good bad worse : α → Prop}

/-- No item of an empty list is bad. -/
theorem not_firstBad_nil : ¬ FirstBad good bad [] := nofun

/-- The first bad item is the first one, or it is found behind a good one. -/
theorem firstBad_cons {first : α} {rest : List α} :
    FirstBad good bad (first :: rest) ↔ bad first ∨ good first ∧ FirstBad good bad rest := by
  constructor
  · intro found
    cases found with
    | here isBad => exact Or.inl isBad
    | later isGood inRest => exact Or.inr ⟨isGood, inRest⟩
  · rintro (isBad | ⟨isGood, inRest⟩)
    · exact .here isBad
    · exact .later isGood inRest

/-- The first bad item is one of the items. -/
theorem FirstBad.exists_bad {items : List α} (found : FirstBad good bad items) :
    ∃ item ∈ items, bad item := by
  induction found with
  | here isBad => exact ⟨_, List.mem_cons_self, isBad⟩
  | later _ _ inductionHypothesis =>
    obtain ⟨item, member, isBad⟩ := inductionHypothesis
    exact ⟨item, List.mem_cons_of_mem _ member, isBad⟩

/-- What stands before the first bad item is good. -/
theorem FirstBad.exists_split {items : List α} (found : FirstBad good bad items) :
    ∃ earlier item later, items = earlier ++ item :: later ∧ (∀ former ∈ earlier, good former) ∧
      bad item := by
  induction found with
  | @here first rest isBad => exact ⟨[], first, rest, rfl, nofun, isBad⟩
  | @later first rest isGood _ inductionHypothesis =>
    obtain ⟨earlier, item, later, rfl, areGood, isBad⟩ := inductionHypothesis
    exact ⟨first :: earlier, item, later, rfl, List.forall_mem_cons.mpr ⟨isGood, areGood⟩, isBad⟩

/-- The first bad item is bad in one of some ways exactly if in one of them it is the first. -/
theorem exists_firstBad {badAs : γ → α → Prop} {items : List α} :
    (∃ way, FirstBad good (badAs way) items) ↔
      FirstBad good (fun item => ∃ way, badAs way item) items := by
  induction items with
  | nil => simp [not_firstBad_nil]
  | cons first rest inductionHypothesis =>
    simp only [firstBad_cons, exists_or, exists_and_left, inductionHypothesis]

/-- What is good and bad of the images of some items is good and bad of the items. -/
theorem firstBad_map {items : List β} {image : β → α} :
    FirstBad good bad (items.map image) ↔
      FirstBad (fun item => good (image item)) (fun item => bad (image item)) items := by
  induction items with
  | nil => simp [not_firstBad_nil]
  | cons first rest inductionHypothesis => simp [firstBad_cons, inductionHypothesis]

/-- Items that are bad in one way exactly if they are in another have the same first bad one. -/
theorem firstBad_congr {items : List α} (same : ∀ item ∈ items, bad item ↔ worse item) :
    FirstBad good bad items ↔ FirstBad good worse items := by
  induction items with
  | nil => simp [not_firstBad_nil]
  | cons first rest inductionHypothesis =>
    rw [List.forall_mem_cons] at same
    rw [firstBad_cons, firstBad_cons, same.1, inductionHypothesis same.2]

/-- Each item of a list has its partner in a list that matches it. -/
theorem exists_of_forall₂ {related : α → β → Prop} {items : List α} {partners : List β}
    (matching : List.Forall₂ related items partners) {item : α} (member : item ∈ items) :
    ∃ partner ∈ partners, related item partner := by
  induction matching with
  | nil => cases member
  | @cons first partner rest partners isPartner _ inductionHypothesis =>
    rcases List.mem_cons.mp member with rfl | inRest
    · exact ⟨partner, List.mem_cons_self, isPartner⟩
    · obtain ⟨other, inPartners, isOther⟩ := inductionHypothesis inRest
      exact ⟨other, List.mem_cons_of_mem _ inPartners, isOther⟩

/-- Two lists match with a condition on the second one exactly if they match and it meets the
condition. -/
theorem forall₂_and_right {related : α → β → Prop} {holds : β → Prop} {items : List α}
    {partners : List β} :
    List.Forall₂ (fun item partner => related item partner ∧ holds partner) items partners ↔
      List.Forall₂ related items partners ∧ ∀ partner ∈ partners, holds partner := by
  constructor
  · intro matching
    induction matching with
    | nil => exact ⟨.nil, nofun⟩
    | cons both _ inductionHypothesis =>
      exact ⟨.cons both.1 inductionHypothesis.1,
        List.forall_mem_cons.mpr ⟨both.2, inductionHypothesis.2⟩⟩
  · rintro ⟨matching, allHold⟩
    induction matching with
    | nil => exact .nil
    | cons first _ inductionHypothesis =>
      obtain ⟨firstHolds, othersHold⟩ := List.forall_mem_cons.mp allHold
      exact .cons ⟨first, firstHolds⟩ (inductionHypothesis othersHold)

/-- A pass over a list succeeds exactly if each step does, and the results stand in the order of the
items. -/
theorem mapM_eq_ok {items : List α} {results : List β} :
    items.mapM step = .ok results ↔
      List.Forall₂ (fun item result => step item = .ok result) items results := by
  induction items generalizing results with
  | nil => cases results <;> simp [pure, Except.pure]
  | cons first rest inductionHypothesis =>
    simp only [List.mapM_cons, bind_eq_ok, inductionHypothesis, List.forall₂_cons_left_iff]
    constructor
    · rintro ⟨result, isResult, others, areResults, same⟩
      exact ⟨result, others, isResult, areResults, (Except.ok.inj same).symm⟩
    · rintro ⟨result, others, isResult, areResults, rfl⟩
      exact ⟨result, isResult, others, areResults, rfl⟩

/-- A pass over a list fails exactly at the first step that does. -/
theorem mapM_eq_error {items : List α} {cause : ε} :
    items.mapM step = .error cause ↔
      FirstBad (fun item => ∃ result, step item = .ok result)
        (fun item => step item = .error cause) items := by
  induction items with
  | nil => simp [pure, Except.pure, not_firstBad_nil]
  | cons first rest inductionHypothesis =>
    have rewrapped {found : List β} {result : β} :
        (pure (result :: found) : Except ε (List β)) ≠ .error cause := nofun
    simp only [List.mapM_cons, bind_eq_error, inductionHypothesis, firstBad_cons, rewrapped,
      and_false, exists_false, or_false, exists_and_right]

/-- Collecting what the steps over a list give is a pass over the list and collecting afterwards. -/
theorem foldlM_map_eq {items : List α} (collect : γ → β → γ) (start : γ) :
    (items.foldlM (fun collected item => (step item).map (collect collected)) start) =
      (items.mapM step).map fun results => results.foldl collect start := by
  induction items generalizing start with
  | nil => rfl
  | cons first rest inductionHypothesis =>
    rw [List.foldlM_cons, List.mapM_cons]
    cases step first with
    | error cause => rfl
    | ok result =>
      change List.foldlM _ (collect start result) rest = _
      rw [inductionHypothesis]
      cases rest.mapM step <;> rfl

end Lists

end TimedPublishing
