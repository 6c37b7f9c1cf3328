import Mathlib.Data.List.Nodup
import TimedPublishing.Proofs.Custody.Basic

/-!
# A claim is exclusive

A save does not ask whose job it overwrites. That a claimed job is safe until its own
outcome is entered rests on every other act keeping away from a running row, also an act
that was prepared from a stale copy. The invariant `Sound` speaks of the store together with
the copies that are held: each of them is its row exactly, and no two are of one job.

Two facts carry it. A row that left the queue never enters it again and keeps its intent, so
nothing can steal the intent under which an outcome is saved. And every queued version that
was ever stored is unattempted, so a move from a stale copy takes back no attempt.
-/

namespace TimedPublishing.Custody

/-- What holds between a store and its users, however they acted. -/
structure Sound (custody : Custody) : Prop where
  indexed : custody.store.Indexed
  named : ∀ {id job}, custody.store.find id = some job → id ∈ custody.used
  noted : ∀ {id job}, custody.store.find id = some job → job ∈ custody.versions
  unattempted : ∀ version ∈ custody.versions, version.status = .queued → version.attempts = .zero
  /-- A job that left the queue is stored for good, outside the queue and under its intent. -/
  settled : ∀ version ∈ custody.versions, version.status ≠ .queued →
    ∃ row, custody.store.find version.id = some row ∧ row.key = version.key ∧
      row.status ≠ .queued
  stored : ∀ copy ∈ custody.held, custody.store.find copy.id = some copy
  running : ∀ copy ∈ custody.held, copy.status = .running
  distinct : (custody.held.map Job.id).Nodup

/-- A row that left the queue stays stored under its intent and does not return there,
whatever act is about it. -/
theorem Turn.stays {act : Act} {mark : Option Mark} {row : Job} {after : Option Job}
    (turn : Turn act mark (some row) after) (left : row.status ≠ .queued) :
    ∃ kept, after = some kept ∧ kept.key = row.key ∧ kept.status ≠ .queued := by
  cases turn with
  | refused => exact ⟨row, rfl, rfl, left⟩
  | claimed granted =>
    obtain ⟨_, rfl⟩ := Job.claim_eq_ok granted
    exact ⟨_, rfl, rfl, by simp [Job.status, JobState.status]⟩
  | moved queued => exact absurd queued left
  | deleted queued => exact absurd queued left
  | concluded concludes => exact ⟨_, rfl, concludes.sameKey, concludes.moved_on.1⟩

/-- A running row changes only when its own outcome is entered. -/
theorem Turn.running_stays {act : Act} {mark : Option Mark} {row : Job} {after : Option Job}
    (turn : Turn act mark (some row) after) (running : row.status = .running) :
    after = some row ∨ ∃ concluded, act = .conclude row concluded := by
  cases turn with
  | refused => exact Or.inl rfl
  | claimed granted => exact absurd running (Job.not_running_of_claim granted)
  | moved queued => cases running.symm.trans queued
  | deleted queued => cases running.symm.trans queued
  | concluded concludes => exact Or.inr ⟨_, rfl⟩

namespace Sound

variable {custody : Custody}

/-- A store without jobs and without users is sound. -/
theorem empty : Custody.empty.Sound where
  indexed := Store.Indexed.empty
  named := by
    intro id job absent
    cases absent
  noted := by
    intro id job absent
    cases absent
  unattempted := by simp [Custody.empty]
  settled := by simp [Custody.empty]
  stored := by simp [Custody.empty]
  running := by simp [Custody.empty]
  distinct := List.nodup_nil

/-- The outcome of a held copy is always saved. -/
theorem save_concluded (sound : custody.Sound) {copy concluded : Job} (held : copy ∈ custody.held)
    (concludes : copy.Concludes concluded) :
    custody.store.save concluded = (.ok concluded, custody.store.write concluded) :=
  sound.indexed.save_concluded (sound.stored copy held) concludes

/-- Every allowed act makes one of the turns of the row that it is about, and leaves the mark
of that turn. -/
theorem turn (sound : custody.Sound) {act : Act} (allowed : custody.Allows act) :
    Turn act (act.mark? (custody.store.answer act.call).1) (custody.store.find act.subject)
      ((custody.after act).store.find act.subject) := by
  cases act with
  | enlist job =>
    obtain ⟨fresh, new⟩ := allowed
    have absent : custody.store.find job.id = none := by
      cases found : custody.store.find job.id with
      | none => rfl
      | some row => exact absurd (sound.named found) fresh
    change Turn _ (Act.mark? (.enlist job) (custody.store.save job).1) (custody.store.find job.id)
      ((custody.store.save job).2.find job.id)
    rcases custody.store.save_cases job with ⟨_, after⟩ | ⟨_, _, after⟩ | ⟨_, _, after⟩
    · exact after ▸ .refused _ (by simp)
    · exact after ▸ .refused _ (by simp)
    · rw [after, Store.find_write, if_pos rfl, absent]
      exact .enlisted new
  | claim id worker now =>
    change Turn _ (Act.mark? (.claim id worker now) (.ok (custody.store.claim id worker now).1))
      (custody.store.find id) ((custody.store.claim id worker now).2.find id)
    rcases custody.store.claim_cases id worker now with ⟨_, after⟩ |
        ⟨row, copy, found, granted, after⟩
    · exact after ▸ .refused _ (by simp)
    · rw [after, Store.find_withRow, if_pos rfl, found]
      exact .claimed granted
  | move moved =>
    obtain ⟨version, noted, publishAt, now, moves⟩ := allowed
    change Turn _ (Act.mark? (.move moved) (custody.store.updateIfQueued moved).1)
      (custody.store.find moved.id) ((custody.store.updateIfQueued moved).2.find moved.id)
    rcases custody.store.updateIfQueued_cases moved with ⟨_, after⟩ | ⟨_, _, after⟩ |
        ⟨⟨row, found, queued⟩, _, after⟩
    · exact after ▸ .refused _ (by simp)
    · exact after ▸ .refused _ (by simp)
    · rw [after, Store.find_write, if_pos rfl, found]
      exact .moved queued publishAt now moves
        (sound.unattempted version noted (Job.reschedule_eq_ok moves).1)
  | delete id =>
    change Turn _ (Act.mark? (.delete id) (.ok (custody.store.delete id).1)) (custody.store.find id)
      ((custody.store.delete id).2.find id)
    rcases custody.store.delete_cases id with ⟨_, after⟩ | ⟨row, found, queued, after⟩
    · exact after ▸ .refused _ (by simp)
    · rw [after, Store.find_without, if_pos rfl, found]
      exact .deleted queued
  | conclude copy concluded =>
    obtain ⟨held, concludes⟩ := allowed
    change Turn _ (Act.mark? (.conclude copy concluded) (custody.store.save concluded).1)
      (custody.store.find concluded.id) ((custody.store.save concluded).2.find concluded.id)
    rw [sound.save_concluded held concludes, Store.find_write, if_pos rfl, concludes.sameId,
      sound.stored copy held]
    exact .concluded concludes

/-- The row of any name after an allowed act: another's row stays, its own takes a turn. -/
theorem row_after (sound : custody.Sound) {act : Act} (allowed : custody.Allows act) (id : JobId) :
    (custody.after act).store.find id = custody.store.find id ∨
      act.subject = id ∧
        Turn act (act.mark? (custody.store.answer act.call).1) (custody.store.find id)
          ((custody.after act).store.find id) := by
  by_cases about : act.subject = id
  · exact Or.inr ⟨about, about ▸ sound.turn allowed⟩
  · exact Or.inl (custody.find_after_of_ne act about)

/-- A version after an act is one from before or the row that the act left. -/
theorem version_after {act : Act} {version : Job} (noted : version ∈ (custody.after act).versions) :
    version ∈ custody.versions ∨ (custody.after act).store.find act.subject = some version := by
  rcases List.mem_append.mp noted with new | old
  · exact Or.inr (Option.mem_toList.mp new)
  · exact Or.inl old

/-- A claim that was won hands out a running copy, which is the row from then on. Nobody
held a copy of that job, since its row was waiting. -/
theorem claim_won (sound : custody.Sound) {id : JobId} {worker : WorkerId} {now : Instant}
    {copy : Job} (won : (custody.store.claim id worker now).1 = some copy) :
    copy.id = id ∧ copy.status = .running ∧
      (custody.after (.claim id worker now)).store.find id = some copy ∧
      ∀ other ∈ custody.held, other.id ≠ id := by
  obtain ⟨row, found, granted, shown⟩ := Store.row_of_claimed (congrArg Except.ok won)
  have sameId : copy.id = id := by
    obtain ⟨_, rfl⟩ := Job.claim_eq_ok granted
    exact sound.indexed.named id row found
  refine ⟨sameId, Job.running_of_claim granted, shown, ?_⟩
  rintro other held rfl
  obtain rfl : other = row := Option.some.inj ((sound.stored other held).symm.trans found)
  exact Job.not_running_of_claim granted (sound.running other held)

/-- The mark that an act leaves is about the job that the act is about. -/
theorem mark_subject (sound : custody.Sound) {act : Act} {mark : Mark}
    (left : act.mark? (custody.store.answer act.call).1 = some mark) :
    mark.subject = act.subject := by
  cases act with
  | enlist job =>
    change Act.mark? (.enlist job) (custody.store.save job).1 = some mark at left
    cases reply : (custody.store.save job).1 with
    | ok saved =>
      rw [reply] at left
      cases left
      rfl
    | error cause =>
      rw [reply] at left
      cases left
  | claim id worker now =>
    change ((custody.store.claim id worker now).1.map Mark.claimed) = some mark at left
    obtain ⟨copy, won, rfl⟩ := Option.map_eq_some_iff.mp left
    exact (sound.claim_won won).1
  | move moved =>
    change Act.mark? (.move moved) (custody.store.updateIfQueued moved).1 = some mark at left
    rcases reply : (custody.store.updateIfQueued moved).1 with cause | _ | saved
    · rw [reply] at left
      cases left
    · rw [reply] at left
      cases left
    · rw [reply] at left
      cases left
      rfl
  | delete id =>
    change Act.mark? (.delete id) (.ok (custody.store.delete id).1) = some mark at left
    cases removed : (custody.store.delete id).1 with
    | false =>
      rw [removed] at left
      cases left
    | true =>
      rw [removed] at left
      cases left
      rfl
  | conclude copy concluded =>
    change Act.mark? (.conclude copy concluded) (custody.store.save concluded).1 = some mark at left
    cases reply : (custody.store.save concluded).1 with
    | ok saved =>
      rw [reply] at left
      cases left
      rfl
    | error cause =>
      rw [reply] at left
      cases left

/-- A held copy stays its row through every act but the one that enters its own outcome. -/
theorem held_stays (sound : custody.Sound) {act : Act} (allowed : custody.Allows act) {copy : Job}
    (held : copy ∈ custody.held) (otherwise : ∀ concluded, act ≠ .conclude copy concluded) :
    (custody.after act).store.find copy.id = some copy := by
  have found := sound.stored copy held
  rcases sound.row_after allowed copy.id with same | ⟨_, turn⟩
  · exact same.trans found
  · rw [found] at turn
    rcases turn.running_stays (sound.running copy held) with same | ⟨concluded, own⟩
    · exact same
    · exact absurd own (otherwise concluded)

/-- A copy held after an act was held before and is not the one concluded, or it was just
won. -/
theorem held_after (sound : custody.Sound) {act : Act} {copy : Job}
    (held : copy ∈ (custody.after act).held) :
    (copy ∈ custody.held ∧ ∀ concluded, act ≠ .conclude copy concluded) ∨
      ∃ id worker now, act = .claim id worker now ∧
        (custody.store.claim id worker now).1 = some copy := by
  change copy ∈ custody.heldAfter act at held
  cases act with
  | claim id worker now =>
    rcases List.mem_append.mp held with won | old
    · exact Or.inr ⟨id, worker, now, rfl, Option.mem_toList.mp won⟩
    · exact Or.inl ⟨old, by simp⟩
  | conclude own concluded =>
    have once : custody.held.Nodup := sound.distinct.of_map Job.id
    obtain ⟨different, old⟩ := once.mem_erase_iff.mp held
    refine Or.inl ⟨old, ?_⟩
    rintro other same
    exact different (Act.conclude.inj same).1.symm
  | enlist job => exact Or.inl ⟨held, by simp⟩
  | move moved => exact Or.inl ⟨held, by simp⟩
  | delete id => exact Or.inl ⟨held, by simp⟩

/-- The held copies are of distinct jobs after an act if they were before. -/
theorem distinct_after (sound : custody.Sound) (act : Act) :
    ((custody.after act).held.map Job.id).Nodup := by
  change ((custody.heldAfter act).map Job.id).Nodup
  cases act with
  | claim id worker now =>
    change (((custody.store.claim id worker now).1.toList ++ custody.held).map Job.id).Nodup
    cases won : (custody.store.claim id worker now).1 with
    | none => exact sound.distinct
    | some copy =>
      obtain ⟨same, _, _, elsewhere⟩ := sound.claim_won won
      refine List.nodup_cons.mpr ⟨?_, sound.distinct⟩
      intro repeated
      obtain ⟨other, held, sameId⟩ := List.mem_map.mp repeated
      exact elsewhere other held (sameId.trans same)
  | conclude copy concluded =>
    exact sound.distinct.sublist (List.erase_sublist.map Job.id)
  | enlist job => exact sound.distinct
  | move moved => exact sound.distinct
  | delete id => exact sound.distinct

/-- Every allowed act keeps the invariant.

Proof: another's row is as before, and for the act's own row there are the few turns. Only a
new job appears where there was no row, and its name is noted as used. A queued version is
new, or moved from an unattempted one. A row that left the queue stays outside it, under its
intent. Held copies stay their rows, and the one that may be added is a running row that
nobody held. -/
theorem after (sound : custody.Sound) {act : Act} (allowed : custody.Allows act) :
    (custody.after act).Sound where
  indexed := sound.indexed.answer act.call
  named := by
    intro id job found
    have kept : ∀ name ∈ custody.used, name ∈ (custody.after act).used := by
      intro name known
      change name ∈ custody.usedAfter act
      cases act <;> simp [usedAfter, known]
    rcases sound.row_after allowed id with same | ⟨about, turn⟩
    · exact kept id (sound.named (same ▸ found))
    · rw [found] at turn
      generalize act.mark? _ = mark at turn
      cases before : custody.store.find id with
      | some row => exact kept id (sound.named before)
      | none =>
        rw [before] at turn
        cases turn with
        | enlisted _ => exact about ▸ List.mem_cons_self
  noted := by
    intro id job found
    apply List.mem_append.mpr
    by_cases about : act.subject = id
    · exact Or.inl (Option.mem_toList.mpr (about ▸ found))
    · exact Or.inr (sound.noted (custody.find_after_of_ne act about ▸ found))
  unattempted := by
    intro version noted queued
    rcases version_after noted with old | left
    · exact sound.unattempted version old queued
    · have turn := sound.turn allowed
      rw [left] at turn
      generalize act.mark? _ = mark at turn
      generalize before : custody.store.find act.subject = row at turn
      cases turn with
      | refused => exact sound.unattempted version (sound.noted before) queued
      | enlisted new =>
        obtain ⟨content, publishAt, now, created⟩ := new
        exact congrArg Job.attempts created
      | claimed granted =>
        obtain ⟨_, rfl⟩ := Job.claim_eq_ok granted
        cases queued
      | moved _ publishAt now moves unattempted =>
        obtain ⟨_, rfl⟩ := Job.reschedule_eq_ok moves
        exact unattempted
      | concluded concludes => exact absurd queued concludes.moved_on.1
  settled := by
    intro version noted left
    rcases version_after noted with old | found
    · obtain ⟨row, stored, sameKey, gone⟩ := sound.settled version old left
      rcases sound.row_after allowed version.id with same | ⟨_, turn⟩
      · exact ⟨row, same.trans stored, sameKey, gone⟩
      · rw [stored] at turn
        obtain ⟨kept, present, keptKey, stillGone⟩ := turn.stays gone
        exact ⟨kept, present, keptKey.trans sameKey, stillGone⟩
    · have own : version.id = act.subject :=
        (sound.indexed.answer act.call).named act.subject version found
      exact ⟨version, own ▸ found, rfl, left⟩
  stored := by
    intro copy held
    rcases sound.held_after held with ⟨old, otherwise⟩ | ⟨id, worker, now, rfl, won⟩
    · exact sound.held_stays allowed old otherwise
    · obtain ⟨same, _, found, _⟩ := sound.claim_won won
      exact same ▸ found
  running := by
    intro copy held
    rcases sound.held_after held with ⟨old, _⟩ | ⟨id, worker, now, rfl, won⟩
    · exact sound.running copy old
    · exact (sound.claim_won won).2.1
  distinct := sound.distinct_after act

end Sound

/-- The invariant survives a run of any length. -/
theorem Run.sound {start present : Custody} {acts : List Act} (run : Run start acts present)
    (sound : start.Sound) : present.Sound := by
  induction run with
  | none => exact sound
  | snoc _ allowed inductionHypothesis => exact inductionHypothesis.after allowed

/-- A held copy is held to the end of every run that does not enter its outcome. -/
theorem Run.held {start present : Custody} {acts : List Act} (run : Run start acts present)
    {copy : Job} (held : copy ∈ start.held)
    (unentered : ∀ concluded, .conclude copy concluded ∉ acts) : copy ∈ present.held := by
  induction run with
  | none => exact held
  | @snoc acts present act _ _ inductionHypothesis =>
    have still : copy ∈ present.held := inductionHypothesis fun concluded entered =>
      unentered concluded (List.mem_append_left _ entered)
    change copy ∈ present.heldAfter act
    cases act with
    | claim id worker now => exact List.mem_append_right _ still
    | conclude own concluded =>
      have different : copy ≠ own := by
        rintro rfl
        exact unentered concluded (List.mem_append_right _ List.mem_cons_self)
      exact (List.mem_erase_of_ne different).mpr still
    | enlist job => exact still
    | move moved => exact still
    | delete id => exact still

/-- From a claim that was won until its own outcome is entered, whatever else happens and in
whatever order, the row is the copy that the claim handed out. At every moment between, any
claim, any update and any removal of that job is refused and leaves the store as it is, so no
second user wins it; and whichever outcome the winner saves is stored.

Proof: the copy is held to the end of the run, and a held copy is its row. A running row is
neither queued nor due, and it owns its intent. -/
theorem claim_exclusive {before present : Custody} {earlier later : List Act} {id : JobId}
    {worker : WorkerId} {now : Instant} {copy : Job} (reached : Run empty earlier before)
    (won : (before.store.claim id worker now).1 = some copy)
    (since : Run (before.after (.claim id worker now)) later present)
    (unentered : ∀ concluded, .conclude copy concluded ∉ later) :
    copy.status = .running ∧ present.store.find id = some copy ∧
      (∀ other instant, present.store.claim id other instant = (none, present.store)) ∧
      (∀ job, job.id = id → present.store.updateIfQueued job = (.ok none, present.store)) ∧
      present.store.delete id = (false, present.store) ∧
      ∀ concluded, copy.Concludes concluded →
        present.store.save concluded = (.ok concluded, present.store.write concluded) ∧
          (present.store.write concluded).find id = some concluded := by
  have soundBefore : before.Sound := reached.sound Sound.empty
  obtain ⟨sameId, running, _, _⟩ := soundBefore.claim_won won
  have sound : present.Sound := since.sound (soundBefore.after trivial)
  have held : copy ∈ present.held :=
    since.held (List.mem_append_left _ (Option.mem_toList.mpr won)) unentered
  have found : present.store.find id = some copy := sameId ▸ sound.stored copy held
  have waitsNot : ¬ present.store.Queued id := by
    rintro ⟨row, present, queued⟩
    obtain rfl : copy = row := Option.some.inj (found.symm.trans present)
    cases running.symm.trans queued
  refine ⟨running, found, ?_, ?_, ?_, ?_⟩
  · intro other instant
    rcases present.store.claim_cases id other instant with ⟨_, lost⟩ | ⟨row, _, stored, granted, _⟩
    · exact lost
    · obtain rfl : copy = row := Option.some.inj (found.symm.trans stored)
      exact absurd running (Job.not_running_of_claim granted)
  · rintro job rfl
    rcases present.store.updateIfQueued_cases job with ⟨_, refused⟩ | ⟨queued, _⟩ | ⟨queued, _⟩
    · exact refused
    · exact absurd queued waitsNot
    · exact absurd queued waitsNot
  · rcases present.store.delete_cases id with ⟨_, refused⟩ | ⟨row, stored, queued, _⟩
    · exact refused
    · exact absurd ⟨row, stored, queued⟩ waitsNot
  · intro concluded concludes
    refine ⟨sound.save_concluded held concludes, ?_⟩
    rw [Store.find_write, if_pos (concludes.sameId.trans sameId)]

/-- A job is made, claimed, and claimed again in vain. -/
theorem claim_exclusive_against_second_claim :
    let made : Job := .create ⟨1⟩ ⟨"post"⟩ .epoch .epoch
    let copy : Job := { made with state := .running ⟨"first"⟩ }
    let before := empty.after (.enlist made)
    let claimed := before.after (.claim ⟨1⟩ ⟨"first"⟩ .epoch)
    let present := claimed.after (.claim ⟨1⟩ ⟨"second"⟩ .latest)
    (before.store.claim ⟨1⟩ ⟨"first"⟩ .epoch).1 = some copy ∧
      present.store.find ⟨1⟩ = some copy ∧
      present.store.delete ⟨1⟩ = (false, present.store) := by
  intro made copy before claimed present
  have won : (before.store.claim ⟨1⟩ ⟨"first"⟩ .epoch).1 = some copy := rfl
  have reached : Run empty [.enlist made] before :=
    .snoc .none ⟨List.not_mem_nil, _, _, _, rfl⟩
  have since : Run claimed [.claim ⟨1⟩ ⟨"second"⟩ .latest] present :=
    .snoc .none trivial
  have facts := claim_exclusive reached won since (by simp)
  exact ⟨won, facts.2.1, facts.2.2.2.2.1⟩

end TimedPublishing.Custody
