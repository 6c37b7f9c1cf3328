import TimedPublishing.Proofs.Store.Effects

/-!
# The index of intents

A store keeps two tables, and each operation updates both by hand. The invariant is that
the second is nothing but an index of the first: every row stands under its own name, every
row's intent is owned by that name, and nothing else is owned. No request breaks it,
whatever job it carries: a stale copy, a job that reuses a stored name with another
content, or one in any status.

The invariant makes an intent identify at most one stored job, lets a look-up by intent
find exactly what is stored, and leaves an intent free once its job moved away or was
removed.
-/

namespace TimedPublishing.Store

/-- The table of owners is exactly the index of the rows by intent. -/
structure Indexed (store : Store) : Prop where
  named : ∀ id job, store.find id = some job → job.id = id
  owned : ∀ key id, store.owners.find? key = some id ↔
    ∃ job, store.find id = some job ∧ job.key = key

/-- The store after a sequence of requests, whatever they were answered. -/
def afterCalls (store : Store) (calls : List StoreCall) : Store :=
  calls.foldl (fun current call => (current.answer call).2) store

/-- An intent that is free to take: no look-up finds it, every job that has not ended may be
saved under it, and every queued job may be moved to it. -/
structure Vacant (store : Store) (key : JobKey) : Prop where
  absent : store.findByKey key = none
  save : ∀ job, job.key = key → ¬ store.Ended job.id →
    store.save job = (.ok job, store.write job)
  update : ∀ job, job.key = key → store.Queued job.id →
    store.updateIfQueued job = (.ok (some job), store.write job)

namespace Indexed

variable {store : Store}

/-- The store without jobs is indexed. -/
theorem empty : Store.empty.Indexed where
  named := by
    intro id job absent
    cases absent
  owned := by
    intro key id
    constructor
    · intro absent
      cases absent
    · rintro ⟨job, absent, _⟩
      cases absent

/-- A stored job owns its intent. -/
theorem owner_of_find (indexed : store.Indexed) {id : JobId} {job : Job}
    (found : store.find id = some job) : store.owners.find? job.key = some id :=
  (indexed.owned job.key id).mpr ⟨job, found, rfl⟩

/-- Stored jobs with the same intent are the same job. -/
theorem unique (indexed : store.Indexed) {left right : JobId} {first second : Job}
    (foundLeft : store.find left = some first) (foundRight : store.find right = some second)
    (same : first.key = second.key) : left = right := by
  have ownsLeft := indexed.owner_of_find foundLeft
  rw [same, indexed.owner_of_find foundRight] at ownsLeft
  exact (Option.some.inj ownsLeft).symm

/-- A stored job may be written anew under its own intent. -/
theorem admits_of_find (indexed : store.Indexed) {stored job : Job}
    (found : store.find job.id = some stored) (same : job.key = stored.key) :
    store.Admits job := by
  intro owner owns
  rw [same, indexed.owner_of_find found] at owns
  exact (Option.some.inj owns).symm

/-- Writing an admitted job keeps the correspondence.

Proof: separate the intent that the job takes from every other, and its own name from every
other. Under the new intent only the job itself can stand, since the store admits it. An
intent that the job gave up was owned by its name alone, so freeing it frees nobody else. -/
theorem write (indexed : store.Indexed) {job : Job} (admitted : store.Admits job) :
    (store.write job).Indexed where
  named := by
    intro id stored found
    rw [find_write] at found
    split at found
    · next same => exact Option.some.inj found ▸ same
    · exact indexed.named id stored found
  owned := by
    intro key id
    rw [owner_write, find_write]
    by_cases taken : job.key = key
    · rw [if_pos taken]
      by_cases own : job.id = id
      · simp [own, taken]
      · simp only [Option.some.injEq, own, false_iff]
        rintro ⟨other, found, same⟩
        exact own (admitted id (taken.trans same.symm ▸ indexed.owner_of_find found)).symm
    · rw [if_neg taken]
      by_cases own : job.id = id
      · subst own
        simp only [if_true, Option.some.injEq, exists_eq_left', taken, iff_false]
        split
        · intro absent
          cases absent
        · next kept =>
          intro owns
          obtain ⟨previous, found, same⟩ := (indexed.owned key job.id).mp owns
          simp [found, same] at kept
      · rw [if_neg own, ← indexed.owned key id]
        split
        · next freed =>
          obtain ⟨previous, found, same⟩ := (any_find_iff store job.id _).mp freed
          have owns := indexed.owner_of_find found
          rw [of_decide_eq_true same] at owns
          simp [owns, own]
        · rfl

/-- Removing a stored job with its intent keeps the correspondence. -/
theorem without (indexed : store.Indexed) {id : JobId} {stored : Job}
    (found : store.find id = some stored) : (store.without stored id).Indexed where
  named := by
    intro other job present
    rw [find_without] at present
    split at present
    · cases present
    · exact indexed.named other job present
  owned := by
    intro key other
    have owners : (store.without stored id).owners.find? key =
        if stored.key = key then none else store.owners.find? key :=
      Table.find?_erase store.owners stored.key key
    rw [owners, find_without]
    by_cases freed : stored.key = key
    · simp only [if_pos freed, reduceCtorEq, false_iff]
      rintro ⟨job, present, same⟩
      split at present
      · cases present
      · next different => exact different (indexed.unique found present (freed.trans same.symm))
    · rw [if_neg freed, indexed.owned key other]
      by_cases removed : id = other
      · subst removed
        simp [found, freed]
      · rw [if_neg removed]

/-- Replacing a row by one of the same name and intent keeps the correspondence, although
it leaves the owners alone. -/
theorem withRow (indexed : store.Indexed) {id : JobId} {stored job : Job}
    (found : store.find id = some stored) (sameId : job.id = stored.id)
    (sameKey : job.key = stored.key) : (store.withRow id job).Indexed where
  named := by
    intro other present shown
    rw [find_withRow] at shown
    split at shown
    · next same =>
      rw [← Option.some.inj shown, sameId, ← same]
      exact indexed.named id stored found
    · exact indexed.named other present shown
  owned := by
    intro key other
    have owners : (store.withRow id job).owners.find? key = store.owners.find? key := rfl
    rw [owners, find_withRow, indexed.owned key other]
    by_cases replaced : id = other
    · subst replaced
      simp [found, sameKey]
    · rw [if_neg replaced]

/-- No request breaks the correspondence. Each either leaves the store as it is, writes a
job that was admitted, or touches a row whose intent it has just read. -/
theorem answer (indexed : store.Indexed) (call : StoreCall) : (store.answer call).2.Indexed := by
  rcases store.answer_cases call with ⟨_, kept, _⟩ | ⟨_, _, changed, _, grants⟩
  · exact kept ▸ indexed
  · rw [changed]
    cases grants with
    | saved _ admits => exact indexed.write admits
    | moved _ admits => exact indexed.write admits
    | deleted found _ => exact indexed.without found
    | claimed found granted =>
      obtain ⟨_, rfl⟩ := Job.claim_eq_ok granted
      exact indexed.withRow found rfl rfl

/-- No sequence of requests breaks the correspondence. -/
theorem afterCalls (indexed : store.Indexed) (calls : List StoreCall) :
    (store.afterCalls calls).Indexed := by
  induction calls generalizing store with
  | nil => exact indexed
  | cons call rest inductionHypothesis => exact inductionHypothesis (indexed.answer call)

/-- A look-up by intent finds exactly what is stored under it. -/
theorem findByKey_eq_some_iff (indexed : store.Indexed) (key : JobKey) (job : Job) :
    store.findByKey key = some job ↔ store.find job.id = some job ∧ job.key = key := by
  have reads : store.findByKey key = (store.owners.find? key).bind store.find := rfl
  rw [reads, Option.bind_eq_some_iff]
  constructor
  · rintro ⟨id, owns, found⟩
    obtain ⟨stored, present, same⟩ := (indexed.owned key id).mp owns
    obtain rfl : stored = job := Option.some.inj (present.symm.trans found)
    exact ⟨(indexed.named id stored found).symm ▸ found, same⟩
  · rintro ⟨found, same⟩
    exact ⟨job.id, same ▸ indexed.owner_of_find found, found⟩

/-- A job that is not due is neither listed as due nor handed out. -/
theorem undue (indexed : store.Indexed) {id : JobId} {job : Job}
    (found : store.find id = some job) {now : Instant} (undue : job.isDue now = false) :
    (∀ limit, ∀ listed ∈ store.listDue now limit, listed.id ≠ id) ∧
      ∀ worker, store.claim id worker now = (none, store) := by
  constructor
  · rintro limit listed member rfl
    obtain ⟨⟨own, stored⟩, due⟩ := due_of_listed member
    obtain rfl := indexed.named own listed stored
    cases found.symm.trans stored
    cases undue.symm.trans due
  · intro worker
    rcases store.claim_cases id worker now with ⟨_, refused⟩ | ⟨row, copy, stored, granted, _⟩
    · exact refused
    · cases found.symm.trans stored
      cases undue.symm.trans (Job.claim_eq_ok granted).1

/-- A store admits every job whose intent no stored job has. -/
theorem admits_of_absent (indexed : store.Indexed) {job : Job}
    (absent : ∀ id stored, store.find id = some stored → stored.key ≠ job.key) :
    store.Admits job := by
  intro owner owns
  obtain ⟨stored, present, same⟩ := (indexed.owned job.key owner).mp owns
  exact absurd same (absent owner stored present)

/-- An intent that no stored job has is free to take. -/
theorem vacant (indexed : store.Indexed) {key : JobKey}
    (absent : ∀ id job, store.find id = some job → job.key ≠ key) : store.Vacant key where
  absent := by
    cases found : store.findByKey key with
    | none => rfl
    | some job =>
      obtain ⟨present, same⟩ := (indexed.findByKey_eq_some_iff key job).mp found
      exact absurd same (absent job.id job present)
  save := by
    rintro job rfl unended
    have admitted : store.Admits job := indexed.admits_of_absent absent
    rcases save_cases store job with ⟨ended, _⟩ | ⟨_, rejected, _⟩ | ⟨_, _, written⟩
    · exact absurd ended unended
    · exact absurd admitted rejected
    · exact written
  update := by
    rintro job rfl queued
    have admitted : store.Admits job := indexed.admits_of_absent absent
    rcases updateIfQueued_cases store job with ⟨waiting, _⟩ | ⟨_, rejected, _⟩ | ⟨_, _, written⟩
    · exact absurd queued waiting
    · exact absurd admitted rejected
    · exact written

/-- Removing a job leaves its intent free. -/
theorem vacant_without (indexed : store.Indexed) {id : JobId} {stored : Job}
    (found : store.find id = some stored) : (store.without stored id).Vacant stored.key := by
  apply (indexed.without found).vacant
  intro other job present same
  rw [find_without] at present
  split at present
  · cases present
  · next different => exact different (indexed.unique found present same.symm)

/-- Moving a job to another intent leaves the former one free. -/
theorem vacant_write (indexed : store.Indexed) {stored moved : Job}
    (found : store.find moved.id = some stored) (moves : moved.key ≠ stored.key)
    (admitted : store.Admits moved) : (store.write moved).Vacant stored.key := by
  apply (indexed.write admitted).vacant
  intro other job present same
  rw [find_write] at present
  split at present
  · obtain rfl := Option.some.inj present
    exact moves same
  · next different => exact different (indexed.unique found present same.symm)

end Indexed

/-- After any sequence of requests to a store that was empty, the two tables correspond:
every row stands under its own name, an intent is owned exactly by the name of the row that
has it, and nothing else is owned. So no two rows share an intent, a look-up by intent finds
exactly what is stored, and an intent whose job was removed, or moved away by either kind of
write, is free to take again.

Proof: the correspondence holds of the empty store and survives each request. What follows
from it is then a fact about the one store that the sequence left. -/
theorem tables_correspond (calls : List StoreCall) :
    let store := Store.empty.afterCalls calls
    (∀ id job, store.find id = some job → job.id = id) ∧
    (∀ key id, store.owners.find? key = some id ↔
      ∃ job, store.find id = some job ∧ job.key = key) ∧
    (∀ left right first second, store.find left = some first → store.find right = some second →
      first.key = second.key → left = right) ∧
    (∀ key job, store.findByKey key = some job ↔ store.find job.id = some job ∧ job.key = key) ∧
    (∀ id stored, store.find id = some stored → (store.delete id).1 = true →
      (store.delete id).2.Vacant stored.key) ∧
    (∀ stored moved, store.find moved.id = some stored → moved.key ≠ stored.key →
      (store.save moved).1 = .ok moved → (store.save moved).2.Vacant stored.key) ∧
    (∀ stored moved, store.find moved.id = some stored → moved.key ≠ stored.key →
      (store.updateIfQueued moved).1 = .ok (some moved) →
      (store.updateIfQueued moved).2.Vacant stored.key) := by
  intro store
  have indexed : store.Indexed := Indexed.empty.afterCalls calls
  refine ⟨indexed.named, indexed.owned, fun left right first second => indexed.unique,
    indexed.findByKey_eq_some_iff, ?_, ?_, ?_⟩
  · intro id stored found removed
    rcases delete_cases store id with ⟨_, kept⟩ | ⟨other, present, _, after⟩
    · rw [kept] at removed
      cases removed
    · obtain rfl : other = stored := Option.some.inj (present.symm.trans found)
      exact after ▸ indexed.vacant_without found
  · intro stored moved found moves saved
    rcases save_cases store moved with ⟨_, refused⟩ | ⟨_, _, refused⟩ | ⟨_, admitted, written⟩
    · rw [refused] at saved
      cases saved
    · rw [refused] at saved
      cases saved
    · exact written ▸ indexed.vacant_write found moves admitted
  · intro stored moved found moves updated
    rcases updateIfQueued_cases store moved with ⟨_, refused⟩ | ⟨_, _, refused⟩ |
        ⟨_, admitted, written⟩
    · rw [refused] at updated
      cases updated
    · rw [refused] at updated
      cases updated
    · exact written ▸ indexed.vacant_write found moves admitted

end TimedPublishing.Store
