import TimedPublishing.Proofs.Store.Index

/-!
# A job that has ended

A job ends once. From then on its row stands in the store as it is, and its intent stays taken,
whatever is asked: a save of a stale copy or of a job made up under the same name, a claim, a
move, a removal. Every request that writes has a guard of its own against this, and each guard is
spelled differently. They come to the same: a request that is granted is about a row that has not
ended.

The intent of an ended job is never given to another one. A save under another name is told that
the intent is taken, unless that name has ended itself. An update is told so only if the other
name stands in the queue; where it has no row, or one that left the queue, the update finds
nothing to replace and does not look at the intent.
-/

namespace TimedPublishing

/-- A job that has ended is not queued. -/
theorem JobStatus.ne_queued_of_isTerminal {status : JobStatus} (ended : status.isTerminal = true) :
    status ≠ .queued := by
  rintro rfl
  cases ended

/-- A job that has ended is not due, now or ever. -/
theorem Job.not_due_of_isTerminal {job : Job} (ended : job.status.isTerminal = true)
    (now : Instant) : job.isDue now = false := by
  refine Bool.eq_false_iff.mpr fun due => ?_
  rw [JobStatus.not_terminal_of_claimable (claimable_of_isDue due)] at ended
  cases ended

namespace Store

/-- What a store answers to a job whose intent belongs to a job under another name that has ended.
Nothing is written in any case. -/
structure Bars (store : Store) (job : Job) : Prop where
  saveEnded : store.Ended job.id → store.save job = (.error (.terminal job.id), store)
  save : ¬ store.Ended job.id → store.save job = (.error (.duplicateKey job.key), store)
  update : store.Queued job.id →
    store.updateIfQueued job = (.error (.duplicateKey job.key), store)
  updateUnqueued : ¬ store.Queued job.id → store.updateIfQueued job = (.ok none, store)

variable {store after : Store} {id : JobId} {row : Job}

/-- A request that is granted is not about a job that has ended. -/
theorem Grants.subject_of_ended {call : StoreCall} {reply : call.Reply}
    (grants : store.Grants call reply after) (found : store.find id = some row)
    (ended : row.status.isTerminal = true) : call.subject? ≠ some id := by
  have queuedElsewhere {other : JobId} (queued : store.Queued other) : other ≠ id := by
    rintro rfl
    obtain ⟨stored, present, waiting⟩ := queued
    obtain rfl : row = stored := Option.some.inj (found.symm.trans present)
    exact JobStatus.ne_queued_of_isTerminal ended waiting
  intro about
  cases grants with
  | saved unended admits =>
    obtain rfl := Option.some.inj about
    exact unended ⟨row, found, ended⟩
  | moved queued admits => exact queuedElsewhere queued (Option.some.inj about)
  | deleted present queued => exact queuedElsewhere ⟨_, present, queued⟩ (Option.some.inj about)
  | claimed present granted =>
    obtain rfl := Option.some.inj about
    obtain rfl := Option.some.inj (found.symm.trans present)
    have unended := Job.not_terminal_of_claim granted
    rw [ended] at unended
    cases unended

/-- No request touches the row of a job that has ended. -/
theorem find_answer_of_ended (call : StoreCall) (found : store.find id = some row)
    (ended : row.status.isTerminal = true) : (store.answer call).2.find id = some row := by
  rcases store.answer_cases call with ⟨_, kept, _⟩ | ⟨_, _, changed, _, grants⟩
  · rw [kept]
    exact found
  · rw [changed, grants.find_of_ne (grants.subject_of_ended found ended)]
    exact found

/-- No sequence of requests touches the row of a job that has ended. -/
theorem find_afterCalls_of_ended (calls : List StoreCall) (found : store.find id = some row)
    (ended : row.status.isTerminal = true) : (store.afterCalls calls).find id = some row := by
  induction calls generalizing store with
  | nil => exact found
  | cons call rest inductionHypothesis =>
    exact inductionHypothesis (find_answer_of_ended call found ended)

/-- What was asked later is answered by the store that the earlier requests left. -/
theorem afterCalls_append (store : Store) (earlier later : List StoreCall) :
    store.afterCalls (earlier ++ later) = (store.afterCalls earlier).afterCalls later :=
  List.foldl_append

namespace Indexed

/-- The intent of a stored job is barred to every job of another name. -/
theorem bars (indexed : store.Indexed) (found : store.find id = some row) {job : Job}
    (other : job.id ≠ id) (sameKey : job.key = row.key) : store.Bars job := by
  have rejected : ¬ store.Admits job := by
    intro admits
    have owner : store.owners.find? job.key = some id := sameKey ▸ indexed.owner_of_find found
    exact other (admits id owner).symm
  constructor
  · intro ended
    rcases store.save_cases job with ⟨_, refused⟩ | ⟨unended, _⟩ | ⟨unended, _⟩
    · exact refused
    · exact absurd ended unended
    · exact absurd ended unended
  · intro unended
    rcases store.save_cases job with ⟨ended, _⟩ | ⟨_, _, refused⟩ | ⟨_, admits, _⟩
    · exact absurd ended unended
    · exact refused
    · exact absurd admits rejected
  · intro queued
    rcases store.updateIfQueued_cases job with ⟨unqueued, _⟩ | ⟨_, _, refused⟩ | ⟨_, admits, _⟩
    · exact absurd queued unqueued
    · exact refused
    · exact absurd admits rejected
  · intro unqueued
    rcases store.updateIfQueued_cases job with ⟨_, refused⟩ | ⟨queued, _⟩ | ⟨queued, _⟩
    · exact refused
    · exact absurd queued unqueued
    · exact absurd queued unqueued

end Indexed

/-- Once a job has ended, its row is the same after any further requests, and it keeps its intent.
Nothing that is asked about it is granted, no other job gets its intent, and no listing of due
jobs shows it.

Proof: a granted request is not about an ended row, so each request leaves the row alone. The
correspondence of the two tables, which no request breaks, then gives the owner of the intent, and
the answers are those that the operations have for an ended row. -/
theorem ended_for_good (earlier later : List StoreCall) {id : JobId} {row : Job}
    (stored : (empty.afterCalls earlier).find id = some row)
    (ended : row.status.isTerminal = true) :
    let store := empty.afterCalls (earlier ++ later)
    store.find id = some row ∧
    store.owners.find? row.key = some id ∧
    store.findByKey row.key = some row ∧
    (∀ job, job.id = id → store.save job = (.error (.terminal id), store)) ∧
    (∀ job, job.id = id → store.updateIfQueued job = (.ok none, store)) ∧
    (∀ worker now, store.claim id worker now = (none, store)) ∧
    store.delete id = (false, store) ∧
    (∀ job, job.id ≠ id → job.key = row.key → store.Bars job) ∧
    ∀ now limit, ∀ listed ∈ store.listDue now limit, listed.id ≠ id := by
  intro store
  have indexed : store.Indexed := Indexed.empty.afterCalls _
  have found : store.find id = some row := by
    change (empty.afterCalls (earlier ++ later)).find id = some row
    rw [afterCalls_append]
    exact find_afterCalls_of_ended later stored ended
  have unqueued : ¬ store.Queued id := by
    rintro ⟨other, present, queued⟩
    obtain rfl : row = other := Option.some.inj (found.symm.trans present)
    exact JobStatus.ne_queued_of_isTerminal ended queued
  refine ⟨found, indexed.owner_of_find found, ?_, ?_, ?_, ?_, ?_,
    fun job other sameKey => indexed.bars found other sameKey, ?_⟩
  · have own : store.find row.id = some row := (indexed.named id row found).symm ▸ found
    exact (indexed.findByKey_eq_some_iff row.key row).mpr ⟨own, rfl⟩
  · rintro job rfl
    rcases store.save_cases job with ⟨_, refused⟩ | ⟨unended, _⟩ | ⟨unended, _⟩
    · exact refused
    · exact absurd ⟨row, found, ended⟩ unended
    · exact absurd ⟨row, found, ended⟩ unended
  · rintro job rfl
    rcases store.updateIfQueued_cases job with ⟨_, refused⟩ | ⟨queued, _⟩ | ⟨queued, _⟩
    · exact refused
    · exact absurd queued unqueued
    · exact absurd queued unqueued
  · intro worker now
    exact (indexed.undue found (Job.not_due_of_isTerminal ended now)).2 worker
  · rcases store.delete_cases id with ⟨_, refused⟩ | ⟨other, present, queued, _⟩
    · exact refused
    · exact absurd ⟨other, present, queued⟩ unqueued
  · intro now
    exact (indexed.undue found (Job.not_due_of_isTerminal ended now)).1

/-- A job is made, claimed and published, and a second one is saved for another content. The first
is then as it was. -/
theorem ended_for_good_after_publication :
    let made : Job := .create ⟨1⟩ ⟨"post"⟩ .epoch .epoch
    let row : Job := { made with
      state := .succeeded .epoch .epoch
      attempts := Attempts.zero.next
      lastAttemptAt := some .epoch }
    let earlier : List StoreCall := [.save made, .claim ⟨1⟩ ⟨"worker"⟩ .epoch, .save row]
    let later : List StoreCall := [.save (.create ⟨2⟩ ⟨"page"⟩ .epoch .epoch), .save made]
    (empty.afterCalls earlier).find ⟨1⟩ = some row ∧ row.status.isTerminal = true ∧
      (empty.afterCalls (earlier ++ later)).find ⟨1⟩ = some row ∧
      (empty.afterCalls (earlier ++ later)).delete ⟨1⟩ =
        (false, empty.afterCalls (earlier ++ later)) := by
  intro made row earlier later
  have stored : (empty.afterCalls earlier).find ⟨1⟩ = some row := by decide
  have facts := ended_for_good earlier later stored rfl
  exact ⟨stored, rfl, facts.1, facts.2.2.2.2.2.2.1⟩

/-- An update of a job that is not stored, for the intent of a job that has ended, is not told that
the intent is taken: it finds no row to replace and is answered that there was none. -/
theorem update_of_absent_unaware_of_owner :
    let row : Job := { Job.create ⟨1⟩ ⟨"post"⟩ .epoch .epoch with
      state := .succeeded .epoch .epoch }
    let job : Job := .create ⟨2⟩ ⟨"post"⟩ .epoch .epoch
    let store := empty.afterCalls [.save row]
    store.find ⟨1⟩ = some row ∧ row.status.isTerminal = true ∧
      job.id ≠ row.id ∧ job.key = row.key ∧ store.find job.id = none ∧
      (store.updateIfQueued job).1 = .ok none ∧
      (store.updateIfQueued job).1 ≠ .error (.duplicateKey row.key) := by
  intro row job store
  have answered : (store.updateIfQueued job).1 = .ok none := rfl
  refine ⟨rfl, rfl, by decide, rfl, rfl, answered, ?_⟩
  rw [answered]
  simp

end Store

end TimedPublishing
