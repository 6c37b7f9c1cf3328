import Mathlib.Algebra.GroupWithZero.Nat
import Mathlib.Data.List.Dedup
import TimedPublishing.Proofs.Store.DueOrder
import TimedPublishing.Proofs.Store.Index

/-!
# A store as the list of its jobs

The tables of a store are a way to find jobs. What it holds is a list of jobs in which no name comes
twice, and the order of that list is of no account. Every request can be answered from such a list:
the one job with a name or an intent, the jobs in the order of listings, and the number of jobs in
each status. A store that writes or removes a job holds the list with that change.
-/

namespace TimedPublishing

/-- Tallies that count the same for every status are the same. -/
theorem Tally.eq_of_count {left right : Tally}
    (same : ∀ status, left.count status = right.count status) : left = right := by
  obtain ⟨queued, running, retryWait, succeeded, failed⟩ := left
  obtain ⟨queued', running', retryWait', succeeded', failed'⟩ := right
  obtain rfl : queued = queued' := same .queued
  obtain rfl : running = running' := same .running
  obtain rfl : retryWait = retryWait' := same .retryWait
  obtain rfl : succeeded = succeeded' := same .succeeded
  obtain rfl : failed = failed' := same .failed
  rfl

/-- Items that are counted one after the other add up for their status. -/
theorem Tally.count_foldl {α : Type} (statusOf : α → JobStatus) (numberOf : α → Nat)
    (items : List α) (start : Tally) (status : JobStatus) :
    (items.foldl (fun tally item => tally.record (statusOf item) (numberOf item)) start).count
        status =
      start.count status +
        ((items.filter fun item => statusOf item = status).map numberOf).sum := by
  induction items generalizing start with
  | nil => simp
  | cons first rest inductionHypothesis =>
    rw [List.foldl_cons, inductionHypothesis, Tally.count_record]
    by_cases counts : statusOf first = status
    · simp [counts, Nat.add_assoc]
    · simp [counts]

/-- Jobs in the order of listings are put in that order whatever order they come in, if no two of
them have the same name. -/
theorem inListingOrder_eq {left right : List Job} (names : (left.map Job.id).Nodup)
    (same : left.Perm right) : inListingOrder left = inListingOrder right := by
  apply List.Pairwise.eq_of_mem_iff (inListingOrder_sorted names)
    (inListingOrder_sorted ((same.map Job.id).nodup_iff.mp names))
  intro job
  simp [inListingOrder, same.mem_iff]

namespace Store

/-- A list has the jobs of a store, each of them once. -/
structure Lists (jobs : List Job) (store : Store) : Prop where
  names : (jobs.map Job.id).Nodup
  found : ∀ id job, store.find id = some job ↔ job ∈ jobs ∧ job.id = id

/-- The jobs of a list, with another version in place of the one that has its name. -/
def replaced (jobs : List Job) (version : Job) : List Job :=
  jobs.map fun job => if job.id = version.id then version else job

namespace Lists

variable {jobs : List Job} {store next : Store}

/-- A listed job is what is found under its name. -/
theorem mem_iff (lists : Lists jobs store) (job : Job) :
    job ∈ jobs ↔ store.find job.id = some job := by
  simp [lists.found]

/-- Every job is found under its own name. -/
theorem named (lists : Lists jobs store) : store.Named :=
  fun id job found => ((lists.found id job).mp found).2

/-- No job comes twice. -/
theorem nodup (lists : Lists jobs store) : jobs.Nodup := lists.names.of_map

/-- The lists of the jobs of a store are the orders of the rows. -/
theorem iff_perm (named : store.Named) : Lists jobs store ↔ jobs.Perm store.rows.values := by
  have rows (job : Job) : job ∈ store.rows.values ↔ store.find job.id = some job :=
    (Table.mem_values_iff store.rows job).trans (named.stored_iff job)
  constructor
  · intro lists
    have distinct : store.rows.values.Nodup := named.distinct.of_map
    exact (List.perm_ext_iff_of_nodup lists.nodup distinct).mpr fun job =>
      (lists.mem_iff job).trans (rows job).symm
  · intro same
    refine ⟨(same.map Job.id).nodup_iff.mpr named.distinct, ?_⟩
    intro id job
    rw [same.mem_iff, rows]
    constructor
    · intro found
      obtain rfl := named id job found
      exact ⟨found, rfl⟩
    · rintro ⟨found, rfl⟩
      exact found

/-- No two listed jobs have the same intent. -/
theorem keys (lists : Lists jobs store) (indexed : store.Indexed) : (jobs.map Job.key).Nodup := by
  refine lists.nodup.map_on fun left inLeft right inRight same => ?_
  have foundLeft := (lists.mem_iff left).mp inLeft
  have foundRight := (lists.mem_iff right).mp inRight
  have sameName : left.id = right.id := indexed.unique foundLeft foundRight same
  exact Option.some.inj (foundLeft.symm.trans (sameName ▸ foundRight))

/-- A job that a store does not admit has the intent of a listed job of another name. -/
theorem exists_rival (lists : Lists jobs store) (indexed : store.Indexed) {job : Job}
    (rejected : ¬ store.Admits job) : ∃ other ∈ jobs, other.key = job.key ∧ other.id ≠ job.id := by
  obtain ⟨owner, notAdmitted⟩ := not_forall.mp rejected
  obtain ⟨owns, different⟩ := Classical.not_imp.mp notAdmitted
  obtain ⟨other, found, sameKey⟩ := (indexed.owned job.key owner).mp owns
  obtain ⟨member, rfl⟩ := (lists.found owner other).mp found
  exact ⟨other, member, sameKey, different⟩

/-- Where a test is passed by one job at most, that job is all that passes it. -/
theorem filter_eq_toList (lists : Lists jobs store) {test : Job → Bool} {only : Option Job}
    (passes : ∀ job, job ∈ jobs ∧ test job = true ↔ only = some job) :
    jobs.filter test = only.toList := by
  have distinct : only.toList.Nodup := by cases only <;> simp
  have same : (jobs.filter test).Perm only.toList := by
    apply (List.perm_ext_iff_of_nodup (lists.nodup.filter test) distinct).mpr
    intro job
    rw [List.mem_filter, passes, Option.mem_toList]
  cases only with
  | none => exact List.perm_nil.mp same
  | some job => exact List.perm_singleton.mp same

/-- One job at most has a name, and it may pass a test. -/
theorem filter_name (lists : Lists jobs store) (id : JobId) (test : Job → Bool) :
    (jobs.filter fun job => decide (job.id = id) && test job) =
      ((store.find id).filter test).toList := by
  apply lists.filter_eq_toList
  intro job
  simp [Option.filter_eq_some_iff, lists.found, and_assoc]

/-- Where the job of a name does not pass a test, nothing is left out for it. -/
theorem filter_others_none (lists : Lists jobs store) {id : JobId} {test : Job → Bool}
    (fails : (store.find id).filter test = none) :
    (jobs.filter fun job => !(decide (job.id = id) && test job)) = jobs := by
  have nobody := lists.filter_name id test
  rw [fails, Option.toList_none, List.filter_eq_nil_iff] at nobody
  refine List.filter_eq_self.mpr fun job member => ?_
  rw [Bool.not_eq_true', ← Bool.not_eq_true]
  exact nobody job member

/-- Where the job of a name passes a test, it alone is left out. -/
theorem filter_others_some (lists : Lists jobs store) {id : JobId} {test : Job → Bool}
    {stored : Job} (found : store.find id = some stored) (passes : test stored = true) :
    (jobs.filter fun job => !(decide (job.id = id) && test job)) =
      jobs.filter fun job => !decide (job.id = id) := by
  refine List.filter_congr fun job member => ?_
  by_cases own : job.id = id
  · have listed : store.find id = some job := (lists.found id job).mpr ⟨member, own⟩
    obtain rfl : job = stored := Option.some.inj (listed.symm.trans found)
    rw [passes, Bool.and_true]
  · rw [decide_eq_false own, Bool.false_and]

/-- The job of a name is looked for in the list. -/
theorem find?_name (lists : Lists jobs store) (id : JobId) :
    (jobs.find? fun job => decide (job.id = id)) = store.find id := by
  have only : (jobs.filter fun job => decide (job.id = id)) = (store.find id).toList := by
    apply lists.filter_eq_toList
    intro job
    simp [lists.found]
  rw [← List.head?_filter, only]
  cases store.find id <;> rfl

/-- One job at most has an intent. -/
theorem filter_key (lists : Lists jobs store) (indexed : store.Indexed) (key : JobKey) :
    (jobs.filter fun job => decide (job.key = key)) = (store.findByKey key).toList := by
  apply lists.filter_eq_toList
  intro job
  simp [indexed.findByKey_eq_some_iff, lists.mem_iff]

/-- A version of a listed job takes its place. -/
theorem replaced (lists : Lists jobs store) {version stored : Job}
    (present : store.find version.id = some stored) (renews : store.Renews next version) :
    Lists (replaced jobs version) next where
  names := by
    have kept : (Store.replaced jobs version).map Job.id = jobs.map Job.id := by
      rw [Store.replaced, List.map_map]
      refine List.map_congr_left fun job _ => ?_
      by_cases own : job.id = version.id <;> simp [own]
    exact kept ▸ lists.names
  found := by
    intro id job
    rw [renews id]
    unfold Store.replaced
    rw [List.mem_map]
    have inJobs := (lists.found _ _).mp present
    by_cases own : version.id = id
    · rw [if_pos own, Option.some.injEq]
      constructor
      · rintro rfl
        exact ⟨⟨stored, inJobs.1, if_pos inJobs.2⟩, own⟩
      · rintro ⟨⟨other, _, becomes⟩, sameName⟩
        by_cases same : other.id = version.id
        · exact (if_pos same).symm.trans becomes
        · rw [if_neg same] at becomes
          exact absurd (becomes ▸ sameName.trans own.symm) same
    · rw [if_neg own, lists.found]
      constructor
      · rintro ⟨member, sameName⟩
        exact ⟨⟨job, member, if_neg fun same => own (same.symm.trans sameName)⟩, sameName⟩
      · rintro ⟨⟨other, member, becomes⟩, sameName⟩
        by_cases same : other.id = version.id
        · rw [if_pos same] at becomes
          exact absurd (becomes ▸ sameName) own
        · rw [if_neg same] at becomes
          exact becomes ▸ ⟨member, becomes.symm ▸ sameName⟩

/-- A job of a new name is added. -/
theorem added (lists : Lists jobs store) {job : Job} (absent : store.find job.id = none)
    (renews : store.Renews next job) : Lists (job :: jobs) next where
  names := by
    refine List.nodup_cons.mpr ⟨?_, lists.names⟩
    intro repeated
    obtain ⟨other, member, sameName⟩ := List.mem_map.mp repeated
    have found := (lists.found job.id other).mpr ⟨member, sameName⟩
    cases absent.symm.trans found
  found := by
    intro id other
    rw [renews id, List.mem_cons]
    by_cases own : job.id = id
    · subst own
      rw [if_pos rfl, Option.some.injEq]
      constructor
      · rintro rfl
        exact ⟨Or.inl rfl, rfl⟩
      · rintro ⟨rfl | member, sameName⟩
        · rfl
        · cases absent.symm.trans ((lists.found job.id other).mpr ⟨member, sameName⟩)
    · rw [if_neg own, lists.found]
      constructor
      · exact fun listed => ⟨Or.inr listed.1, listed.2⟩
      · rintro ⟨rfl | member, sameName⟩
        · exact absurd sameName own
        · exact ⟨member, sameName⟩

/-- A job that is removed is left out. -/
theorem removed (lists : Lists jobs store) {id : JobId}
    (without : ∀ other, next.find other = if id = other then none else store.find other) :
    Lists (jobs.filter fun job => !decide (job.id = id)) next where
  names := lists.names.sublist (List.filter_sublist.map Job.id)
  found := by
    intro other job
    rw [without other]
    by_cases own : id = other
    · simp [own]
    · simp only [own, if_false, lists.found, List.mem_filter, Bool.not_eq_eq_eq_not, Bool.not_true,
        decide_eq_false_iff_not]
      constructor
      · rintro ⟨member, sameName⟩
        exact ⟨⟨member, fun same => own (same.symm.trans sameName)⟩, sameName⟩
      · rintro ⟨⟨member, _⟩, sameName⟩
        exact ⟨member, sameName⟩

/-- The jobs that pass a test are listed in one order, however they are held. -/
theorem inListingOrder (lists : Lists jobs store) (test : Job → Bool) :
    inListingOrder (jobs.filter test) = inListingOrder (store.rows.values.filter test) := by
  have same : jobs.Perm store.rows.values := (iff_perm lists.named).mp lists
  exact inListingOrder_eq (lists.names.sublist (List.filter_sublist.map Job.id)) (same.filter test)

/-- The tally of a store counts the listed jobs of each status. -/
theorem count_tally (lists : Lists jobs store) (status : JobStatus) :
    store.tally.count status = jobs.countP fun job => job.status = status := by
  have same : jobs.Perm store.rows.values := (iff_perm lists.named).mp lists
  have none : Tally.zero.count status = 0 := by cases status <;> rfl
  unfold tally
  rw [Tally.count_foldl Job.status (fun _ => 1), none, same.countP_eq,
    List.countP_eq_length_filter]
  simp

/-- The numbers of the statuses that there are add up to the tally. -/
theorem tally_eq (lists : Lists jobs store) :
    store.tally = ((jobs.map Job.status).dedup.map fun status =>
      (status, jobs.countP fun job => job.status = status)).foldl
        (fun tally counted => tally.record counted.1 counted.2) Tally.zero := by
  let number (status : JobStatus) : Nat := jobs.countP fun job => job.status = status
  refine Tally.eq_of_count fun status => ?_
  have zero : Tally.zero.count status = 0 := by cases status <;> rfl
  rw [Tally.count_foldl Prod.fst Prod.snd, lists.count_tally, zero, Nat.zero_add, List.filter_map,
    List.map_map]
  change number status = (((jobs.map Job.status).dedup.filter (· == status)).map number).sum
  rw [List.filter_beq, List.count_dedup]
  split
  · simp
  · next absent =>
    have nobody : number status = 0 := by
      rw [List.countP_eq_zero]
      intro job member counts
      exact absent (of_decide_eq_true counts ▸ List.mem_map_of_mem member)
    simp [nobody]

end Lists

end Store

end TimedPublishing
