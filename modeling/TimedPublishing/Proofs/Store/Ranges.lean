import Mathlib.Data.List.Induction
import TimedPublishing.Proofs.Store.Listing

/-!
# What the listings of a store show

A store is asked for its jobs in three ways: those that are due, those in a range of publish times,
and how many there are in each status. Each answer is computed from the rows in whatever order their
table has them. It shows the rows that it is asked for, all of them and nothing else, in an order
that their publish times and names alone decide; a limit cuts the list behind its first jobs. So two
stores in which the same jobs stand under the same names list and count the same.

A range includes its start and not its end. Two ranges that meet share no job and leave none out
between them, and their lists put one behind the other are the list of both together.
-/

namespace TimedPublishing

/-- A job that a listing by range asks for: its publish time lies from the start up to but not
including the end, and its status is one of those that are wanted, if any are named. -/
structure Job.InRange (job : Job) (start stop : Instant) (statuses : Option (List JobStatus)) :
    Prop where
  started : start ≤ job.publishAt
  beforeStop : job.publishAt < stop
  wanted : ∀ named, statuses = some named → job.status ∈ named

/-- Of two jobs that lie on either side of an instant, the earlier stands before the later. -/
theorem Job.before_of_separated {left right : Job} {middle : Instant}
    (early : left.publishAt < middle) (late : middle ≤ right.publishAt) : left.Before right :=
  Or.inl (Int.lt_of_lt_of_le early late)

/-- Ranges that meet are one range: a job is in it if it is in either. -/
theorem Job.inRange_iff_or {start middle stop : Instant} (first : start ≤ middle)
    (second : middle ≤ stop) (statuses : Option (List JobStatus)) (job : Job) :
    job.InRange start stop statuses ↔
      job.InRange start middle statuses ∨ job.InRange middle stop statuses := by
  constructor
  · intro within
    by_cases early : job.publishAt < middle
    · exact Or.inl ⟨within.started, early, within.wanted⟩
    · exact Or.inr ⟨Int.not_lt.mp early, within.beforeStop, within.wanted⟩
  · rintro (early | late)
    · exact ⟨early.started, Int.lt_of_lt_of_le early.beforeStop second, early.wanted⟩
    · exact ⟨Int.le_trans first late.started, late.beforeStop, late.wanted⟩

/-- A filter passes the statuses that it names, and all of them if it names none. -/
theorem Store.passes_iff (statuses : Option (List JobStatus)) (status : JobStatus) :
    Store.passes statuses status = true ↔ ∀ named, statuses = some named → status ∈ named := by
  cases statuses with
  | none => simp [Store.passes]
  | some named => simp [Store.passes]

/-- The number of all jobs is the number of jobs in each status, added up. -/
theorem Tally.sum_count (tally : Tally) : (JobStatus.all.map tally.count).sum = tally.total := by
  simp only [JobStatus.all, List.map_cons, List.map_nil, List.sum_cons, List.sum_nil, Tally.count,
    Tally.total]
  omega

/-- Jobs that are counted one after the other add one each to the number of all. -/
theorem Tally.total_foldl (jobs : List Job) (start : Tally) :
    (jobs.foldl (fun tally job => tally.record job.status 1) start).total =
      start.total + jobs.length := by
  induction jobs generalizing start with
  | nil => rfl
  | cons first rest inductionHypothesis =>
    rw [List.foldl_cons, inductionHypothesis, Tally.total_record, List.length_cons]
    omega

/-- The numbers of a tally and their total are words of 64 bits. -/
structure Tally.Fits (tally : Tally) : Prop where
  counts : ∀ status, tally.count status ≤ Text.maxWord64
  total : tally.total ≤ Text.maxWord64

/-- No status has more jobs than there are. -/
theorem Tally.count_le_total (tally : Tally) (status : JobStatus) :
    tally.count status ≤ tally.total := by
  cases status <;> simp only [Tally.count, Tally.total] <;> omega

/-- A tally fits if the number of all jobs does. -/
theorem Tally.fits_of_total {tally : Tally} (few : tally.total ≤ Text.maxWord64) : tally.Fits :=
  ⟨fun status => (tally.count_le_total status).trans few, few⟩

/-- A count that fits in the end has fitted at each step, so none of its additions went beyond a
word. -/
theorem Tally.Fits.of_append {α : Type} {statusOf : α → JobStatus} {numberOf : α → Nat}
    {counted rest : List α} {start : Tally}
    (fits : ((counted ++ rest).foldl
      (fun tally item => tally.record (statusOf item) (numberOf item)) start).Fits) :
    (counted.foldl
      (fun tally item => tally.record (statusOf item) (numberOf item)) start).Fits := by
  rw [List.foldl_append] at fits
  induction rest using List.reverseRecOn with
  | nil => exact fits
  | append_singleton earlier last inductionHypothesis =>
    apply inductionHypothesis
    rw [List.foldl_append, List.foldl_cons, List.foldl_nil] at fits
    have more := fits.total
    rw [Tally.total_record] at more
    exact Tally.fits_of_total ((Nat.le_add_right _ _).trans more)

namespace Store

variable {store : Store}

/-- The tally of a store counts every row. -/
theorem total_tally (store : Store) : store.tally.total = store.rows.size := by
  have none : Tally.zero.total = 0 := rfl
  rw [tally, Tally.total_foldl, none, Nat.zero_add, Table.values, List.length_map, Table.size]

/-- The tally of a store fits, unless there are more rows than a word can count. -/
theorem tally_fits (store : Store) (few : store.rows.size ≤ Text.maxWord64) : store.tally.Fits :=
  Tally.fits_of_total (store.total_tally.trans_le few)

/-- The rows of a store are a list of its jobs. -/
theorem Named.lists (named : store.Named) : Lists store.rows.values store :=
  (Lists.iff_perm named).mpr (List.Perm.refl _)

/-- A listing by range has the rows that it asks for. -/
theorem Named.mem_listRange (named : store.Named) (start stop : Instant)
    (statuses : Option (List JobStatus)) (job : Job) :
    job ∈ store.listRange start stop statuses ↔
      store.find job.id = some job ∧ job.InRange start stop statuses := by
  have asked : (decide (start ≤ job.publishAt) && decide (job.publishAt < stop) &&
      passes statuses job.status) = true ↔ job.InRange start stop statuses := by
    simp only [Bool.and_eq_true, decide_eq_true_eq, passes_iff]
    exact ⟨fun ⟨⟨started, beforeStop⟩, wanted⟩ => ⟨started, beforeStop, wanted⟩,
      fun within => ⟨⟨within.started, within.beforeStop⟩, within.wanted⟩⟩
  unfold listRange TimedPublishing.inListingOrder
  rw [List.mem_mergeSort, List.mem_filter, named.lists.mem_iff, asked]

/-- Each job of a listing by range stands before all that follow it. -/
theorem Named.listRange_sorted (named : store.Named) (start stop : Instant)
    (statuses : Option (List JobStatus)) :
    (store.listRange start stop statuses).Pairwise Job.Before :=
  inListingOrder_sorted (named.distinct.sublist (List.filter_sublist.map Job.id))

/-- The lists of two ranges that meet are, one behind the other, the list of the whole range.

Proof: the jobs of the first range come before the instant at which the ranges meet and those of the
second do not, so putting them behind each other keeps the order. Two lists in this order with the
same members are the same list. -/
theorem Named.listRange_append (named : store.Named) {start middle stop : Instant}
    (first : start ≤ middle) (second : middle ≤ stop) (statuses : Option (List JobStatus)) :
    store.listRange start middle statuses ++ store.listRange middle stop statuses =
      store.listRange start stop statuses := by
  have sorted : (store.listRange start middle statuses ++
      store.listRange middle stop statuses).Pairwise Job.Before := by
    refine List.pairwise_append.mpr ⟨named.listRange_sorted _ _ _, named.listRange_sorted _ _ _, ?_⟩
    intro early inFirst late inSecond
    have before := ((named.mem_listRange _ _ _ early).mp inFirst).2.beforeStop
    have after := ((named.mem_listRange _ _ _ late).mp inSecond).2.started
    exact Job.before_of_separated before after
  apply List.Pairwise.eq_of_mem_iff sorted (named.listRange_sorted start stop statuses)
  intro job
  rw [List.mem_append, named.mem_listRange, named.mem_listRange, named.mem_listRange,
    Job.inRange_iff_or first second, and_or_left]

/-- A due job that a limit leaves out stands behind every job that is listed. -/
theorem Named.before_of_left_out (named : store.Named) {now : Instant} {limit : Nat}
    {listed missed : Job} (shown : listed ∈ store.listDue now limit)
    (due : missed ∈ store.due now) (absent : missed ∉ store.listDue now limit) :
    listed.Before missed := by
  have sorted := named.due_sorted now
  rw [← List.take_append_drop limit (store.due now)] at sorted due
  rcases List.mem_append.mp due with inside | behind
  · exact absurd inside absent
  · exact (List.pairwise_append.mp sorted).2.2 listed shown missed behind

/-- The list of one status over a range that covers every row is as long as the status counts. -/
theorem Named.length_listRange (named : store.Named) {start stop : Instant}
    (covers : ∀ id job, store.find id = some job → start ≤ job.publishAt ∧ job.publishAt < stop)
    (status : JobStatus) :
    (store.listRange start stop (some [status])).length = store.tally.count status := by
  unfold listRange TimedPublishing.inListingOrder
  rw [List.length_mergeSort, named.lists.count_tally, List.countP_eq_length_filter]
  congr 1
  refine List.filter_congr fun job member => ?_
  obtain ⟨started, beforeStop⟩ := covers job.id job ((named.lists.mem_iff job).mp member)
  simp [started, beforeStop, passes]

/-- Two stores with the same jobs under the same names have their rows in two orders of one list. -/
theorem Named.lists_of_same {other : Store} (named : other.Named)
    (same : ∀ id, store.find id = other.find id) : Lists other.rows.values store where
  names := named.distinct
  found := fun id job => same id ▸ named.lists.found id job

/-- After any requests to a store that was empty, and for every store that has the same jobs under
the same names, in whatever order its table holds them:

* a listing of due jobs begins the list of exactly the jobs that are due, in strictly ascending order
  of publish time and name, so a job that a limit leaves out stands behind every job that is listed;
* a listing by range is the list of exactly the jobs in the range, in the same order;
* the lists of two ranges that meet are, one behind the other, the list of the whole range;
* over a range that covers every job, the list of each status is as long as the tally counts, and
  these lengths add up to the number of rows;
* and all of them are what the store that the requests left lists and counts.

Proof: no request gives a row another name than its own, and that alone makes a strictly ascending
list of the rows possible. Such a list is determined by its members, which the names show. -/
theorem listings_complete (calls : List StoreCall)
    (same : ∀ id, store.find id = (empty.afterCalls calls).find id) :
    (∀ now, ∃ due : List Job, due.Pairwise Job.Before ∧
      (∀ job, job ∈ due ↔ store.find job.id = some job ∧ job.isDue now = true) ∧
      ∀ limit, store.listDue now limit = due.take limit ∧
        ∀ listed ∈ store.listDue now limit, ∀ missed ∈ due,
          missed ∉ store.listDue now limit → listed.Before missed) ∧
    (∀ start stop statuses, (store.listRange start stop statuses).Pairwise Job.Before ∧
      ∀ job, job ∈ store.listRange start stop statuses ↔
        store.find job.id = some job ∧ job.InRange start stop statuses) ∧
    (∀ start middle stop statuses, start ≤ middle → middle ≤ stop →
      store.listRange start middle statuses ++ store.listRange middle stop statuses =
        store.listRange start stop statuses) ∧
    (∀ start stop,
      (∀ id job, store.find id = some job → start ≤ job.publishAt ∧ job.publishAt < stop) →
      (∀ status, (store.listRange start stop (some [status])).length =
        store.tally.count status) ∧
      (JobStatus.all.map fun status =>
        (store.listRange start stop (some [status])).length).sum = store.rows.size) ∧
    (∀ now limit, store.listDue now limit = (empty.afterCalls calls).listDue now limit) ∧
    (∀ start stop statuses, store.listRange start stop statuses =
      (empty.afterCalls calls).listRange start stop statuses) ∧
    store.tally = (empty.afterCalls calls).tally := by
  have reached : (empty.afterCalls calls).Named := (Indexed.empty.afterCalls calls).named
  have named : store.Named := fun id job found => reached id job (same id ▸ found)
  have lists : Lists (empty.afterCalls calls).rows.values store := reached.lists_of_same same
  refine ⟨fun now => ⟨store.due now, named.due_sorted now, named.mem_due now, fun limit =>
      ⟨store.listDue_eq now limit, fun listed shown missed due =>
        named.before_of_left_out shown due⟩⟩,
    fun start stop statuses => ⟨named.listRange_sorted start stop statuses,
      named.mem_listRange start stop statuses⟩,
    fun start middle stop statuses first second => named.listRange_append first second statuses,
    fun start stop covers => ?_, ?_, ?_, ?_⟩
  · have lengths := named.length_listRange covers
    refine ⟨lengths, ?_⟩
    rw [funext lengths, Tally.sum_count, total_tally]
  · intro now limit
    exact congrArg (List.take limit) (lists.inListingOrder _).symm
  · intro start stop statuses
    exact (lists.inListingOrder _).symm
  · refine Tally.eq_of_count fun status => ?_
    rw [lists.count_tally, reached.lists.count_tally]

/-- Two jobs are saved in one order and in the other. The tables hold them differently, and the
listings of the first store are those of the second. -/
theorem listings_complete_in_either_order :
    let early : Job := .create ⟨2⟩ ⟨"post"⟩ .epoch .epoch
    let late : Job := .create ⟨1⟩ ⟨"page"⟩ ⟨1, by decide⟩ .epoch
    let store := empty.afterCalls [.save late, .save early]
    let other := empty.afterCalls [.save early, .save late]
    store.rows.entries ≠ other.rows.entries ∧ (∀ id, store.find id = other.find id) ∧
      (∀ now limit, store.listDue now limit = other.listDue now limit) ∧
      store.listRange .epoch ⟨1, by decide⟩ none ++ store.listRange ⟨1, by decide⟩ .latest none =
        store.listRange .epoch .latest none := by
  intro early late store other
  have same (id : JobId) : store.find id = other.find id := by
    change ((empty.write late).write early).find id = ((empty.write early).write late).find id
    simp only [find_write]
    by_cases isEarly : early.id = id
    · have notLate : late.id ≠ id := by
        rintro rfl
        cases isEarly
      rw [if_pos isEarly, if_neg notLate, if_pos isEarly]
    · rw [if_neg isEarly, if_neg isEarly]
  have facts := listings_complete [.save early, .save late] same
  exact ⟨by decide, same, facts.2.2.2.2.1,
    facts.2.2.1 .epoch ⟨1, by decide⟩ .latest none (by decide) (by decide)⟩

end Store

end TimedPublishing
