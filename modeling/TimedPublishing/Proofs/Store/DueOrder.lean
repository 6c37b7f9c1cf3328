import Mathlib.Data.List.Sort
import TimedPublishing.Proofs.Store.Effects

/-!
# The due jobs of a store in their order

A listing of due jobs sorts what the table of rows holds, and the order of the table is an accident.
What makes a listing definite is that no two rows share a name: the order by publish time and name
is then strict, and a list that is strictly sorted is determined by its members. So the due jobs
depend on nothing but what the names show, and once the first of them makes room for a version that
is not due the others are left in their order.
-/

namespace TimedPublishing

/-- A job stands before another: it has the earlier publish time, or the smaller name among equal
publish times. -/
def Job.Before (left right : Job) : Prop :=
  left.publishAt < right.publishAt ∨
    left.publishAt = right.publishAt ∧ left.id.bits.toNat < right.id.bits.toNat

/-- Two instants are the same exactly if their counts are. -/
theorem Instant.eq_iff_nanos (left right : Instant) : left = right ↔ left.nanos = right.nanos :=
  ⟨congrArg nanos, eq_of_nanos⟩

namespace Job

/-- Standing before another job, read as numbers. -/
theorem before_iff (left right : Job) :
    left.Before right ↔
      left.publishAt.nanos < right.publishAt.nanos ∨
        left.publishAt.nanos = right.publishAt.nanos ∧
          left.id.bits.toNat < right.id.bits.toNat := by
  unfold Before
  rw [Instant.eq_iff_nanos]
  exact Iff.rfl

/-- The order of listings, read as numbers. -/
theorem precedes_iff (left right : Job) :
    left.precedes right = true ↔
      left.publishAt.nanos < right.publishAt.nanos ∨
        left.publishAt.nanos = right.publishAt.nanos ∧
          left.id.bits.toNat ≤ right.id.bits.toNat := by
  simp only [precedes, JobId.precedes, Bool.or_eq_true, Bool.and_eq_true, decide_eq_true_eq,
    Instant.eq_iff_nanos]
  exact Iff.rfl

/-- No two jobs stand before each other. -/
instance asymm_before : Std.Asymm Before where
  asymm := by
    intro left right before after
    rw [before_iff] at before after
    omega

/-- The order of listings can be chained. -/
theorem precedes_trans (first second third : Job) (early : first.precedes second = true)
    (late : second.precedes third = true) : first.precedes third = true := by
  rw [precedes_iff] at early late ⊢
  omega

/-- The order of listings compares any two jobs. -/
theorem precedes_total (left right : Job) :
    (left.precedes right || right.precedes left) = true := by
  rw [Bool.or_eq_true, precedes_iff, precedes_iff]
  omega

/-- Of two jobs with different names, the one that precedes the other stands before it. -/
theorem before_of_precedes {left right : Job} (precedes : left.precedes right = true)
    (different : left.id ≠ right.id) : left.Before right := by
  have differentBits : left.id.bits.toNat ≠ right.id.bits.toNat :=
    fun same => different (congrArg JobId.mk (BitVec.eq_of_toNat_eq same))
  rw [precedes_iff] at precedes
  rw [before_iff]
  omega

end Job

/-- Each job in the order of listings stands before all that follow it, if no two have the same
name. -/
theorem inListingOrder_sorted {jobs : List Job} (names : (jobs.map Job.id).Nodup) :
    (inListingOrder jobs).Pairwise Job.Before := by
  have sorted : (inListingOrder jobs).Pairwise fun left right => left.precedes right = true :=
    List.pairwise_mergeSort Job.precedes_trans Job.precedes_total _
  have listed : (inListingOrder jobs).Perm jobs := List.mergeSort_perm _ _
  have distinct : ((inListingOrder jobs).map Job.id).Nodup :=
    (listed.map Job.id).nodup_iff.mpr names
  exact (sorted.and (List.pairwise_map.mp distinct)).imp fun both =>
    Job.before_of_precedes both.1 both.2

namespace Store

/-- Every job that is due at an instant, in the order of listings. -/
def due (store : Store) (now : Instant) : List Job :=
  inListingOrder (store.rows.values.filter fun job => job.isDue now)

/-- Every row stands under its own name. -/
def Named (store : Store) : Prop := ∀ id job, store.find id = some job → job.id = id

/-- A listing begins the list of all due jobs. -/
theorem listDue_eq (store : Store) (now : Instant) (limit : Nat) :
    store.listDue now limit = (store.due now).take limit := rfl

/-- The first job of a listing is the first of all due jobs. -/
theorem due_of_listDue {store : Store} {now : Instant} {limit : Nat} {first : Job}
    {others : List Job} (listed : store.listDue now limit = first :: others) :
    ∃ rest, store.due now = first :: rest := by
  rw [listDue_eq] at listed
  obtain ⟨rest, due⟩ : first :: others <+: store.due now := listed ▸ List.take_prefix limit _
  exact ⟨others ++ rest, due.symm⟩

variable {store : Store}

/-- The names of the rows are the keys of their table, so none comes twice. -/
theorem Named.distinct (named : store.Named) : (store.rows.values.map Job.id).Nodup := by
  have keys : store.rows.values.map Job.id = store.rows.entries.map Prod.fst := by
    rw [Table.values, List.map_map]
    apply List.map_congr_left
    rintro ⟨id, job⟩ member
    exact named id job ((Table.mem_entries_iff store.rows id job).mp member)
  exact keys ▸ store.rows.distinct

/-- A job that is stored at all is stored under its own name. -/
theorem Named.stored_iff (named : store.Named) (job : Job) :
    (∃ id, store.find id = some job) ↔ store.find job.id = some job := by
  constructor
  · rintro ⟨id, found⟩
    exact (named id job found).symm ▸ found
  · exact fun found => ⟨job.id, found⟩

/-- The due jobs are the rows that are due. -/
theorem Named.mem_due (named : store.Named) (now : Instant) (job : Job) :
    job ∈ store.due now ↔ store.find job.id = some job ∧ job.isDue now = true := by
  have stored : job ∈ store.rows.values ↔ store.find job.id = some job :=
    (Table.mem_values_iff store.rows job).trans (named.stored_iff job)
  simp [due, inListingOrder, stored]

/-- The first of the due jobs is a row that is due. -/
theorem Named.first_due (named : store.Named) {now : Instant} {first : Job} {rest : List Job}
    (due : store.due now = first :: rest) :
    store.find first.id = some first ∧ first.isDue now = true :=
  (named.mem_due now first).mp (due ▸ List.mem_cons_self)

/-- Each due job stands before all that follow it. -/
theorem Named.due_sorted (named : store.Named) (now : Instant) :
    (store.due now).Pairwise Job.Before :=
  inListingOrder_sorted (named.distinct.sublist (List.filter_sublist.map Job.id))

/-- The due jobs after the first one are those of other names. -/
theorem Named.mem_rest (named : store.Named) {now : Instant} {first : Job} {rest : List Job}
    (due : store.due now = first :: rest) (job : Job) :
    job ∈ rest ↔ job ∈ store.due now ∧ job.id ≠ first.id := by
  have listed : job ∈ store.due now ↔ job = first ∨ job ∈ rest := by rw [due, List.mem_cons]
  constructor
  · intro member
    have inDue : job ∈ store.due now := listed.mpr (Or.inr member)
    refine ⟨inDue, ?_⟩
    intro same
    -- Two rows of one name are one row, and no row stands before itself.
    have stored := ((named.mem_due now job).mp inDue).1
    rw [same, (named.first_due due).1] at stored
    obtain rfl : first = job := Option.some.inj stored
    have sorted := named.due_sorted now
    rw [due, List.pairwise_cons] at sorted
    exact Std.Irrefl.irrefl first (sorted.1 first member)
  · rintro ⟨inDue, different⟩
    rcases listed.mp inDue with rfl | member
    · exact absurd rfl different
    · exact member

/-- A store in which one row makes room for another version of its job. -/
def Renews (store next : Store) (version : Job) : Prop :=
  ∀ id, next.find id = if version.id = id then some version else store.find id

/-- A new version stands under the name of its job. -/
theorem Renews.named {next : Store} {version : Job} (renews : store.Renews next version)
    (named : store.Named) : next.Named := by
  intro id job found
  rw [renews id] at found
  split at found
  · next own => exact Option.some.inj found ▸ own
  · exact named id job found

/-- A version of a job that makes room for another version of it is gone. -/
theorem Renews.trans {middle next : Store} {former version : Job}
    (first : store.Renews middle former) (second : middle.Renews next version)
    (sameId : former.id = version.id) : store.Renews next version := by
  intro id
  rw [second id, first id, sameId]
  split <;> rfl

/-- Once the first of the due jobs makes room for a version that is not due, the others are left,
in their order. -/
theorem Renews.due_rest {next : Store} {version first : Job} {rest : List Job} {now : Instant}
    (renews : store.Renews next version) (named : store.Named)
    (due : store.due now = first :: rest) (sameId : version.id = first.id)
    (undue : version.isDue now = false) : next.due now = rest := by
  have namedNext : next.Named := renews.named named
  have sortedRest : rest.Pairwise Job.Before := (due ▸ named.due_sorted now).tail
  apply List.Pairwise.eq_of_mem_iff (namedNext.due_sorted now) sortedRest
  intro job
  rw [named.mem_rest due, namedNext.mem_due, named.mem_due, renews job.id, sameId]
  by_cases own : first.id = job.id
  · rw [if_pos own]
    constructor
    · rintro ⟨same, isDue⟩
      cases same
      cases undue.symm.trans isDue
    · rintro ⟨_, different⟩
      exact absurd own.symm different
  · rw [if_neg own]
    constructor
    · exact fun listed => ⟨listed, Ne.symm own⟩
    · exact And.left

end Store

end TimedPublishing
