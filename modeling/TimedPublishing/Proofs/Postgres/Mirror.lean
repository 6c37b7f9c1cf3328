import TimedPublishing.Proofs.Postgres.Parameters
import TimedPublishing.Proofs.Postgres.Replies
import TimedPublishing.Proofs.Store.Listing

/-!
# A table that holds the jobs of a store

A table mirrors a store if its rows are those of the jobs in the store, in some order. What a
statement selects from such a table are rows of jobs, and its condition is a test of the jobs; what
it leaves is again a list of rows of jobs, if the schema allows it. The schema never objects to the
row of a job by itself. It objects to a list of them exactly if two have one name or one intent, and
of a list that some store holds no two have.

So each kind of statement is read here once as what it does to a list of jobs. Values are sent as
they are if the database can hold them exactly.
-/

namespace TimedPublishing.Postgres

open Store (Lists)

/-- The database takes a value and keeps it as it is: an instant in whole microseconds that its
calendar has, a text without the character zero. -/
def Value.Exact : Value → Prop
  | .time instant => inMicroseconds instant = instant ∧ earliestKept ≤ instant.nanos
  | .text words => '\x00' ∉ words.toList
  | _ => True

instance : (value : Value) → Decidable value.Exact
  | .time _ => inferInstanceAs (Decidable (_ ∧ _))
  | .text _ => inferInstanceAs (Decidable (¬ _))
  | .null | .uuid _ | .integer _ | .texts _ => inferInstanceAs (Decidable True)

namespace Value.Exact

variable {value : Value}

/-- A value that is kept as it is is sent as it is. -/
theorem sent (exact : value.Exact) : value.sent = value := by
  cases value with
  | time instant => exact congrArg Value.time exact.1
  | _ => rfl

/-- A value that is kept as it is is not refused. -/
theorem accepted (exact : value.Exact) : value.refusal? = none := by
  cases value with
  | time instant => exact if_neg (Int.not_lt.mpr exact.2)
  | text words =>
    refine if_neg ?_
    rw [List.contains_iff_mem]
    exact exact
  | _ => rfl

end Value.Exact

/-- A request whose values are kept as they are is answered from what its statement does. -/
theorem request_eq {call : StoreCall} {asked : Query} (asks : query call = .ok asked)
    (exact : ∀ value ∈ asked.parameters, value.Exact) (table : Rows) :
    table.request call =
      (interpret call (table.run asked.parameters asked.statement).1,
        (table.run asked.parameters asked.statement).2) := by
  have same : asked.parameters.map Value.sent = asked.parameters :=
    (List.map_congr_left fun value member => (exact value member).sent).trans (List.map_id _)
  have accepted : asked.parameters.findSome? Value.refusal? = none :=
    List.findSome?_eq_none_iff.mpr fun value member => (exact value member).accepted
  unfold Rows.request Rows.send
  rw [asks]
  simp only [same, accepted]

/-- The rows of a table are those of the jobs in a store, in some order. -/
def Mirrors (table : Rows) (store : Store) : Prop :=
  ∃ jobs : List Job, jobs.Perm store.rows.values ∧ table = jobs.map Row.ofJob

/-- A table mirrors a store exactly if its rows are those of a list of the store's jobs. -/
theorem mirrors_iff {table : Rows} {store : Store} (named : store.Named) :
    Mirrors table store ↔ ∃ jobs, Lists jobs store ∧ table = jobs.map Row.ofJob := by
  simp only [Mirrors, Lists.iff_perm named]

section Replies

variable {name : String} {found : List Job}

/-- Rows of jobs are read as the jobs. -/
theorem jobs_ofJob (named : ∀ job ∈ found, job.toRow.Named) :
    jobs name (found.map Row.ofJob) = .ok found := by
  rw [jobs_eq_ok, List.forall₂_map_left_iff]
  exact List.forall₂_same.mpr fun job member => Row.decodes_ofJob (named job member)

/-- Of rows of jobs the first job is read. -/
theorem job?_ofJob (named : ∀ job ∈ found, job.toRow.Named) :
    job? name (found.map Row.ofJob) = .ok found.head? := by
  have namedFirst : ∀ job ∈ found.take 1, job.toRow.Named :=
    fun job member => named job (List.mem_of_mem_take member)
  rw [job?_eq, ← List.map_take, jobs_ofJob namedFirst]
  cases found <;> rfl

end Replies

section Selection

variable {condition : Condition} {parameters : List Value} {test : Job → Bool} {jobs : List Job}

/-- The rows that a condition selects are those of the jobs that pass its test. -/
theorem filter_ofJob
    (means : ∀ job, condition.Holds ⟨Row.ofJob job, none, parameters⟩ ↔ test job = true) :
    ((jobs.map Row.ofJob).filter fun row => decide (condition.Holds ⟨row, none, parameters⟩)) =
      (jobs.filter test).map Row.ofJob := by
  rw [List.filter_map]
  refine congrArg (List.map Row.ofJob) (List.filter_congr fun job _ => ?_)
  rw [Bool.eq_iff_iff, Function.comp_apply, decide_eq_true_iff, means]

/-- A selection in order gives the jobs in the order of listings. -/
theorem run_selectInOrder
    (means : ∀ job, condition.Holds ⟨Row.ofJob job, none, parameters⟩ ↔ test job = true)
    (limit : Option Nat) :
    Rows.run (jobs.map Row.ofJob) parameters (.selectInOrder condition limit) =
      (.rows (Rows.limited ((inListingOrder (jobs.filter test)).map Row.ofJob) parameters limit),
        jobs.map Row.ofJob) := by
  have sorted : ((jobs.filter test).map Row.ofJob).mergeSort Row.precedes =
      (inListingOrder (jobs.filter test)).map Row.ofJob := by
    refine (List.map_mergeSort ?_).symm
    exact fun left _ right _ => rfl
  rw [Rows.run, filter_ofJob means, sorted]

/-- The rows of a count are the numbers of jobs in the statuses that there are. -/
theorem countsByStatus_ofJob (jobs : List Job) :
    Rows.countsByStatus (jobs.map Row.ofJob) = (jobs.map Job.status).dedup.map fun status =>
      ⟨.text status.text, .integer (jobs.countP fun job => job.status = status)⟩ := by
  have words : (jobs.map Row.ofJob).map (fun row => row .status) =
      (jobs.map Job.status).map fun status => .text status.text := by
    simp [Row.ofJob]
  have apart : Function.Injective fun status : JobStatus => Value.text status.text :=
    fun _ _ same => JobStatus.text_injective (Value.text.inj same)
  rw [Rows.countsByStatus, words, List.dedup_map_of_injective apart, List.map_map]
  refine List.map_congr_left fun status _ => ?_
  have number : (jobs.map Row.ofJob).countP (fun row => row .status = .text status.text) =
      jobs.countP fun job => job.status = status := by
    rw [List.countP_map]
    refine List.countP_congr fun job _ => ?_
    have sameWord : Value.text job.status.text = .text status.text ↔ job.status = status :=
      apart.eq_iff
    simpa [Row.ofJob] using sameWord
  rw [Function.comp_apply, number]

/-- The rows of a count are read as the numbers of jobs in the statuses that there are. -/
theorem mapM_countsByStatus {name : String} :
    (Rows.countsByStatus (jobs.map Row.ofJob)).mapM (StatusCount.read name) =
      .ok ((jobs.map Job.status).dedup.map fun status =>
        (status, jobs.countP fun job => job.status = status)) := by
  rw [countsByStatus_ofJob, mapM_eq_ok, List.forall₂_map_left_iff, List.forall₂_map_right_iff]
  refine List.forall₂_same.mpr fun status _ => ?_
  rw [StatusCount.read_of_readable, JobStatus.read_eq_ok.mpr rfl]
  rfl

end Selection

section Schema

/-- The schema has a place for the row of any job. -/
theorem violation?_ofJob (job : Job) : (Row.ofJob job).violation? = none := by
  have present : (Column.all.any fun column =>
      !column.nullable && Row.ofJob job column == .null) = false := rfl
  have checked : (Row.ofJob job).passesChecks = true := by
    have known : (JobStatus.all.any fun status =>
        decide (Row.ofJob job .status = .text status.text)) = true :=
      List.any_eq_true.mpr ⟨job.status, by cases job.status <;> decide, by simp [Row.ofJob]⟩
    have counted : (Row.ofJob job .attempts).isNatural = true := by
      simp [Row.ofJob, Value.isNatural]
    have owned : ((Row.ofJob job .status = .text JobStatus.running.text) ==
        (Row.ofJob job .claimedBy ≠ .null)) = true := by
      obtain ⟨id, content, publishAt, state, rest⟩ := job
      cases state <;> rfl
    have waits : (Row.ofJob job .status ≠ .text JobStatus.retryWait.text ||
        Row.ofJob job .nextRetryAt ≠ .null) = true := by
      obtain ⟨id, content, publishAt, state, rest⟩ := job
      cases state <;> rfl
    simp only [Row.passesChecks, known, counted, owned, waits, Bool.and_self]
  unfold Row.violation?
  rw [present, checked]
  rfl

/-- Rows of jobs are told apart exactly if the jobs are, by their names and by their intents. -/
theorem distinct_ofJob (jobs : List Job) :
    Rows.Distinct (jobs.map Row.ofJob) ↔ (jobs.map Job.id).Nodup ∧ (jobs.map Job.key).Nodup := by
  have names : (jobs.map Row.ofJob).map (fun row => row .id) = (jobs.map Job.id).map .uuid := by
    simp [Row.ofJob]
  have keys : (jobs.map Row.ofJob).map (fun row => (row .content, row .publishAt)) =
      (jobs.map Job.key).map fun key => (.text key.content.text, .time key.publishAt) := by
    simp [Row.ofJob, Job.key]
  have apart : Function.Injective fun key : JobKey =>
      (Value.text key.content.text, Value.time key.publishAt) := by
    rintro ⟨⟨content⟩, publishAt⟩ ⟨⟨content'⟩, publishAt'⟩ same
    simpa using same
  rw [Rows.Distinct, names, keys, List.nodup_map_iff fun _ _ => Value.uuid.inj,
    List.nodup_map_iff apart]

variable {jobs changed written : List Job} {table : Rows} {next : Store}

/-- What a store holds, the schema allows. -/
theorem commit_of_lists (lists : Lists changed next) (indexed : next.Indexed) :
    table.commit (changed.map Row.ofJob) (written.map Row.ofJob) =
      (.rows (written.map Row.ofJob), changed.map Row.ofJob) := by
  have allowed : (written.map Row.ofJob).findSome? Row.violation? = none := by
    simp [violation?_ofJob]
  unfold Rows.commit
  rw [allowed]
  exact if_pos ((distinct_ofJob changed).mpr ⟨lists.names, lists.keys indexed⟩)

/-- Two jobs with one intent are not allowed. -/
theorem commit_of_shared {left right : Job} (inLeft : left ∈ changed) (inRight : right ∈ changed)
    (sameKey : left.key = right.key) (different : left ≠ right) :
    ∃ message, table.commit (changed.map Row.ofJob) (written.map Row.ofJob) =
      (.failure (.database uniqueViolation message), table) := by
  have allowed : (written.map Row.ofJob).findSome? Row.violation? = none := by
    simp [violation?_ofJob]
  have shared : ¬ Rows.Distinct (changed.map Row.ofJob) := by
    rw [distinct_ofJob]
    exact fun distinct =>
      different (List.inj_on_of_nodup_map distinct.2 inLeft inRight sameKey)
  unfold Rows.commit
  rw [allowed]
  exact ⟨_, if_neg shared⟩

end Schema

section ByName

variable {jobs : List Job} {store : Store} {condition : Condition} {parameters : List Value}
  {assignments : List Assignment} {id : JobId} {test : Job → Bool} {stored version : Job}

/-- A statement that picks a job by its name and by a test changes nothing where that job does not
pass. -/
theorem run_update_none (assignments : List Assignment) (lists : Lists jobs store)
    (indexed : store.Indexed)
    (means : ∀ job, condition.Holds ⟨Row.ofJob job, none, parameters⟩ ↔
      (decide (job.id = id) && test job) = true)
    (fails : (store.find id).filter test = none) :
    Rows.run (jobs.map Row.ofJob) parameters (.update assignments condition) =
      (.rows [], jobs.map Row.ofJob) := by
  have nobody : (jobs.filter fun job => decide (job.id = id) && test job) = [] := by
    rw [lists.filter_name, fails]
    rfl
  have kept : ((jobs.map Row.ofJob).map fun row =>
      if decide (condition.Holds ⟨row, none, parameters⟩) then
        Row.assigned assignments ⟨row, none, parameters⟩
      else row) = jobs.map Row.ofJob := by
    rw [List.map_map]
    refine List.map_congr_left fun job member => if_neg ?_
    rw [decide_eq_true_iff, means]
    exact List.filter_eq_nil_iff.mp nobody job member
  rw [Rows.run, filter_ofJob means, nobody, kept]
  exact @commit_of_lists jobs [] (jobs.map Row.ofJob) store lists indexed

/-- A statement that picks a job by its name and by a test puts another version in its place where
it passes. -/
theorem run_update_some (lists : Lists jobs store)
    (means : ∀ job, condition.Holds ⟨Row.ofJob job, none, parameters⟩ ↔
      (decide (job.id = id) && test job) = true)
    (found : store.find id = some stored) (passes : test stored = true)
    (becomes : Row.assigned assignments ⟨Row.ofJob stored, none, parameters⟩ = Row.ofJob version)
    (sameId : version.id = id) :
    Rows.run (jobs.map Row.ofJob) parameters (.update assignments condition) =
      Rows.commit (jobs.map Row.ofJob) ((Store.replaced jobs version).map Row.ofJob)
        ([version].map Row.ofJob) := by
  have one : (jobs.filter fun job => decide (job.id = id) && test job) = [stored] := by
    rw [lists.filter_name, found, Option.filter_some, if_pos passes]
    rfl
  have changed : ((jobs.map Row.ofJob).map fun row =>
      if decide (condition.Holds ⟨row, none, parameters⟩) then
        Row.assigned assignments ⟨row, none, parameters⟩
      else row) = (Store.replaced jobs version).map Row.ofJob := by
    rw [Store.replaced, List.map_map, List.map_map]
    refine List.map_congr_left fun job member => ?_
    rw [Function.comp_apply, Function.comp_apply, sameId]
    by_cases own : job.id = id
    · have listed : store.find id = some job := (lists.found id job).mpr ⟨member, own⟩
      obtain rfl : job = stored := Option.some.inj (listed.symm.trans found)
      have selected := (means job).mpr (by simp [own, passes])
      rw [if_pos (decide_eq_true selected), if_pos own, becomes]
    · have ignored : ¬ condition.Holds ⟨Row.ofJob job, none, parameters⟩ := by
        simp [means, own]
      rw [if_neg (by simpa using ignored), if_neg own]
  rw [Rows.run, filter_ofJob means, one, changed]
  exact congrArg (fun row => Rows.commit _ _ [row]) becomes

/-- A statement that removes a job that it picks by its name and by a test removes it where it
passes, and says how many rows there were. -/
theorem run_delete (lists : Lists jobs store)
    (means : ∀ job, condition.Holds ⟨Row.ofJob job, none, parameters⟩ ↔
      (decide (job.id = id) && test job) = true) :
    Rows.run (jobs.map Row.ofJob) parameters (.delete condition) =
      (.affected ((store.find id).filter test).toList.length,
        (jobs.filter fun job => !(decide (job.id = id) && test job)).map Row.ofJob) := by
  have counted : (jobs.map Row.ofJob).countP
      (fun row => decide (condition.Holds ⟨row, none, parameters⟩)) =
        ((store.find id).filter test).toList.length := by
    rw [List.countP_eq_length_filter, filter_ofJob means, lists.filter_name, List.length_map]
  have kept : ((jobs.map Row.ofJob).filter fun row =>
      !decide (condition.Holds ⟨row, none, parameters⟩)) =
        (jobs.filter fun job => !(decide (job.id = id) && test job)).map Row.ofJob := by
    rw [List.filter_map]
    refine congrArg (List.map Row.ofJob) (List.filter_congr fun job _ => ?_)
    rw [Function.comp_apply, Bool.eq_iff_iff, Bool.not_eq_true', Bool.not_eq_true',
      decide_eq_false_iff_not, means, Bool.not_eq_true]
  rw [Rows.run, counted, kept]

end ByName

section Insertion

variable {jobs : List Job} {store : Store} {job stored : Job}

/-- A row of a name is looked for as the job of that name is. -/
theorem find?_ofJob (lists : Lists jobs store) :
    ((jobs.map Row.ofJob).find? fun row => decide (row .id = Row.ofJob job .id)) =
      (store.find job.id).map Row.ofJob := by
  rw [List.find?_map, ← lists.find?_name job.id]
  refine congrArg (Option.map Row.ofJob) (congrArg (List.find? · jobs) ?_)
  funext other
  simp [Row.ofJob]

/-- A stored row that is replaced by the row of a job becomes that row, if the two jobs were made at
the same time. -/
theorem assigned_proposed (sameId : stored.id = job.id) (made : stored.createdAt = job.createdAt)
    (parameters : List Value) :
    Row.assigned saveAssignments ⟨Row.ofJob stored, some (Row.ofJob job), parameters⟩ =
      Row.ofJob job := by
  funext column
  cases column with
  | id => exact congrArg Value.uuid sameId
  | createdAt => exact congrArg Value.time made
  | _ => rfl

/-- A job of a new name is inserted. -/
theorem run_save_absent (lists : Lists jobs store) (absent : store.find job.id = none) :
    Rows.run (jobs.map Row.ofJob) (saveParameters job) saveStatement =
      Rows.commit (jobs.map Row.ofJob) ((job :: jobs).map Row.ofJob) ([job].map Row.ofJob) := by
  rw [saveStatement, Rows.run, Row.ofParameters_saveParameters, violation?_ofJob, find?_ofJob lists,
    absent]
  rfl

/-- A job that has ended stays as it is. -/
theorem run_save_ended (lists : Lists jobs store) (found : store.find job.id = some stored)
    (ended : stored.status.isTerminal = true) :
    Rows.run (jobs.map Row.ofJob) (saveParameters job) saveStatement =
      (.rows [], jobs.map Row.ofJob) := by
  rw [saveStatement, Rows.run, Row.ofParameters_saveParameters, violation?_ofJob, find?_ofJob lists,
    found]
  refine if_neg ?_
  rw [(Row.shows_ofJob stored).holds_unended, ended]
  exact Bool.noConfusion

/-- A job that has not ended is replaced. -/
theorem run_save_present (lists : Lists jobs store) (found : store.find job.id = some stored)
    (unended : stored.status.isTerminal = false) (made : stored.createdAt = job.createdAt) :
    Rows.run (jobs.map Row.ofJob) (saveParameters job) saveStatement =
      Rows.commit (jobs.map Row.ofJob) ((Store.replaced jobs job).map Row.ofJob)
        ([job].map Row.ofJob) := by
  have sameId : stored.id = job.id := lists.named job.id stored found
  have changed : (jobs.map Row.ofJob).map (fun row =>
      if row .id = Row.ofJob job .id then Row.ofJob job else row) =
        (Store.replaced jobs job).map Row.ofJob := by
    rw [Store.replaced, List.map_map, List.map_map]
    refine List.map_congr_left fun other _ => ?_
    by_cases own : other.id = job.id <;> simp [Row.ofJob, own]
  rw [saveStatement, Rows.run, Row.ofParameters_saveParameters, violation?_ofJob, find?_ofJob lists,
    found]
  refine (if_pos ((Row.shows_ofJob stored).holds_unended.mpr unended)).trans ?_
  simp only [assigned_proposed sameId made]
  rw [changed]
  rfl

end Insertion

end TimedPublishing.Postgres
