import Mathlib.Data.Set.List
import TimedPublishing.Postgres.Reply
import TimedPublishing.Proofs.Postgres.Decoding

/-!
# What the replies of the database are taken for

A reply may be anything: rows with any values, a count, or a failure. What a request makes of it is
one of a few things. It answers with jobs, and these are what the rows decode to, each in its place.
It reports a corrupt record, and that is the first row that is none. It reports an intent that is
taken, a job that has ended, or a failure of the store. Which of them it is depends on the reply
alone, so no wrong reply passes for a right one.

The columns of all rows are read before the first row is decoded, so a column that cannot be read
hides a corrupt row before it. Rows of the count by status are taken one by one instead.
-/

namespace TimedPublishing

namespace Postgres

namespace Row

/-- The columns of a row can be read: each holds a value of its kind, or none where none is
needed. -/
def Readable (row : Row) : Prop := ∃ fields : Fields, row = ofFields fields

/-- The columns of a row can be read, but their values are no job. -/
def Corrupt (row : Row) (fault : JobError) : Prop :=
  ∃ fields : Fields, row = ofFields fields ∧ fields.Fault fault

/-- The column of attempts holds no more than its 32 bits allow. -/
def Narrow (row : Row) : Prop :=
  ∀ number, row .attempts = .integer number → number ≤ maxAttemptsColumn

/-- Values that a row holds are those that are read. -/
theorem fields_ofFields (fields : Fields) : (ofFields fields).fields = .ok fields :=
  fields_eq_ok.mpr rfl

/-- A row decodes to what its values describe. -/
theorem decodes_ofFields {fields : Fields} {job : Job} :
    (ofFields fields).Decodes job ↔ fields.toJob? = .ok job := by
  simp [Decodes, fields_ofFields]

/-- The values that a row holds are no other ones. -/
theorem ofFields_injective {left right : Fields} (same : ofFields left = ofFields right) :
    left = right :=
  Except.ok.inj ((fields_ofFields left).symm.trans (same ▸ fields_ofFields right))

/-- A row is corrupt as its values are. -/
theorem corrupt_ofFields {fields : Fields} {fault : JobError} :
    (ofFields fields).Corrupt fault ↔ fields.Fault fault := by
  constructor
  · rintro ⟨others, same, found⟩
    exact ofFields_injective same ▸ found
  · exact fun found => ⟨fields, rfl, found⟩

/-- A row that decodes can be read. -/
theorem Decodes.readable {row : Row} {job : Job} (decodes : row.Decodes job) : row.Readable := by
  obtain ⟨fields, read, _⟩ := decodes
  exact ⟨fields, fields_eq_ok.mp read⟩

/-- A row that decodes has the names that a job has to have. -/
theorem Decodes.named {row : Row} {job : Job} (decodes : row.Decodes job) : job.toRow.Named := by
  obtain ⟨flat, _, named, rebuilt⟩ := decodes_iff.mp decodes
  have same : job.toRow = flat.cleared := (JobRow.toJob?_eq_ok rebuilt).2
  exact same ▸ ⟨named.content, named.owner⟩

end Row

/-- Rows can all be read, and are then given by what they hold, or there is one that cannot. -/
theorem readable_or_not (rows : List Row) :
    (∃ read : List Fields, rows = read.map Row.ofFields) ∨ ∃ row ∈ rows, ¬ row.Readable := by
  by_cases unreadable : ∃ row ∈ rows, ¬ row.Readable
  · exact Or.inr unreadable
  · have inRange : rows ∈ Set.range (List.map Row.ofFields) := by
      rw [Set.range_list_map]
      intro row member
      obtain ⟨fields, same⟩ := not_not.mp fun none => unreadable ⟨row, member, none⟩
      exact ⟨fields, same.symm⟩
    obtain ⟨read, same⟩ := inRange
    exact Or.inl ⟨read, same.symm⟩

/-- The errors that rows can be the cause of. -/
def ofRows : StoreError → Prop
  | .corrupt _ | .storage _ => True
  | .duplicateKey _ | .terminal _ => False

/-- The errors that a failure of the database is reported as. -/
def ofFailure : StoreError → Prop
  | .duplicateKey _ | .storage _ => True
  | .corrupt _ | .terminal _ => False

variable {name : String} {rows : List Row}

/-- Rows that can be read are rebuilt one after the other. -/
theorem jobs_ofFields (read : List Fields) :
    jobs name (read.map Row.ofFields) = read.mapM Fields.toJob? := by
  have found : (read.map Row.ofFields).mapM Row.fields = .ok read := by
    rw [mapM_eq_ok, List.forall₂_map_left_iff]
    exact List.forall₂_same.mpr fun fields _ => Row.fields_ofFields fields
  unfold jobs
  rw [found]
  rfl

/-- A row that cannot be read is a failure of the database. -/
theorem jobs_of_unreadable {row : Row} (member : row ∈ rows) (unreadable : ¬ row.Readable) :
    ∃ detail, jobs name rows = .error (.storage detail) := by
  unfold jobs
  cases outcome : rows.mapM Row.fields with
  | error fault => exact ⟨_, rfl⟩
  | ok read =>
    obtain ⟨fields, _, isRead⟩ := exists_of_forall₂ (mapM_eq_ok.mp outcome) member
    exact absurd ⟨fields, Row.fields_eq_ok.mp isRead⟩ unreadable

/-- Jobs are found exactly where the rows decode to them, one by one. -/
theorem jobs_eq_ok {found : List Job} :
    jobs name rows = .ok found ↔ List.Forall₂ Row.Decodes rows found := by
  rcases readable_or_not rows with ⟨read, rfl⟩ | ⟨row, member, unreadable⟩
  · rw [jobs_ofFields, mapM_eq_ok, List.forall₂_map_left_iff]
    simp only [Row.decodes_ofFields]
  · obtain ⟨detail, failed⟩ := @jobs_of_unreadable name rows row member unreadable
    constructor
    · intro found
      cases failed.symm.trans found
    · intro decode
      obtain ⟨job, _, decodes⟩ := exists_of_forall₂ decode member
      exact absurd decodes.readable unreadable

/-- A row is reported as corrupt exactly if all rows can be read and it is the first that is no
job. -/
theorem jobs_eq_corrupt (narrow : ∀ row ∈ rows, row.Narrow) {fault : JobError} :
    jobs name rows = .error (.corrupt fault) ↔
      (∀ row ∈ rows, row.Readable) ∧
        FirstBad (fun row => ∃ job, row.Decodes job) (fun row => row.Corrupt fault) rows := by
  rcases readable_or_not rows with ⟨read, rfl⟩ | ⟨row, member, unreadable⟩
  · rw [List.forall_mem_map] at narrow ⊢
    have readable : ∀ fields ∈ read, (Row.ofFields fields).Readable := fun fields _ => ⟨fields, rfl⟩
    have reported : ∀ fields ∈ read,
        fields.toJob? = .error (.corrupt fault) ↔ fields.Fault fault := by
      intro fields member
      rw [Fields.toJob?_eq_error (narrow fields member fields.attempts rfl)]
      simp
    rw [and_iff_right readable, jobs_ofFields, mapM_eq_error, firstBad_map,
      firstBad_congr reported]
    simp only [Row.decodes_ofFields, Row.corrupt_ofFields]
  · obtain ⟨detail, failed⟩ := @jobs_of_unreadable name rows row member unreadable
    constructor
    · intro found
      cases failed.symm.trans found
    · exact fun found => absurd (found.1 row member) unreadable

/-- Values that are no job are a corrupt record. -/
theorem corrupt_of_mapM_toJob? {read : List Fields} {cause : StoreError}
    (failed : read.mapM Fields.toJob? = .error cause) : ∃ fault, cause = .corrupt fault := by
  obtain ⟨fields, _, refused⟩ := (mapM_eq_error.mp failed).exists_bad
  obtain ⟨fault, _, wording⟩ := mapError_eq_error.mp refused
  exact ⟨fault, wording⟩

/-- Rows that give no jobs are a corrupt record or a failure of the database. -/
theorem jobs_ofRows {cause : StoreError} (failed : jobs name rows = .error cause) :
    ofRows cause := by
  rcases bind_eq_error.mp failed with notRead | ⟨read, _, notRebuilt⟩
  · obtain ⟨fault, _, rfl⟩ := mapError_eq_error.mp notRead
    exact trivial
  · obtain ⟨fault, rfl⟩ := corrupt_of_mapM_toJob? notRebuilt
    exact trivial

/-- Rows are a failure of the database exactly if one of them cannot be read. -/
theorem jobs_eq_storage :
    (∃ detail, jobs name rows = .error (.storage detail)) ↔
      ∃ row ∈ rows, ¬ row.Readable := by
  constructor
  · rintro ⟨detail, failed⟩
    rcases readable_or_not rows with ⟨read, rfl⟩ | unreadable
    · rw [jobs_ofFields] at failed
      obtain ⟨fault, impossible⟩ := corrupt_of_mapM_toJob? failed
      cases impossible
    · exact unreadable
  · rintro ⟨row, member, unreadable⟩
    exact jobs_of_unreadable member unreadable

namespace StatusCount

/-- Read a row of the count. A negative number counts for nothing. -/
def read (name : String) (row : StatusCount) : Except StoreError (JobStatus × Nat) := do
  let word ← (row.status.required "status" Value.toText?).mapError (unreadable name)
  let count ← (row.count.required "count" Value.toInt?).mapError (unreadable name)
  let status ← (JobStatus.read word).mapError .corrupt
  return (status, count.toNat)

/-- The columns of a row of the count can be read. -/
def Readable (row : StatusCount) : Prop := ∃ word number, row = ⟨.text word, .integer number⟩

/-- A row of the count has a number for one of the statuses. -/
def Counts (row : StatusCount) : Prop :=
  ∃ (status : JobStatus) (number : Int), row = ⟨.text status.text, .integer number⟩

/-- A row of the count has a number for a status that there is not. -/
def Corrupt (row : StatusCount) (fault : JobError) : Prop :=
  ∃ word number, row = ⟨.text word, .integer number⟩ ∧ (∀ status : JobStatus, word ≠ status.text) ∧
    fault = .corruptRecord (.unknownStatus word)

variable {row : StatusCount}

/-- Counting the jobs of a row is reading it and counting afterwards. -/
theorem recordCount_eq (tally : Tally) (row : StatusCount) :
    recordCount name tally row =
      (row.read name).map fun counted => tally.record counted.1 counted.2 := by
  unfold recordCount read
  cases row.status.required "status" Value.toText? with
  | error fault => rfl
  | ok word =>
    cases row.count.required "count" Value.toInt? with
    | error fault => rfl
    | ok count =>
      change ((JobStatus.read word).mapError StoreError.corrupt >>= fun status =>
          pure (tally.record status count.toNat)) =
        Except.map _ ((JobStatus.read word).mapError StoreError.corrupt >>= fun status =>
          pure (status, count.toNat))
      cases JobStatus.read word <;> rfl

/-- A row that can be read has the status of its word, if there is one. -/
theorem read_of_readable {word : String} {number : Int} :
    read name ⟨.text word, .integer number⟩ =
      ((JobStatus.read word).mapError .corrupt).map fun status => (status, number.toNat) := by
  change ((JobStatus.read word).mapError StoreError.corrupt >>= fun status =>
    pure (status, number.toNat)) = _
  cases JobStatus.read word <;> rfl

/-- A row that cannot be read is a failure of the database. -/
theorem read_of_unreadable (missing : ¬ row.Readable) :
    ∃ detail, row.read name = .error (.storage detail) := by
  unfold read
  cases word : row.status.required "status" Value.toText? with
  | error fault => exact ⟨_, rfl⟩
  | ok found =>
    cases number : row.count.required "count" Value.toInt? with
    | error fault => exact ⟨_, rfl⟩
    | ok count =>
      have isText : row.status = .text found := reads_text.required.mp word
      have isNumber : row.count = .integer count := reads_integer.required.mp number
      exact absurd ⟨found, count, by rw [← isText, ← isNumber]⟩ missing

/-- A row of the count is read exactly if it has a number for one of the statuses. -/
theorem exists_read_eq_ok : (∃ counted, row.read name = .ok counted) ↔ row.Counts := by
  by_cases readable : row.Readable
  · obtain ⟨word, number, rfl⟩ := readable
    have known : (∃ counted, read name ⟨.text word, .integer number⟩ = .ok counted) ↔
        ∃ status, JobStatus.read word = .ok status := by
      rw [read_of_readable]
      cases JobStatus.read word <;> simp [Except.map, Except.mapError]
    rw [known]
    simp [JobStatus.read_eq_ok, Counts]
  · obtain ⟨detail, failed⟩ := @read_of_unreadable name row readable
    have uncounted : ¬ row.Counts := fun ⟨status, number, same⟩ => readable ⟨_, number, same⟩
    simp [failed, uncounted]

/-- A row of the count is corrupt exactly if its word is that of no status. -/
theorem read_eq_corrupt {fault : JobError} :
    row.read name = .error (.corrupt fault) ↔ row.Corrupt fault := by
  by_cases readable : row.Readable
  · obtain ⟨word, number, rfl⟩ := readable
    have unknown : read name ⟨.text word, .integer number⟩ = .error (.corrupt fault) ↔
        JobStatus.read word = .error fault := by
      rw [read_of_readable]
      cases JobStatus.read word <;> simp [Except.map, Except.mapError]
    rw [unknown]
    simp [JobStatus.read_eq_error, Corrupt]
  · obtain ⟨detail, failed⟩ := @read_of_unreadable name row readable
    have named : ¬ row.Corrupt fault := fun ⟨word, number, same, _⟩ => readable ⟨word, number, same⟩
    simp [failed, named]

/-- A row of the count that is not read is corrupt or cannot be read. -/
theorem read_error_cases {cause : StoreError} (failed : row.read name = .error cause) :
    (∃ fault, cause = .corrupt fault) ∨ ¬ row.Readable ∧ ∃ detail, cause = .storage detail := by
  by_cases readable : row.Readable
  · obtain ⟨word, number, rfl⟩ := readable
    rw [read_of_readable] at failed
    cases outcome : JobStatus.read word with
    | ok status => simp [outcome, Except.map, Except.mapError] at failed
    | error fault =>
      refine Or.inl ⟨fault, ?_⟩
      simpa [outcome, Except.map, Except.mapError, eq_comm] using failed
  · obtain ⟨detail, noted⟩ := @read_of_unreadable name row readable
    exact Or.inr ⟨readable, detail, Except.error.inj (failed.symm.trans noted)⟩

/-- A row of the count is a failure of the database exactly if it cannot be read. -/
theorem exists_read_eq_storage :
    (∃ detail, row.read name = .error (.storage detail)) ↔ ¬ row.Readable := by
  constructor
  · rintro ⟨detail, failed⟩
    rcases read_error_cases failed with ⟨fault, impossible⟩ | ⟨missing, _⟩
    · cases impossible
    · exact missing
  · exact read_of_unreadable

variable {counts : List StatusCount}

/-- Counts are corrupt exactly if the first row that does not count has the word of no status. -/
theorem mapM_eq_corrupt {fault : JobError} :
    counts.mapM (read name) = .error (.corrupt fault) ↔
      FirstBad Counts (fun row => row.Corrupt fault) counts := by
  simp only [mapM_eq_error, exists_read_eq_ok, read_eq_corrupt]

/-- Counts are a failure of the database exactly if the first row that does not count cannot be
read. -/
theorem mapM_eq_storage :
    (∃ detail, counts.mapM (read name) = .error (.storage detail)) ↔
      FirstBad Counts (fun row => ¬ row.Readable) counts := by
  simp only [mapM_eq_error, exists_firstBad, exists_read_eq_ok, exists_read_eq_storage]

/-- Counts that give no tally are a corrupt record or a failure of the database. -/
theorem mapM_ofRows {cause : StoreError} (failed : counts.mapM (read name) = .error cause) :
    ofRows cause := by
  obtain ⟨row, _, notRead⟩ := (mapM_eq_error.mp failed).exists_bad
  rcases read_error_cases notRead with ⟨fault, rfl⟩ | ⟨_, detail, rfl⟩ <;> exact trivial

end StatusCount

/-- What a request makes of the jobs that the rows decode to. -/
def conclude (reply : Reply) : (call : StoreCall) → List Job → call.Reply
  | .findByKey _, found => .ok found.head?
  | .find _, found => .ok found.head?
  | .save job, found =>
    match found.head? with
    | some saved => .ok saved
    | none => .error (.terminal job.id)
  | .updateIfQueued _, found => .ok found.head?
  | .delete _, _ => .ok (decide (0 < reply.affectedRows))
  | .listDue _ _, found => .ok found
  | .claim _ _ _, found => .ok found.head?
  | .listRange _ _ _, found => .ok found
  | .tally, _ =>
    (reply.toCounts.mapM (StatusCount.read (Postgres.operation .tally))).map fun counts =>
      counts.foldl (fun tally count => tally.record count.1 count.2) Tally.zero

end Postgres

/-- The rows of a reply that a request decodes: all of a listing, and the first one where one job at
most is asked for. -/
def StoreCall.decoded (reply : Postgres.Reply) : StoreCall → List Postgres.Row
  | .listDue _ _ | .listRange _ _ _ => reply.toRows
  | .delete _ | .tally => []
  | _ => reply.toRows.take 1

/-- The rows of a reply that are counts. -/
def StoreCall.counted (reply : Postgres.Reply) : StoreCall → List Postgres.StatusCount
  | .tally => reply.toCounts
  | _ => []

/-- The jobs in an answer. -/
def StoreCall.jobsIn : (call : StoreCall) → call.Answer → List Job
  | .findByKey _, found => Option.toList found
  | .find _, found => Option.toList found
  | .save _, saved => [saved]
  | .updateIfQueued _, found => Option.toList found
  | .delete _, _ => []
  | .listDue _ _, found => found
  | .claim _ _ _, found => Option.toList found
  | .listRange _ _ _, found => found
  | .tally, _ => []

namespace Postgres

/-- Where one job is asked for at most, it is the first of the jobs that the first row gives. -/
theorem job?_eq (rows : List Row) :
    job? name rows = (jobs name (rows.take 1)).map List.head? := by
  cases rows with
  | nil => rfl
  | cons row rest =>
    change _ = Except.map List.head? (jobs name [row])
    cases read : row.fields with
    | error fault =>
      rw [job?, jobs, List.mapM_cons, read]
      rfl
    | ok fields =>
      obtain rfl := Row.fields_eq_ok.mp read
      have rebuilt : jobs name [Row.ofFields fields] = [fields].mapM Fields.toJob? :=
        jobs_ofFields [fields]
      rw [rebuilt, job?, List.mapM_cons, read]
      change (fields.toJob? >>= fun job => pure (some job)) = _
      cases fields.toJob? with
      | error cause => rfl
      | ok job => rfl

/-- The first of some jobs is concluded from once they are found. -/
theorem map_eq_bind {ε α β : Type} {outcome : Except ε α} (image : α → β) :
    outcome.map image = outcome >>= fun value => .ok (image value) := by
  cases outcome <;> rfl

/-- A reply without failure is decoded first and concluded from afterwards. -/
theorem answer_eq (call : StoreCall) (reply : Reply) :
    answer reply call = jobs (operation call) (call.decoded reply) >>= conclude reply call := by
  have first (name : String) := @job?_eq name reply.toRows
  cases call with
  | findByKey key => exact (first _).trans (map_eq_bind _)
  | find id => exact (first _).trans (map_eq_bind _)
  | save job =>
    change (job? _ reply.toRows >>= _) = _
    rw [first]
    change _ = jobs _ (reply.toRows.take 1) >>= _
    cases jobs (operation (.save job)) (reply.toRows.take 1) <;> rfl
  | updateIfQueued job => exact (first _).trans (map_eq_bind _)
  | delete id => rfl
  | listDue now limit => exact (bind_pure _).symm
  | claim id worker now => exact (first _).trans (map_eq_bind _)
  | listRange start stop statuses => exact (bind_pure _).symm
  | tally =>
    change reply.toCounts.foldlM (recordCount (operation .tally)) Tally.zero = _
    have counting : recordCount (operation .tally) = fun tally row =>
        (row.read (operation .tally)).map fun counted => tally.record counted.1 counted.2 := by
      funext tally row
      exact StatusCount.recordCount_eq tally row
    rw [counting, foldlM_map_eq]
    rfl


/-- Nothing is concluded from the jobs of a save that got no row, and from counts that cannot be
taken. -/
theorem conclude_eq_error {call : StoreCall} {reply : Reply} {found : List Job}
    {cause : StoreError} :
    conclude reply call found = .error cause ↔
      (∃ job, call = .save job ∧ found = [] ∧ cause = .terminal job.id) ∨
        (call.counted reply).mapM (StatusCount.read (operation call)) = .error cause := by
  cases call with
  | save job => cases found <;> simp [conclude, StoreCall.counted, pure, Except.pure, eq_comm]
  | tally =>
    change Except.map _ (reply.toCounts.mapM _) = _ ↔ _ ∨ reply.toCounts.mapM _ = _
    cases reply.toCounts.mapM (StatusCount.read (operation .tally)) <;> simp [Except.map]
  | _ => simp [conclude, StoreCall.counted, pure, Except.pure]

/-- A reply without failure is decoded and concluded from. -/
theorem interpret_of_succeeded {call : StoreCall} {reply : Reply}
    (succeeded : ¬ ∃ failure, reply = .failure failure) :
    interpret call reply = jobs (operation call) (call.decoded reply) >>= conclude reply call := by
  rw [← answer_eq]
  cases reply with
  | failure cause => exact absurd ⟨cause, rfl⟩ succeeded
  | _ => rfl

/-- A request fails because the database does, because of its rows or its counts, or because a save
got no row. -/
theorem interpret_eq_error {call : StoreCall} {reply : Reply} {cause : StoreError} :
    interpret call reply = .error cause ↔
      (∃ failure, reply = .failure failure ∧ failed call failure = cause) ∨
      jobs (operation call) (call.decoded reply) = .error cause ∨
      (∃ job, call = .save job ∧ (∀ failure, reply ≠ .failure failure) ∧ reply.toRows = [] ∧
        cause = .terminal job.id) ∨
      (call.counted reply).mapM (StatusCount.read (operation call)) = .error cause := by
  by_cases isFailure : ∃ failure, reply = .failure failure
  · obtain ⟨failure, rfl⟩ := isFailure
    have nothing : call.decoded (.failure failure) = [] := by cases call <;> rfl
    have none : call.counted (.failure failure) = [] := by cases call <;> rfl
    rw [nothing, none]
    simp [interpret, jobs, pure, Except.pure, Except.mapError, bind, Except.bind]
  · rw [interpret_of_succeeded isFailure, bind_eq_error]
    simp only [conclude_eq_error, jobs_eq_ok]
    constructor
    · rintro (notDecoded | ⟨found, decode, ⟨job, rfl, rfl, ended⟩ | notCounted⟩)
      · exact Or.inr (Or.inl notDecoded)
      · have noRow : reply.toRows.take 1 = [] := List.forall₂_nil_right_iff.mp decode
        have noRows : reply.toRows = [] := by simpa using noRow
        exact Or.inr (Or.inr (Or.inl ⟨job, rfl, not_exists.mp isFailure, noRows, ended⟩))
      · exact Or.inr (Or.inr (Or.inr notCounted))
    · rintro (⟨failure, same, _⟩ | notDecoded | ⟨job, rfl, _, noRows, ended⟩ | notCounted)
      · exact absurd ⟨failure, same⟩ isFailure
      · exact Or.inl notDecoded
      · have decode : List.Forall₂ Row.Decodes (reply.toRows.take 1) [] := by simp [noRows]
        exact Or.inr ⟨[], decode, Or.inl ⟨job, rfl, rfl, ended⟩⟩
      · -- Only the count by status counts, and it decodes no rows.
        cases call with
        | tally => exact Or.inr ⟨[], .nil, Or.inr notCounted⟩
        | _ => cases notCounted

/-- A failure of the database says that the intent of the job that a request writes is taken. -/
def Taken (call : StoreCall) (cause : Failure) (key : JobKey) : Prop :=
  (∃ job, (call = .save job ∨ call = .updateIfQueued job) ∧ key = job.key) ∧
    ∃ message, cause = .database "23505" message

/-- A failure in words is one of the store. -/
theorem Failure.toStoreError_eq (name : String) (cause : Failure) :
    ∃ detail, cause.toStoreError name = .storage detail := by
  cases cause <;> exact ⟨_, rfl⟩

section Failures

variable {call : StoreCall} {cause : Failure} {key : JobKey}

/-- The intent that can be taken is the one that the request writes. -/
theorem taken_iff : Taken call cause key ↔
    writtenKey? call = some key ∧ ∃ message, cause = .database uniqueViolation message := by
  refine and_congr_left fun _ => ?_
  cases call <;> simp [writtenKey?, eq_comm]

/-- An intent that is taken is reported. -/
theorem failed_of_taken (taken : Taken call cause key) : failed call cause = .duplicateKey key := by
  obtain ⟨wrote, message, rfl⟩ := taken_iff.mp taken
  unfold failed
  rw [wrote]
  exact if_pos rfl

/-- Every other failure is one of the store. -/
theorem failed_of_free (free : ¬ ∃ key, Taken call cause key) :
    ∃ detail, failed call cause = .storage detail := by
  unfold failed
  split
  · next code message key wrote =>
    have other : code ≠ uniqueViolation := by
      rintro rfl
      exact free ⟨key, taken_iff.mpr ⟨wrote, message, rfl⟩⟩
    exact ⟨_, if_neg other⟩
  · exact Failure.toStoreError_eq _ _

/-- A failure is reported as a taken intent exactly if it says so. -/
theorem failed_eq_duplicateKey : failed call cause = .duplicateKey key ↔ Taken call cause key := by
  constructor
  · intro reported
    by_cases taken : ∃ other, Taken call cause other
    · obtain ⟨other, isTaken⟩ := taken
      obtain rfl := StoreError.duplicateKey.inj ((failed_of_taken isTaken).symm.trans reported)
      exact isTaken
    · obtain ⟨detail, stored⟩ := failed_of_free taken
      cases stored.symm.trans reported
  · exact failed_of_taken

/-- A failure is one of the store exactly if it does not say that an intent is taken. -/
theorem exists_failed_eq_storage :
    (∃ detail, failed call cause = .storage detail) ↔ ¬ ∃ key, Taken call cause key := by
  constructor
  · rintro ⟨detail, stored⟩ ⟨key, taken⟩
    cases stored.symm.trans (failed_of_taken taken)
  · exact failed_of_free

/-- A failure is a taken intent or one of the store, and nothing else. -/
theorem failed_ofFailure {error : StoreError} (reported : failed call cause = error) :
    ofFailure error := by
  subst reported
  by_cases taken : ∃ key, Taken call cause key
  · obtain ⟨key, isTaken⟩ := taken
    rw [failed_of_taken isTaken]
    exact trivial
  · obtain ⟨detail, stored⟩ := failed_of_free taken
    rw [stored]
    exact trivial

end Failures

/-- A reply is taken for what it is. -/
structure Classified (call : StoreCall) (reply : Reply) : Prop where
  /-- Jobs are what the rows decode to, each row in its place. -/
  decodes : ∀ answer, interpret call reply = .ok answer →
    List.Forall₂ Row.Decodes (call.decoded reply) (call.jobsIn answer)
  /-- The jobs have names, and an owner exactly while they run. -/
  wellFormed : ∀ answer, interpret call reply = .ok answer → ∀ job ∈ call.jobsIn answer,
    job.toRow.Named ∧ (job.claimedBy.isSome = true ↔ job.status = .running)
  /-- The first row that is no job is reported, once all rows can be read. So is the first count of
  a status that there is not. -/
  corrupt : ∀ fault, interpret call reply = .error (.corrupt fault) ↔
    ((∀ row ∈ call.decoded reply, row.Readable) ∧
      FirstBad (fun row => ∃ job, row.Decodes job) (fun row => row.Corrupt fault)
        (call.decoded reply)) ∨
    FirstBad StatusCount.Counts (fun row => row.Corrupt fault) (call.counted reply)
  /-- An intent is taken if the code of the failure says so of a job that is written. -/
  duplicateKey : ∀ key, interpret call reply = .error (.duplicateKey key) ↔
    ∃ cause, reply = .failure cause ∧ Taken call cause key
  /-- A job has ended if saving it returns no row. -/
  terminal : ∀ id, interpret call reply = .error (.terminal id) ↔
    ∃ job, call = .save job ∧ (∀ cause, reply ≠ .failure cause) ∧ reply.toRows = [] ∧ id = job.id
  /-- All else is a failure of the store: another failure of the database, a row that cannot be
  read, or a count that cannot be read behind counts that were taken. -/
  storage : (∃ detail, interpret call reply = .error (.storage detail)) ↔
    (∃ cause, reply = .failure cause ∧ ¬ ∃ key, Taken call cause key) ∨
      (∃ row ∈ call.decoded reply, ¬ row.Readable) ∨
      FirstBad StatusCount.Counts (fun row => ¬ row.Readable) (call.counted reply)

/-- The jobs of an answer are those that the rows decode to. -/
theorem decodes_of_interpret {call : StoreCall} {reply : Reply} {answer : call.Answer}
    (answered : interpret call reply = .ok answer) :
    List.Forall₂ Row.Decodes (call.decoded reply) (call.jobsIn answer) := by
  rw [interpret_of_succeeded (by rintro ⟨cause, rfl⟩; cases answered), bind_eq_ok] at answered
  obtain ⟨found, decode, concluded⟩ := answered
  rw [jobs_eq_ok] at decode
  suffices inAnswer : call.jobsIn answer = found from inAnswer ▸ decode
  have one (rows : List Row) (decode : List.Forall₂ Row.Decodes (rows.take 1) found) :
      found.head?.toList = found := by
    have atMost : found.length ≤ 1 := decode.length_eq ▸ List.length_take_le 1 rows
    cases found with
    | nil => rfl
    | cons job rest =>
      obtain rfl : rest = [] := by simpa using atMost
      rfl
  cases call with
  | listDue now limit => cases concluded; rfl
  | listRange start stop statuses => cases concluded; rfl
  | delete id => exact (List.forall₂_nil_left_iff.mp decode).symm
  | tally => exact (List.forall₂_nil_left_iff.mp decode).symm
  | save job =>
    have only := one reply.toRows decode
    cases found with
    | nil => cases concluded
    | cons saved rest => cases concluded; exact only
  | _ => cases concluded; exact one reply.toRows decode

/-- Every reply of the database is taken for what it is, whatever it holds; all that is asked of it
is that a number of attempts comes from a column of 32 bits. -/
theorem reply_classified (call : StoreCall) (reply : Reply)
    (narrow : ∀ row ∈ reply.toRows, row.Narrow) : Classified call reply := by
  have narrowDecoded : ∀ row ∈ call.decoded reply, row.Narrow := by
    intro row member
    apply narrow
    cases call with
    | listDue now limit => exact member
    | listRange start stop statuses => exact member
    | delete id => cases member
    | tally => cases member
    | _ => exact List.mem_of_mem_take member
  constructor
  case decodes => exact fun _ => decodes_of_interpret
  case wellFormed =>
    intro answer answered job member
    obtain ⟨row, _, decodes⟩ := exists_of_forall₂ (decodes_of_interpret answered).flip member
    have named : job.toRow.Named := Row.Decodes.named decodes
    exact ⟨named, (JobRow.toJob?_eq_ok job.toJob?_toRow).1.claimedBy⟩
  case corrupt =>
    intro fault
    have notFailed (cause : Failure) : failed call cause ≠ .corrupt fault :=
      fun reported => failed_ofFailure reported
    simp only [interpret_eq_error, notFailed, jobs_eq_corrupt narrowDecoded,
      StatusCount.mapM_eq_corrupt, and_false, exists_false, false_or, reduceCtorEq]
  case duplicateKey =>
    intro key
    have notDecoded : jobs (operation call) (call.decoded reply) ≠ .error (.duplicateKey key) :=
      fun failed => jobs_ofRows failed
    have notCounted : (call.counted reply).mapM (StatusCount.read (operation call)) ≠
        .error (.duplicateKey key) :=
      fun failed => StatusCount.mapM_ofRows failed
    simp only [interpret_eq_error, failed_eq_duplicateKey, notDecoded, notCounted, and_false,
      exists_false, or_false, reduceCtorEq]
  case terminal =>
    intro id
    have notFailed (cause : Failure) : failed call cause ≠ .terminal id :=
      fun reported => failed_ofFailure reported
    have notDecoded : jobs (operation call) (call.decoded reply) ≠ .error (.terminal id) :=
      fun failed => jobs_ofRows failed
    have notCounted : (call.counted reply).mapM (StatusCount.read (operation call)) ≠
        .error (.terminal id) :=
      fun failed => StatusCount.mapM_ofRows failed
    simp only [interpret_eq_error, notFailed, notDecoded, notCounted, and_false, exists_false,
      false_or, or_false, StoreError.terminal.injEq]
  case storage =>
    have failures : (∃ detail cause, reply = .failure cause ∧
        failed call cause = .storage detail) ↔
          ∃ cause, reply = .failure cause ∧ ¬ ∃ key, Taken call cause key := by
      rw [exists_comm]
      simp only [exists_and_left, exists_failed_eq_storage]
    simp only [interpret_eq_error, exists_or, jobs_eq_storage, StatusCount.mapM_eq_storage,
      failures, reduceCtorEq, and_false, exists_false, false_or]

/-- A listing whose second row says that the job runs, but not with whom, is refused for that row,
although the first one is a job. -/
theorem reply_classified_without_owner :
    let job : Job := .create ⟨1⟩ ⟨"post"⟩ .epoch .epoch
    let orphan : JobRow := { job.toRow with status := .running }
    let reply : Reply := .rows [.ofJob job, .ofFlat orphan]
    (∀ row ∈ reply.toRows, row.Narrow) ∧
      interpret (.listDue .epoch 2) reply =
        .error (.corrupt (.corruptRecord (.missingColumn ⟨1⟩ .running .claimedBy))) := by
  intro job orphan reply
  have named : job.toRow.Named := ⟨by decide, nofun⟩
  have narrow : ∀ row ∈ reply.toRows, row.Narrow := by
    intro row member number holds
    have none : number = 0 := by
      rcases List.mem_pair.mp member with rfl | rfl <;> exact (Value.integer.inj holds).symm
    rw [none]
    decide
  have first : (Row.ofJob job).Decodes job := Row.decodes_ofJob named
  have second : (Row.ofFlat orphan).Corrupt
      (.corruptRecord (.missingColumn ⟨1⟩ .running .claimedBy)) :=
    ⟨.ofFlat orphan, rfl, Or.inr ⟨orphan, rfl, ⟨named.content, named.owner⟩, rfl⟩⟩
  have readable : ∀ row ∈ reply.toRows, row.Readable := by
    intro row member
    rcases List.mem_pair.mp member with rfl | rfl
    · exact Row.Decodes.readable first
    · exact ⟨_, rfl⟩
  exact ⟨narrow, ((reply_classified (.listDue .epoch 2) reply narrow).corrupt _).mpr
    (Or.inl ⟨readable, .later ⟨job, first⟩ (.here second)⟩)⟩

end Postgres

end TimedPublishing
