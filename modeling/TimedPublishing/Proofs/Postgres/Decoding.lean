import TimedPublishing.Postgres.Query
import TimedPublishing.Proofs.Job.StoredForm
import TimedPublishing.Proofs.Outcomes

/-!
# Rows of the table and the jobs they decode to

A job is written in two steps and read back in the same two: its flat form, and a value for each
column. Each step of reading undoes the step of writing and accepts nothing else. A row is read
exactly if it has a value of the right kind in each column that needs one. The values are a flat
form exactly if the names in them are not blank, the status is one of the five and the count of
attempts is one. So a row decodes to a job in one way only: it is the row of a flat form with names,
and the job is what that form is rebuilt to.

What else a row can hold is a fault, and the faults are looked for in a fixed order.
-/

namespace TimedPublishing

/-- A text names a content exactly if it is not blank. -/
theorem ContentId.read_eq_ok {text : String} {content : ContentId} :
    ContentId.read text = .ok content ↔ text = content.text ∧ Text.blank content.text = false := by
  obtain ⟨name⟩ := content
  unfold ContentId.read ContentId.ofText?
  grind [Except.mapError]

/-- A text that names no content is blank. -/
theorem ContentId.read_eq_error {text : String} {cause : JobError} :
    ContentId.read text = .error cause ↔
      Text.blank text = true ∧ cause = .invalidId .blankContent := by
  unfold ContentId.read ContentId.ofText?
  grind [Except.mapError]

/-- A text names a worker exactly if it is not blank. -/
theorem WorkerId.read_eq_ok {text : String} {worker : WorkerId} :
    WorkerId.read text = .ok worker ↔ text = worker.text ∧ Text.blank worker.text = false := by
  obtain ⟨name⟩ := worker
  unfold WorkerId.read WorkerId.ofText?
  grind [Except.mapError]

/-- A text that names no worker is blank. -/
theorem WorkerId.read_eq_error {text : String} {cause : JobError} :
    WorkerId.read text = .error cause ↔
      Text.blank text = true ∧ cause = .invalidId .blankWorker := by
  unfold WorkerId.read WorkerId.ofText?
  grind [Except.mapError]

/-- A word is read as a status exactly if it is the word of that status. -/
theorem JobStatus.read_eq_ok {word : String} {status : JobStatus} :
    JobStatus.read word = .ok status ↔ word = status.text := by
  unfold JobStatus.read
  constructor
  · intro found
    cases known : ofText? word with
    | none => simp [known] at found
    | some other =>
      obtain rfl : other = status := by simpa [known] using found
      have same := List.find?_some known
      exact (beq_iff_eq.mp same).symm
  · rintro rfl
    rw [ofText?_text]

/-- A word that is read as no status is the word of none, and it is reported. -/
theorem JobStatus.read_eq_error {word : String} {cause : JobError} :
    JobStatus.read word = .error cause ↔ (∀ status : JobStatus, word ≠ status.text) ∧
      cause = .corruptRecord (.unknownStatus word) := by
  cases outcome : JobStatus.read word with
  | ok status =>
    simp only [reduceCtorEq, false_iff, not_and]
    exact fun unknown => absurd (JobStatus.read_eq_ok.mp outcome) (unknown status)
  | error reported =>
    have unknown (status : JobStatus) : word ≠ status.text := by
      intro same
      cases outcome.symm.trans (JobStatus.read_eq_ok.mpr same)
    have wording : reported = .corruptRecord (.unknownStatus word) := by
      unfold JobStatus.read at outcome
      split at outcome
      · cases outcome
      · exact (Except.error.inj outcome).symm
    rw [wording, Except.error.injEq, eq_comm]
    exact (and_iff_right unknown).symm

/-- A count of attempts fits its field, so a number is one exactly if it is not negative and not too
large. -/
theorem Attempts.ofNat?_eq_some {count : Nat} {attempts : Attempts} :
    ofNat? count = some attempts ↔ count = attempts.count := by
  obtain ⟨number, inRange⟩ := attempts
  grind [ofNat?]

/-- The names in a stored form are names: that of the content, and that of an owner. -/
structure JobRow.Named (flat : JobRow) : Prop where
  content : Text.blank flat.content.text = false
  owner : ∀ worker, flat.claimedBy = some worker → Text.blank worker.text = false

namespace Postgres

/-- How values of a kind are read, and how they are written. A missing value is not of the kind. -/
structure Reads {α : Type} (read : Value → Option α) (make : α → Value) : Prop where
  eq_some : ∀ value found, read value = some found ↔ value = make found
  ne_null : ∀ found, make found ≠ .null

/-- Names of jobs are read as they are written. -/
theorem reads_uuid : Reads Value.toId? .uuid where
  eq_some := by intro value found; cases value <;> simp [Value.toId?]
  ne_null := by simp

/-- Texts are read as they are written. -/
theorem reads_text : Reads Value.toText? .text where
  eq_some := by intro value found; cases value <;> simp [Value.toText?]
  ne_null := by simp

/-- Instants are read as they are written. -/
theorem reads_time : Reads Value.toInstant? .time where
  eq_some := by intro value found; cases value <;> simp [Value.toInstant?]
  ne_null := by simp

/-- Numbers are read as they are written. -/
theorem reads_integer : Reads Value.toInt? .integer where
  eq_some := by intro value found; cases value <;> simp [Value.toInt?]
  ne_null := by simp

namespace Reads

variable {α : Type} {read : Value → Option α} {make : α → Value}

/-- A required column has the value that was written. -/
theorem required (reads : Reads read make) {column : String} {value : Value} {found : α} :
    value.required column read = .ok found ↔ value = make found := by
  have missing := reads.ne_null found
  have exact := reads.eq_some value found
  unfold Value.required
  grind

/-- A column that may be empty has the value that was written, or none. -/
theorem nullable (reads : Reads read make) {column : String} {value : Value} {found : Option α} :
    value.nullable column read = .ok found ↔ value = .ofOption make found := by
  by_cases missing : value = .null
  · subst missing
    cases found with
    | none => simp [Value.nullable, Value.ofOption]
    | some written => simpa [Value.nullable, Value.ofOption] using (reads.ne_null written).symm
  · have opened : value.nullable column read = (value.required column read).map some := by
      cases value <;> first | rfl | exact absurd rfl missing
    rw [opened]
    cases found with
    | none => cases value.required column read <;> simp [Except.map, Value.ofOption, missing]
    | some written =>
      rw [Value.ofOption, ← reads.required]
      cases value.required column read <;> simp [Except.map]

end Reads

/-- The values of a flat form. -/
def Fields.ofFlat (flat : JobRow) : Fields :=
  { id := flat.id
    content := flat.content.text
    publishAt := flat.publishAt
    status := flat.status.text
    attempts := flat.attempts.count
    lastAttemptAt := flat.lastAttemptAt
    nextRetryAt := flat.nextRetryAt
    completedAt := flat.completedAt
    actualPublishAt := flat.actualPublishAt
    errorMessage := flat.errorMessage
    claimedBy := flat.claimedBy.map WorkerId.text
    createdAt := flat.createdAt
    updatedAt := flat.updatedAt }

namespace Row

/-- The row that holds given values. -/
def ofFields (fields : Fields) : Row
  | .id => .uuid fields.id
  | .content => .text fields.content
  | .publishAt => .time fields.publishAt
  | .status => .text fields.status
  | .attempts => .integer fields.attempts
  | .lastAttemptAt => .ofOption .time fields.lastAttemptAt
  | .nextRetryAt => .ofOption .time fields.nextRetryAt
  | .completedAt => .ofOption .time fields.completedAt
  | .actualPublishAt => .ofOption .time fields.actualPublishAt
  | .errorMessage => .ofOption .text fields.errorMessage
  | .claimedBy => .ofOption .text fields.claimedBy
  | .createdAt => .time fields.createdAt
  | .updatedAt => .time fields.updatedAt

/-- The row of a flat form. -/
def ofFlat (flat : JobRow) : Row := ofFields (.ofFlat flat)

/-- The row of a job is that of its flat form. -/
theorem ofJob_eq (job : Job) : ofJob job = ofFlat job.toRow := by
  funext column
  cases column with
  | claimedBy =>
    have flat : job.toRow.claimedBy = job.claimedBy := rfl
    simp only [ofJob, ofFlat, ofFields, Fields.ofFlat, flat]
    cases job.claimedBy <;> rfl
  | _ => rfl

/-- A required column is read exactly if it holds a value of its kind. -/
theorem get_eq_ok {α : Type} {read : Value → Option α} {make : α → Value} (reads : Reads read make)
    {row : Row} {column : Column} {found : α} :
    row.get column read = .ok found ↔ row column = make found :=
  reads.required

/-- A column that may be empty is read exactly if it holds a value of its kind or none. -/
theorem get?_eq_ok {α : Type} {read : Value → Option α} {make : α → Value}
    (reads : Reads read make) {row : Row} {column : Column} {found : Option α} :
    row.get? column read = .ok found ↔ row column = .ofOption make found :=
  reads.nullable

/-- Reading a row finds exactly the values that it holds. -/
theorem fields_eq_ok {row : Row} {fields : Fields} :
    row.fields = .ok fields ↔ row = ofFields fields := by
  simp only [Row.fields, bind_eq_ok, get_eq_ok reads_uuid, get_eq_ok reads_text,
    get_eq_ok reads_time, get_eq_ok reads_integer, get?_eq_ok reads_time, get?_eq_ok reads_text]
  constructor
  · rintro ⟨id, isId, content, isContent, publishAt, isPublishAt, status, isStatus, attempts,
      isAttempts, lastAttemptAt, isLastAttemptAt, nextRetryAt, isNextRetryAt, completedAt,
      isCompletedAt, actualPublishAt, isActualPublishAt, errorMessage, isErrorMessage, claimedBy,
      isClaimedBy, createdAt, isCreatedAt, updatedAt, isUpdatedAt, same⟩
    cases same
    funext column
    cases column <;> assumption
  · rintro rfl
    exact ⟨_, rfl, _, rfl, _, rfl, _, rfl, _, rfl, _, rfl, _, rfl, _, rfl, _, rfl, _, rfl, _, rfl,
      _, rfl, _, rfl, rfl⟩

end Row

namespace Fields

/-- The count of attempts among the values of a row. -/
def readAttempts (fields : Fields) : Except JobError Attempts :=
  match fields.attempts? with
  | some attempts => .ok attempts
  | none => .error (.corruptRecord (.negativeAttempts fields.id))

/-- The owner among the values of a row, if there is one. -/
def readOwner (fields : Fields) : Except JobError (Option WorkerId) :=
  match fields.claimedBy with
  | some name => (WorkerId.read name).map some
  | none => .ok none

/-- The flat form with the values of a row, once those that are checked have been read. -/
def toFlat (fields : Fields) (attempts : Attempts) (content : ContentId) (status : JobStatus)
    (owner : Option WorkerId) : JobRow :=
  { id := fields.id
    content := content
    publishAt := fields.publishAt
    status := status
    attempts := attempts
    lastAttemptAt := fields.lastAttemptAt
    nextRetryAt := fields.nextRetryAt
    completedAt := fields.completedAt
    actualPublishAt := fields.actualPublishAt
    errorMessage := fields.errorMessage
    claimedBy := owner
    createdAt := fields.createdAt
    updatedAt := fields.updatedAt }

/-- Four of the values are checked, one after the other. -/
theorem toJobRow?_eq (fields : Fields) :
    fields.toJobRow? = do
      let attempts ← fields.readAttempts
      let content ← ContentId.read fields.content
      let status ← JobStatus.read fields.status
      let owner ← fields.readOwner
      return fields.toFlat attempts content status owner := by
  unfold toJobRow? readAttempts readOwner
  cases fields.attempts? <;> cases fields.claimedBy <;> rfl

variable {fields : Fields}

/-- A count is read from the number that it is. -/
theorem readAttempts_eq_ok {attempts : Attempts} :
    fields.readAttempts = .ok attempts ↔ fields.attempts = attempts.count := by
  have counted : fields.attempts? = some attempts ↔ fields.attempts = attempts.count := by
    unfold attempts?
    split
    · rw [Attempts.ofNat?_eq_some]
      omega
    · simp only [reduceCtorEq, false_iff]
      omega
  rw [← counted]
  unfold readAttempts
  cases fields.attempts? <;> simp

/-- An owner is read from its name, if that is one. -/
theorem readOwner_eq_ok {owner : Option WorkerId} :
    fields.readOwner = .ok owner ↔ fields.claimedBy = owner.map WorkerId.text ∧
      ∀ worker, owner = some worker → Text.blank worker.text = false := by
  unfold readOwner
  cases fields.claimedBy with
  | none => cases owner <;> simp
  | some name =>
    change (WorkerId.read name).map some = .ok owner ↔ _
    cases owner with
    | none => cases WorkerId.read name <;> simp [Except.map]
    | some worker =>
      have named : (WorkerId.read name).map some = .ok (some worker) ↔
          WorkerId.read name = .ok worker := by
        cases WorkerId.read name <;> simp [Except.map]
      simp [named, WorkerId.read_eq_ok]

/-- In the range of its column, a number that is no count is negative. -/
theorem readAttempts_eq_error (fits : fields.attempts ≤ maxAttemptsColumn) {cause : JobError} :
    fields.readAttempts = .error cause ↔
      fields.attempts < 0 ∧ cause = .corruptRecord (.negativeAttempts fields.id) := by
  unfold readAttempts attempts?
  by_cases counted : 0 ≤ fields.attempts
  · have inRange : fields.attempts.toNat ≤ Text.maxWord32 := by
      unfold maxAttemptsColumn at fits
      unfold Text.maxWord32
      omega
    rw [if_pos counted, Attempts.ofNat?, dif_pos inRange]
    simp [Int.not_lt.mpr counted]
  · rw [if_neg counted]
    simp [Int.not_le.mp counted, eq_comm]

/-- An owner that is none has a blank name. -/
theorem readOwner_eq_error {cause : JobError} :
    fields.readOwner = .error cause ↔
      (∃ name, fields.claimedBy = some name ∧ Text.blank name = true) ∧
        cause = .invalidId .blankWorker := by
  unfold readOwner
  cases fields.claimedBy with
  | none => simp
  | some name =>
    have refused : (WorkerId.read name).map some = .error cause ↔
        WorkerId.read name = .error cause := by
      cases WorkerId.read name <;> simp [Except.map]
    change (WorkerId.read name).map some = .error cause ↔ _
    simp [refused, WorkerId.read_eq_error]

/-- The values of a row are a flat form exactly if they are those of that form and its names are
names. -/
theorem toJobRow?_eq_ok {flat : JobRow} :
    fields.toJobRow? = .ok flat ↔ fields = ofFlat flat ∧ flat.Named := by
  simp only [toJobRow?_eq, bind_eq_ok, readAttempts_eq_ok, ContentId.read_eq_ok,
    JobStatus.read_eq_ok, readOwner_eq_ok]
  constructor
  · rintro ⟨attempts, counted, content, ⟨isContent, named⟩, status, isStatus, owner,
      ⟨isOwner, owned⟩, same⟩
    cases same
    refine ⟨?_, named, owned⟩
    simp [ofFlat, toFlat, ← counted, ← isContent, ← isStatus, ← isOwner]
  · rintro ⟨rfl, named⟩
    exact ⟨flat.attempts, rfl, flat.content, ⟨rfl, named.content⟩, flat.status, rfl,
      flat.claimedBy, ⟨rfl, named.owner⟩, rfl⟩

/-- What keeps the values of a row from being a flat form. The checks stand in the order in which
they are made, and each is made of values that have passed those before it. -/
inductive Misread (fields : Fields) : JobError → Prop
  | attempts (negative : fields.attempts < 0) :
    Misread fields (.corruptRecord (.negativeAttempts fields.id))
  | content (counted : 0 ≤ fields.attempts) (blank : Text.blank fields.content = true) :
    Misread fields (.invalidId .blankContent)
  | status (counted : 0 ≤ fields.attempts) (named : Text.blank fields.content = false)
      (unknown : ∀ status : JobStatus, fields.status ≠ status.text) :
    Misread fields (.corruptRecord (.unknownStatus fields.status))
  | owner (counted : 0 ≤ fields.attempts) (named : Text.blank fields.content = false)
      (status : JobStatus) (known : fields.status = status.text) (name : String)
      (owned : fields.claimedBy = some name) (blank : Text.blank name = true) :
    Misread fields (.invalidId .blankWorker)

/-- What keeps the values of a row from being a job: they are no flat form, or one that breaks the
rule of the stored form. -/
def Fault (fields : Fields) (cause : JobError) : Prop :=
  fields.Misread cause ∨
    ∃ flat : JobRow, fields = ofFlat flat ∧ flat.Named ∧ flat.toJob? = .error cause

/-- Values are no flat form exactly if one of the checks finds a fault, and the first one is
reported.

Proof: the four checks are read off one after the other. A check that was passed gives the value
that the next ones ask for. -/
theorem toJobRow?_eq_error (fits : fields.attempts ≤ maxAttemptsColumn) {cause : JobError} :
    fields.toJobRow? = .error cause ↔ fields.Misread cause := by
  simp only [toJobRow?_eq, bind_eq_error, readAttempts_eq_error fits, readAttempts_eq_ok,
    ContentId.read_eq_error, ContentId.read_eq_ok, JobStatus.read_eq_error, JobStatus.read_eq_ok,
    readOwner_eq_error]
  constructor
  · rintro (⟨negative, rfl⟩ | ⟨attempts, isCount, refused⟩)
    · exact .attempts negative
    have counted : 0 ≤ fields.attempts := by omega
    rcases refused with ⟨blank, rfl⟩ | ⟨content, ⟨isContent, named⟩, refused⟩
    · exact .content counted blank
    rw [← isContent] at named
    rcases refused with ⟨unknown, rfl⟩ | ⟨status, known, refused⟩
    · exact .status counted named unknown
    rcases refused with ⟨⟨name, owned, blank⟩, rfl⟩ | ⟨_, _, impossible⟩
    · exact .owner counted named status known name owned blank
    · cases impossible
  · intro misread
    have count (counted : 0 ≤ fields.attempts) :
        ∃ attempts : Attempts, fields.attempts = attempts.count := by
      have inRange : fields.attempts.toNat ≤ Text.maxWord32 := by
        unfold maxAttemptsColumn at fits
        unfold Text.maxWord32
        omega
      exact ⟨⟨fields.attempts.toNat, inRange⟩, (Int.toNat_of_nonneg counted).symm⟩
    cases misread with
    | attempts negative => exact Or.inl ⟨negative, rfl⟩
    | content counted blank =>
      obtain ⟨attempts, isCount⟩ := count counted
      exact Or.inr ⟨attempts, isCount, Or.inl ⟨blank, rfl⟩⟩
    | status counted named unknown =>
      obtain ⟨attempts, isCount⟩ := count counted
      exact Or.inr ⟨attempts, isCount, Or.inr ⟨⟨fields.content⟩, ⟨rfl, named⟩,
        Or.inl ⟨unknown, rfl⟩⟩⟩
    | owner counted named status known name owned blank =>
      obtain ⟨attempts, isCount⟩ := count counted
      exact Or.inr ⟨attempts, isCount, Or.inr ⟨⟨fields.content⟩, ⟨rfl, named⟩,
        Or.inr ⟨status, known, Or.inl ⟨⟨name, owned, blank⟩, rfl⟩⟩⟩⟩

/-- Values are no job exactly if they have a fault, and that is what is reported. -/
theorem toJob?_eq_error (fits : fields.attempts ≤ maxAttemptsColumn) {cause : StoreError} :
    fields.toJob? = .error cause ↔ ∃ fault, fields.Fault fault ∧ cause = .corrupt fault := by
  simp only [toJob?, mapError_eq_error, bind_eq_error, toJobRow?_eq_error fits, toJobRow?_eq_ok,
    Fault, and_assoc]

end Fields

namespace Row

/-- A row decodes to a job: its columns can be read, and their values describe that job. -/
def Decodes (row : Row) (job : Job) : Prop :=
  ∃ fields, row.fields = .ok fields ∧ fields.toJob? = .ok job

/-- A row decodes to a job exactly if it is the row of a flat form with names that is rebuilt to
the job. -/
theorem decodes_iff {row : Row} {job : Job} :
    row.Decodes job ↔ ∃ flat : JobRow, row = ofFlat flat ∧ flat.Named ∧ flat.toJob? = .ok job := by
  simp only [Decodes, fields_eq_ok, Fields.toJob?, mapError_eq_ok, bind_eq_ok,
    Fields.toJobRow?_eq_ok]
  constructor
  · rintro ⟨fields, isRow, flat, ⟨rfl, named⟩, rebuilt⟩
    exact ⟨flat, isRow, named, rebuilt⟩
  · rintro ⟨flat, isRow, named, rebuilt⟩
    exact ⟨_, isRow, flat, ⟨rfl, named⟩, rebuilt⟩

/-- The row of a job decodes to the job, if its names are names. -/
theorem decodes_ofJob {job : Job} (named : job.toRow.Named) : (ofJob job).Decodes job :=
  decodes_iff.mpr ⟨job.toRow, ofJob_eq job, named, job.toJob?_toRow⟩

end Row

end Postgres

end TimedPublishing
