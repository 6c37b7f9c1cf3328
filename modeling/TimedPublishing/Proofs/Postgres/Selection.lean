import TimedPublishing.Proofs.Postgres.Decoding
import TimedPublishing.Proofs.Postgres.Meaning
import TimedPublishing.Proofs.Store.Effects

/-!
# Which rows the conditions select

The conditions of the statements compare columns with parameters and with words, and a row may hold
nothing in a column that is compared. For a row that decodes to a job each condition says something
about the job. The condition of due rows says that the job is due, though it never looks at what the
decoder checks: that a job in the queue has no retry to wait for, and that one that waits has.
-/

namespace TimedPublishing

/-- A job is due once its publish time has come, if it stands in the queue or its retry has come as
well. -/
theorem Job.isDue_iff {job : Job} {now : Instant} :
    job.isDue now = true ↔ job.publishAt ≤ now ∧ (job.status = .queued ∨
      job.status = .retryWait ∧ ∃ retryAt, job.nextRetryAt = some retryAt ∧ retryAt ≤ now) := by
  unfold isDue status nextRetryAt
  cases job.state <;> simp [JobState.status]

namespace Postgres

namespace Condition

variable {scope : Scope} {column : Column} {number : Nat}

/-- A column is compared with a parameter that has a value. -/
theorem holds_columnIs {value : Value} (given : parameterAt scope.parameters number = value)
    (present : value ≠ .null) :
    (columnIs column number).Holds scope ↔ scope.row column = value := by
  rw [columnIs, holds_equal]
  change scope.row column ≠ .null ∧ scope.row column = parameterAt scope.parameters number ↔ _
  rw [given]
  constructor
  · exact And.right
  · exact fun same => ⟨same ▸ present, same⟩

/-- The status is compared with a word. -/
theorem holds_statusIs {status : JobStatus} :
    (statusIs status).Holds scope ↔ scope.row .status = .text status.text := by
  rw [statusIs, holds_equal]
  change scope.row .status ≠ .null ∧ scope.row .status = .text status.text ↔ _
  constructor
  · exact And.right
  · exact fun same => ⟨by simp [same], same⟩

/-- A column holds an instant that is at most the one in a parameter. -/
theorem holds_columnAtMost {now : Instant}
    (given : parameterAt scope.parameters number = .time now) :
    (columnAtMost column number).Holds scope ↔
      ∃ instant, scope.row column = .time instant ∧ instant ≤ now := by
  rw [columnAtMost, holds_atMost]
  change (∃ first second, scope.row column = .time first ∧
    parameterAt scope.parameters number = .time second ∧ first ≤ second) ↔ _
  rw [given]
  simp

end Condition

namespace Row

/-- What conditions look at in a row is that of a job. -/
structure Shows (row : Row) (job : Job) : Prop where
  id : row .id = .uuid job.id
  content : row .content = .text job.content.text
  publishAt : row .publishAt = .time job.publishAt
  status : row .status = .text job.status.text
  nextRetryAt : job.status = .retryWait → row .nextRetryAt = .ofOption .time job.nextRetryAt

/-- The row of a job shows the job. -/
theorem shows_ofJob (job : Job) : (ofJob job).Shows job :=
  ⟨rfl, rfl, rfl, rfl, fun _ => rfl⟩

/-- A row shows the job that it decodes to. -/
theorem Decodes.shows {row : Row} {job : Job} (decodes : row.Decodes job) : row.Shows job := by
  obtain ⟨flat, rfl, _, rebuilt⟩ := decodes_iff.mp decodes
  have same : job.toRow = flat.cleared := (JobRow.toJob?_eq_ok rebuilt).2
  have status : job.status = flat.status := congrArg JobRow.status same
  constructor
  · exact congrArg Value.uuid (congrArg JobRow.id same).symm
  · exact congrArg Value.text (congrArg (fun row => row.content.text) same).symm
  · exact congrArg Value.time (congrArg JobRow.publishAt same).symm
  · exact congrArg Value.text (congrArg (fun row => row.status.text) same).symm
  · intro waits
    have retryAt : job.nextRetryAt = flat.nextRetryAt :=
      (congrArg JobRow.nextRetryAt same).trans (if_pos (status.symm.trans waits))
    exact congrArg (Value.ofOption .time) retryAt.symm

namespace Shows

variable {row : Row} {job : Job} {proposed : Option Row} {parameters : List Value} {number : Nat}

/-- A row is selected by its name. -/
theorem holds_idIs (shows : row.Shows job) {id : JobId}
    (given : parameterAt parameters number = .uuid id) :
    (columnIs .id number).Holds ⟨row, proposed, parameters⟩ ↔ job.id = id := by
  rw [Condition.holds_columnIs given (by simp)]
  change row .id = _ ↔ _
  simp [shows.id]

/-- A row is selected by its intent. -/
theorem holds_keyIs (shows : row.Shows job) {key : JobKey} {other : Nat}
    (content : parameterAt parameters number = .text key.content.text)
    (publishAt : parameterAt parameters other = .time key.publishAt) :
    ((columnIs .content number).both (columnIs .publishAt other)).Holds
        ⟨row, proposed, parameters⟩ ↔
      job.key = key := by
  rw [Condition.holds_both, Condition.holds_columnIs content (by simp),
    Condition.holds_columnIs publishAt (by simp)]
  change row .content = _ ∧ row .publishAt = _ ↔ _
  rw [shows.content, shows.publishAt, Value.text.injEq, Value.time.injEq]
  obtain ⟨⟨name⟩, time⟩ := key
  obtain ⟨id, ⟨own⟩, publishAt, rest⟩ := job
  simp [Job.key]

/-- A row is selected by its status. -/
theorem holds_statusIs (shows : row.Shows job) {status : JobStatus} :
    (statusIs status).Holds ⟨row, proposed, parameters⟩ ↔ job.status = status := by
  rw [Condition.holds_statusIs]
  change row .status = _ ↔ _
  rw [shows.status, Value.text.injEq]
  exact ⟨JobStatus.text_injective, congrArg JobStatus.text⟩

/-- A row is let be replaced exactly if its job has not ended. -/
theorem holds_unended (shows : row.Shows job) :
    (Condition.notAmong (.stored .status) [JobStatus.succeeded.text, JobStatus.failed.text]).Holds
        ⟨row, proposed, parameters⟩ ↔
      job.status.isTerminal = false := by
  rw [Condition.holds_notAmong]
  change row .status ≠ .null ∧ (∀ word ∈ _, row .status ≠ .text word) ↔ _
  rw [shows.status]
  cases job.status <;> decide

/-- A row is selected as due exactly if the job is. -/
theorem holds_due (shows : row.Shows job) {now : Instant}
    (given : parameterAt parameters number = .time now) :
    ((columnAtMost .publishAt number).both (dueStatus number)).Holds ⟨row, proposed, parameters⟩ ↔
      job.isDue now = true := by
  rw [Condition.holds_both, Condition.holds_columnAtMost given, dueStatus, Condition.holds_either,
    Condition.holds_both, Condition.holds_columnAtMost given, shows.holds_statusIs,
    shows.holds_statusIs, Job.isDue_iff]
  change (∃ instant, row .publishAt = .time instant ∧ instant ≤ now) ∧ (job.status = .queued ∨
    job.status = .retryWait ∧ ∃ instant, row .nextRetryAt = .time instant ∧ instant ≤ now) ↔ _
  refine and_congr (by simp [shows.publishAt]) (or_congr Iff.rfl (and_congr_right fun waits => ?_))
  rw [shows.nextRetryAt waits]
  cases job.nextRetryAt <;> simp [Value.ofOption]

/-- A row is selected by a range and a list of statuses, if one is given, exactly if its job lies in
the range and passes the list. -/
theorem holds_range (shows : row.Shows job) {start stop : Instant}
    {statuses : Option (List JobStatus)} (isStart : parameterAt parameters 1 = .time start)
    (isStop : parameterAt parameters 2 = .time stop)
    (given : parameterAt parameters 3 =
      .ofOption (fun wanted => .texts (wanted.map JobStatus.text)) statuses) :
    (Condition.both (.compare .atLeast (.column .publishAt) (.parameter 1))
      (.both (.compare .less (.column .publishAt) (.parameter 2))
        (.either (.noList 3) (.inList (.column .status) 3)))).Holds ⟨row, proposed, parameters⟩ ↔
      (decide (start ≤ job.publishAt) && decide (job.publishAt < stop) &&
        Store.passes statuses job.status) = true := by
  rw [Condition.holds_both, Condition.holds_both, Condition.holds_atLeast, Condition.holds_less,
    Condition.holds_either, Condition.holds_noList, Condition.holds_inList]
  change (∃ first second, row .publishAt = .time first ∧ parameterAt parameters 1 = .time second ∧
      second ≤ first) ∧
    (∃ first second, row .publishAt = .time first ∧ parameterAt parameters 2 = .time second ∧
      first < second) ∧
    (parameterAt parameters 3 = .null ∨ ∃ word items, row .status = .text word ∧
      parameterAt parameters 3 = .texts items ∧ word ∈ items) ↔ _
  have passes : (parameterAt parameters 3 = .null ∨ ∃ word items, row .status = .text word ∧
      parameterAt parameters 3 = .texts items ∧ word ∈ items) ↔
        Store.passes statuses job.status = true := by
    rw [given, shows.status]
    cases statuses with
    | none => simp [Value.ofOption, Store.passes]
    | some wanted =>
      have sameWord : job.status.text ∈ wanted.map JobStatus.text ↔ job.status ∈ wanted :=
        List.mem_map_of_injective fun _ _ => JobStatus.text_injective
      simp [Value.ofOption, Store.passes, sameWord, -List.mem_map]
  rw [passes, isStart, isStop, shows.publishAt]
  simp [and_assoc]

end Shows

end Row

end Postgres

end TimedPublishing
