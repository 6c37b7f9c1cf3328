import TimedPublishing.Job.Row

/-!
# Jobs and their stored form

A row in stored form has a column for each thing that some status carries, so there are rows that
no job is flattened to. Rebuilding forgives some of them. A retry time, an end or a publication that
the status has no use for is passed over, and the job that is rebuilt has lost it. An owner beside
another status than running is not forgiven, and a column that the status needs has to be there.

The rule is given here as `WellFormed`, without a look at how a row is rebuilt, and a breach of it
as a column together with the fault that reports it. Rebuilding and flattening are then inverse to
each other, up to the columns that were passed over, and the only faults are breaches.
-/

namespace TimedPublishing

namespace StateColumn

/-- The statuses that a column belongs to. -/
def belongsTo : StateColumn → JobStatus → Bool
  | claimedBy, status => status == .running
  | nextRetryAt, status => status == .retryWait
  | completedAt, status => status == .succeeded || status == .failed
  | actualPublishAt, status => status == .succeeded

end StateColumn

namespace JobRow

/-- Whether a row has a value in a column. -/
def has (row : JobRow) : StateColumn → Bool
  | .claimedBy => row.claimedBy.isSome
  | .nextRetryAt => row.nextRetryAt.isSome
  | .completedAt => row.completedAt.isSome
  | .actualPublishAt => row.actualPublishAt.isSome

/-- The rule of the stored form: an owner exactly while the job runs, and every other column at
least where it belongs. -/
structure WellFormed (row : JobRow) : Prop where
  claimedBy : row.claimedBy.isSome = true ↔ row.status = .running
  nextRetryAt : row.status = .retryWait → row.nextRetryAt.isSome = true
  completedAt : row.status = .succeeded ∨ row.status = .failed → row.completedAt.isSome = true
  actualPublishAt : row.status = .succeeded → row.actualPublishAt.isSome = true

/-- A column that breaks the rule, with the fault that reports it. -/
inductive Breach (row : JobRow) : StateColumn → RowFault → Prop
  | missing (column : StateColumn) (belongs : column.belongsTo row.status = true)
      (absent : row.has column = false) :
    Breach row column (.missingColumn row.id row.status column)
  | stray (foreign : StateColumn.claimedBy.belongsTo row.status = false)
      (present : row.has .claimedBy = true) :
    Breach row .claimedBy (.strayOwner row.id row.status)

/-- The row without what its status has no use for. The owner is not looked at. -/
def cleared (row : JobRow) : JobRow :=
  { row with
    nextRetryAt := if row.status = .retryWait then row.nextRetryAt else none
    completedAt :=
      if row.status = .succeeded ∨ row.status = .failed then row.completedAt else none
    actualPublishAt := if row.status = .succeeded then row.actualPublishAt else none }

variable {row : JobRow} {column : StateColumn} {fault : RowFault} {job : Job}

/-- A row that keeps the rule has every column that belongs to its status. -/
theorem WellFormed.has_of_belongs (kept : row.WellFormed)
    (belongs : column.belongsTo row.status = true) : row.has column = true := by
  cases column with
  | claimedBy => exact kept.claimedBy.mpr (beq_iff_eq.mp belongs)
  | nextRetryAt => exact kept.nextRetryAt (beq_iff_eq.mp belongs)
  | completedAt => exact kept.completedAt (by simpa [StateColumn.belongsTo] using belongs)
  | actualPublishAt => exact kept.actualPublishAt (beq_iff_eq.mp belongs)

/-- A row with a breach does not keep the rule. -/
theorem Breach.not_wellFormed (breach : row.Breach column fault) : ¬ row.WellFormed := by
  intro kept
  cases breach with
  | missing _ belongs absent =>
    exact Bool.false_ne_true (absent.symm.trans (kept.has_of_belongs belongs))
  | stray foreign present =>
    have running := kept.claimedBy.mp present
    simp [StateColumn.belongsTo, running] at foreign

/-- The wording of a fault says which column breaks the rule, and how. -/
theorem Breach.message (breach : row.Breach column fault) :
    let subject := "job " ++ row.id.text ++ " is " ++ row.status.text
    (row.has column = false ∧ fault.message = subject ++ " but " ++ column.text ++ " is null") ∨
      (row.has column = true ∧
        fault.message = subject ++ " but has " ++ column.text ++ " set") := by
  cases breach with
  | missing _ _ absent => exact Or.inl ⟨absent, rfl⟩
  | stray foreign present => exact Or.inr ⟨present, rfl⟩

/-- A row is either rebuilt or reported, and only a breach of the rule is reported.

Proof: an owner that does not belong is found first. Without one the status says which columns are
asked for, each of them is there or missing, and the state is made of those that are there. -/
theorem toJob?_cases (row : JobRow) :
    (row.WellFormed ∧ ∃ job, row.toJob? = .ok job ∧ job.toRow = row.cleared) ∨
      ∃ column fault, row.Breach column fault ∧ row.toJob? = .error (.corruptRecord fault) := by
  obtain ⟨id, content, publishAt, status, attempts, lastAttemptAt, nextRetryAt, completedAt,
    actualPublishAt, errorMessage, claimedBy, createdAt, updatedAt⟩ := row
  cases status with
  | queued =>
    cases claimedBy with
    | none => exact Or.inl ⟨⟨by simp, by simp, by simp, by simp⟩, _, rfl, rfl⟩
    | some owner => exact Or.inr ⟨_, _, .stray rfl rfl, rfl⟩
  | running =>
    cases claimedBy with
    | none => exact Or.inr ⟨_, _, .missing .claimedBy rfl rfl, rfl⟩
    | some owner => exact Or.inl ⟨⟨by simp, by simp, by simp, by simp⟩, _, rfl, rfl⟩
  | retryWait =>
    cases claimedBy with
    | some owner => exact Or.inr ⟨_, _, .stray rfl rfl, rfl⟩
    | none =>
      cases nextRetryAt with
      | none => exact Or.inr ⟨_, _, .missing .nextRetryAt rfl rfl, rfl⟩
      | some retryAt => exact Or.inl ⟨⟨by simp, by simp, by simp, by simp⟩, _, rfl, rfl⟩
  | succeeded =>
    cases claimedBy with
    | some owner => exact Or.inr ⟨_, _, .stray rfl rfl, rfl⟩
    | none =>
      cases completedAt with
      | none => exact Or.inr ⟨_, _, .missing .completedAt rfl rfl, rfl⟩
      | some completed =>
        cases actualPublishAt with
        | none => exact Or.inr ⟨_, _, .missing .actualPublishAt rfl rfl, rfl⟩
        | some published => exact Or.inl ⟨⟨by simp, by simp, by simp, by simp⟩, _, rfl, rfl⟩
  | failed =>
    cases claimedBy with
    | some owner => exact Or.inr ⟨_, _, .stray rfl rfl, rfl⟩
    | none =>
      cases completedAt with
      | none => exact Or.inr ⟨_, _, .missing .completedAt rfl rfl, rfl⟩
      | some completed => exact Or.inl ⟨⟨by simp, by simp, by simp, by simp⟩, _, rfl, rfl⟩

/-- A row that is rebuilt keeps the rule, and the job has all of it but the columns that the status
has no use for. -/
theorem toJob?_eq_ok (rebuilt : row.toJob? = .ok job) :
    row.WellFormed ∧ job.toRow = row.cleared := by
  rcases row.toJob?_cases with ⟨kept, other, found, flat⟩ | ⟨_, _, _, refused⟩
  · obtain rfl := Except.ok.inj (found.symm.trans rebuilt)
    exact ⟨kept, flat⟩
  · cases refused.symm.trans rebuilt

/-- A row that is refused has a breach, and that is what is reported. -/
theorem toJob?_eq_error {error : JobError} (refused : row.toJob? = .error error) :
    ∃ column fault, row.Breach column fault ∧ error = .corruptRecord fault := by
  rcases row.toJob?_cases with ⟨_, _, found, _⟩ | ⟨column, fault, breach, reported⟩
  · cases found.symm.trans refused
  · exact ⟨column, fault, breach, Except.error.inj (refused.symm.trans reported)⟩

end JobRow

namespace Job

/-- A job is what its stored form is rebuilt to. -/
theorem toJob?_toRow (job : Job) : job.toRow.toJob? = .ok job := by
  obtain ⟨id, content, publishAt, state, attempts, lastAttemptAt, errorMessage, createdAt,
    updatedAt⟩ := job
  cases state <;> rfl

/-- Flattening and rebuilding are inverse to each other, and what is refused is exactly what breaks
the rule of the stored form. Every job comes back from its row. A row is rebuilt if and only if it
keeps the rule, and the job then has the row's columns, but for those that its status has no use
for. A row that is not rebuilt is reported as corrupt, with a column that does break the rule, by
its name and in the way it does. -/
theorem rebuilt_exactly_from_wellFormed (job : Job) (row : JobRow) :
    job.toRow.toJob? = .ok job ∧
    ((∃ rebuilt, row.toJob? = .ok rebuilt) ↔ row.WellFormed) ∧
    (∀ rebuilt, row.toJob? = .ok rebuilt → rebuilt.toRow = row.cleared) ∧
    (∀ error, row.toJob? = .error error → ∃ column fault,
      error = .corruptRecord fault ∧ row.Breach column fault ∧
      let subject := "job " ++ row.id.text ++ " is " ++ row.status.text
      (row.has column = false ∧ fault.message = subject ++ " but " ++ column.text ++ " is null") ∨
        (row.has column = true ∧
          fault.message = subject ++ " but has " ++ column.text ++ " set")) := by
  refine ⟨job.toJob?_toRow, ⟨?_, ?_⟩, fun _ rebuilt => (JobRow.toJob?_eq_ok rebuilt).2, ?_⟩
  · rintro ⟨rebuilt, found⟩
    exact (JobRow.toJob?_eq_ok found).1
  · intro kept
    rcases row.toJob?_cases with ⟨_, rebuilt, found, _⟩ | ⟨_, _, breach, _⟩
    · exact ⟨rebuilt, found⟩
    · exact absurd kept breach.not_wellFormed
  · intro error refused
    obtain ⟨column, fault, breach, reported⟩ := JobRow.toJob?_eq_error refused
    exact ⟨column, fault, reported, breach, breach.message⟩

end Job

end TimedPublishing
