import TimedPublishing.Job.Basic

/-!
# The stored form of a job

A row holds a job flat: the status as a column, and beside it a nullable column for each
thing that some status carries. Flattening a job fills exactly the columns of its status.
Rebuilding one checks the row: an owner is given exactly for a running job, and the other
columns of the status are present. Columns that belong to other statuses are ignored, the
owner apart.
-/

namespace TimedPublishing

/-- A job in stored form. -/
structure JobRow where
  id : JobId
  content : ContentId
  publishAt : Instant
  status : JobStatus
  attempts : Attempts
  lastAttemptAt : Option Instant
  nextRetryAt : Option Instant
  completedAt : Option Instant
  actualPublishAt : Option Instant
  errorMessage : Option String
  claimedBy : Option WorkerId
  createdAt : Instant
  updatedAt : Instant
deriving DecidableEq, Repr

/-- Flatten a job. -/
def Job.toRow (job : Job) : JobRow :=
  { id := job.id
    content := job.content
    publishAt := job.publishAt
    status := job.status
    attempts := job.attempts
    lastAttemptAt := job.lastAttemptAt
    nextRetryAt := job.nextRetryAt
    completedAt := job.completedAt
    actualPublishAt := job.actualPublishAt
    errorMessage := job.errorMessage
    claimedBy := job.claimedBy
    createdAt := job.createdAt
    updatedAt := job.updatedAt }

namespace JobRow

/-- The value of a column that the status requires. -/
def required {α : Type} (row : JobRow) (column : StateColumn) : Option α → Except JobError α
  | some value => .ok value
  | none => .error (.corruptRecord (.missingColumn row.id row.status column))

/-- The state that a row describes. A stray owner is found before a missing column. -/
def state? (row : JobRow) : Except JobError JobState :=
  if row.status ≠ .running ∧ row.claimedBy.isSome then
    .error (.corruptRecord (.strayOwner row.id row.status))
  else
    match row.status with
    | .queued => .ok .queued
    | .running => do return .running (← row.required .claimedBy row.claimedBy)
    | .retryWait => do return .retryWait (← row.required .nextRetryAt row.nextRetryAt)
    | .succeeded => do
      let completedAt ← row.required .completedAt row.completedAt
      let actualPublishAt ← row.required .actualPublishAt row.actualPublishAt
      return .succeeded completedAt actualPublishAt
    | .failed => do return .failed (← row.required .completedAt row.completedAt)

/-- Rebuild the job of a row. -/
def toJob? (row : JobRow) : Except JobError Job := do
  let state ← row.state?
  return {
    id := row.id
    content := row.content
    publishAt := row.publishAt
    state := state
    attempts := row.attempts
    lastAttemptAt := row.lastAttemptAt
    errorMessage := row.errorMessage
    createdAt := row.createdAt
    updatedAt := row.updatedAt }

end JobRow

end TimedPublishing
