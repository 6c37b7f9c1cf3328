import TimedPublishing.Job.Identifier
import TimedPublishing.Job.Status

/-!
# Faults of jobs, settings and stored rows

The errors of the job model itself: a setting out of its range, a text that names
nothing, a transition the state machine does not allow, and a stored row that no job
corresponds to. Each is kept as its cause; the wording is given by `message`.
-/

namespace TimedPublishing

/-- The longest accepted retry delay and scheduling grace, in seconds: one hundred years
of 365 days. -/
def longestDelay : Nat := 3153600000

/-- Why a setting is refused. -/
inductive SettingFault
  | emptyBackoff
  | delayTooLong (seconds : Nat)
  | graceTooLong (seconds : Nat)
  /-- A fault in the words of whoever found it. -/
  | reported (detail : String)
deriving DecidableEq, Repr

/-- The wording of a fault. -/
def SettingFault.message : SettingFault → String
  | .emptyBackoff => "backoff table must not be empty"
  | .delayTooLong seconds =>
    "backoff delay " ++ toString seconds ++ "s exceeds " ++ toString longestDelay ++ "s"
  | .graceTooLong seconds =>
    "grace " ++ toString seconds ++ "s exceeds " ++ toString longestDelay ++ "s"
  | .reported detail => detail

/-- The columns of a stored row that depend on its status. -/
inductive StateColumn
  | claimedBy
  | nextRetryAt
  | completedAt
  | actualPublishAt
deriving DecidableEq, Repr

/-- The stored name of a column. -/
def StateColumn.text : StateColumn → String
  | .claimedBy => "claimed_by"
  | .nextRetryAt => "next_retry_at"
  | .completedAt => "completed_at"
  | .actualPublishAt => "actual_publish_at"

/-- Why a stored row is no job. -/
inductive RowFault
  | unknownStatus (word : String)
  /-- An owner is given although the status is not running. -/
  | strayOwner (id : JobId) (status : JobStatus)
  | missingColumn (id : JobId) (status : JobStatus) (column : StateColumn)
  | negativeAttempts (id : JobId)
  /-- A fault in the words of whoever found it. -/
  | reported (detail : String)
deriving DecidableEq, Repr

/-- The wording of a fault. -/
def RowFault.message : RowFault → String
  | .unknownStatus word => "unknown job status '" ++ word ++ "'"
  | .strayOwner id status =>
    "job " ++ id.text ++ " is " ++ status.text ++ " but has " ++ StateColumn.claimedBy.text ++ " set"
  | .missingColumn id status column =>
    "job " ++ id.text ++ " is " ++ status.text ++ " but " ++ column.text ++ " is null"
  | .negativeAttempts id => "job " ++ id.text ++ " has negative attempts"
  | .reported detail => detail

/-- An error of the job model. -/
inductive JobError
  | validation (fault : SettingFault)
  | invalidId (fault : NameFault)
  /-- A transition that the status does not allow. -/
  | invalidTransition (status : JobStatus) (transition : Transition)
  | corruptRecord (fault : RowFault)
deriving DecidableEq, Repr

/-- The wording of an error. -/
def JobError.message : JobError → String
  | .validation fault => "validation failed: " ++ fault.message
  | .invalidId fault => "invalid identifier: " ++ fault.message
  | .invalidTransition status transition =>
    "invalid transition from " ++ status.text ++ " via " ++ transition.text
  | .corruptRecord fault => "corrupt record: " ++ fault.message

/-- Read a status, as a stored row gives it. -/
def JobStatus.read (word : String) : Except JobError JobStatus :=
  match JobStatus.ofText? word with
  | some status => .ok status
  | none => .error (.corruptRecord (.unknownStatus word))

/-- Read the name of a job. -/
def JobId.read (text : String) : Except JobError JobId :=
  match JobId.ofText? text with
  | some id => .ok id
  | none => .error (.invalidId .malformedJob)

/-- Read the name of a content. -/
def ContentId.read (text : String) : Except JobError ContentId :=
  (ContentId.ofText? text).mapError .invalidId

/-- Read the name of a worker. -/
def WorkerId.read (text : String) : Except JobError WorkerId :=
  (WorkerId.ofText? text).mapError .invalidId

end TimedPublishing
