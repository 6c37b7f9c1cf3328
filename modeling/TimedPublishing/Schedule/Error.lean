import TimedPublishing.Store.Call

/-!
# Errors of the scheduler

An error is either a refusal of what the caller asked, or something that went wrong
underneath: in the store or in the job model. Each has a stable code, so that a caller
need not read the wording.
-/

namespace TimedPublishing

/-- Why a scheduling operation did not give its result. -/
inductive ScheduleError
  /-- The requested publish time is not in the future. -/
  | publishTimePast (publishAt : Instant)
  | jobNotFound (id : JobId)
  | cannotCancel (id : JobId) (status : JobStatus)
  | cannotReschedule (id : JobId) (status : JobStatus)
  /-- Another job already has the requested intent. -/
  | scheduleConflict (key : JobKey) (existing : JobId)
  | jobNotRunning (id : JobId) (status : JobStatus)
  | notYetDue (id : JobId) (publishAt : Instant)
  | store (cause : StoreError)
  | job (cause : JobError)
deriving DecidableEq, Repr

namespace ScheduleError

/-- The wording of an error. -/
def message : ScheduleError → String
  | publishTimePast publishAt => "publish time " ++ publishAt.text ++ " is in the past"
  | jobNotFound id => "job not found: " ++ id.text
  | cannotCancel id status => "job " ++ id.text ++ " cannot be cancelled while " ++ status.text
  | cannotReschedule id status =>
    "job " ++ id.text ++ " cannot be rescheduled while " ++ status.text
  | scheduleConflict key existing =>
    "content " ++ key.content.text ++ " is already scheduled at " ++ key.publishAt.text ++
      " by job " ++ existing.text
  | jobNotRunning id status => "job " ++ id.text ++ " is " ++ status.text ++ ", expected running"
  | notYetDue id publishAt => "job " ++ id.text ++ " is not due until " ++ publishAt.text
  | store cause => cause.message
  | job cause => cause.message

/-- The stable code of an error. -/
def code : ScheduleError → String
  | publishTimePast _ => "publish_time_past"
  | jobNotFound _ => "job_not_found"
  | cannotCancel _ _ => "cannot_cancel"
  | cannotReschedule _ _ => "cannot_reschedule"
  | scheduleConflict _ _ => "schedule_conflict"
  | jobNotRunning _ _ => "job_not_running"
  | notYetDue _ _ => "not_yet_due"
  | store _ => "repository_error"
  | job (.invalidTransition _ _) => "invalid_transition"
  | job _ => "domain_error"

/-- Whether the caller's request was refused, as opposed to a failure underneath. -/
def isRefusal : ScheduleError → Bool
  | store _ => false
  | job _ => false
  | _ => true

/-- What lies under an error, if it wraps something that wraps something again. The
wording of an error already covers its cause; only a corrupt row has one of its own. -/
def cause? : ScheduleError → Option JobError
  | store (.corrupt fault) => some fault
  | _ => none

end ScheduleError

end TimedPublishing
