import TimedPublishing.Job.Basic

/-!
# Executions and their summary

An execution is what came of one attempt to publish a job. A pass over the due jobs that
found nothing to do reports the single sentinel `noJobs`. A summary counts the executions
of a pass; the sentinel counts for nothing.
-/

namespace TimedPublishing

/-- What came of an attempt. -/
inductive Execution
  | succeeded (job : Job)
  | retryScheduled (job : Job) (error : String)
  | failed (job : Job) (error : String)
  /-- Nothing was there to execute. -/
  | noJobs
deriving DecidableEq, Repr

namespace Execution

/-- The job in its new version. -/
def job? : Execution → Option Job
  | succeeded job => some job
  | retryScheduled job _ => some job
  | failed job _ => some job
  | noJobs => none

/-- The error of an attempt that failed. -/
def error? : Execution → Option String
  | retryScheduled _ error => some error
  | failed _ error => some error
  | _ => none

/-- The attempt published the content. -/
def isSuccess : Execution → Bool
  | succeeded _ => true
  | _ => false

/-- There was no attempt. -/
def isNoJobs : Execution → Bool
  | noJobs => true
  | _ => false

end Execution

/-- The counts of a pass. -/
structure Summary where
  processed : Nat
  succeeded : Nat
  retried : Nat
  failed : Nat
deriving DecidableEq, Repr

namespace Summary

/-- The summary of no execution. -/
def zero : Summary := ⟨0, 0, 0, 0⟩

/-- Count one execution. -/
def record (summary : Summary) : Execution → Summary
  | .succeeded _ =>
    { summary with processed := summary.processed + 1, succeeded := summary.succeeded + 1 }
  | .retryScheduled _ _ =>
    { summary with processed := summary.processed + 1, retried := summary.retried + 1 }
  | .failed _ _ =>
    { summary with processed := summary.processed + 1, failed := summary.failed + 1 }
  | .noJobs => summary

/-- Count the executions of a pass. -/
def ofExecutions (executions : List Execution) : Summary := executions.foldl record zero

/-- The pass found nothing to do. -/
def isIdle (summary : Summary) : Bool := summary.processed == 0

/-- Some execution did not publish. -/
def isDegraded (summary : Summary) : Bool := decide (0 < summary.retried + summary.failed)

/-- The summary in one line. -/
def text (summary : Summary) : String :=
  if summary.isIdle then "idle"
  else
    "processed=" ++ toString summary.processed ++ " succeeded=" ++ toString summary.succeeded ++
      " retried=" ++ toString summary.retried ++ " failed=" ++ toString summary.failed

end Summary

end TimedPublishing
