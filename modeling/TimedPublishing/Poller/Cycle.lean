import TimedPublishing.Schedule.Execution
import TimedPublishing.Schedule.Run
import TimedPublishing.Schedule.Service

/-!
# The cycles of a poller and their counts

A cycle drains the due jobs, up to the number that the poller allows. It is counted when
it comes to its end: with its summary, or as an error. A cycle that crashes takes the
counting down with it, and one that waits has not ended.

A cycle that ended in an error counts as a cycle and as an error; it has no summary, so it
adds nothing to the counts of jobs.
-/

namespace TimedPublishing

/-- The counts of all cycles of a poller. -/
structure Counters where
  cycles : Nat
  idleCycles : Nat
  processed : Nat
  succeeded : Nat
  retried : Nat
  failed : Nat
  errors : Nat
deriving DecidableEq, Repr

namespace Counters

/-- The counts before the first cycle. -/
def zero : Counters := ⟨0, 0, 0, 0, 0, 0, 0⟩

/-- Count a cycle that came to its end. -/
def record (counters : Counters) (summary : Summary) : Counters :=
  { counters with
    cycles := counters.cycles + 1
    idleCycles := counters.idleCycles + if summary.isIdle then 1 else 0
    processed := counters.processed + summary.processed
    succeeded := counters.succeeded + summary.succeeded
    retried := counters.retried + summary.retried
    failed := counters.failed + summary.failed }

/-- Count a cycle that ended in an error. -/
def recordError (counters : Counters) : Counters :=
  { counters with cycles := counters.cycles + 1, errors := counters.errors + 1 }

end Counters

/-- The cycles of one poller: what they go by, for whom they claim, and how many jobs one
of them executes at most. -/
structure Cycle where
  scheduler : Scheduler
  worker : WorkerId
  maxJobs : Nat

namespace Cycle

/-- What a cycle does. -/
def program (cycle : Cycle) : Program (List Execution) :=
  cycle.scheduler.runDue cycle.worker cycle.maxJobs

end Cycle

/-- Enter a cycle into the counters. -/
def Counters.enter (counters : Counters) : Run (List Execution) → Counters
  | .finished executions => counters.record (.ofExecutions executions)
  | .failed _ => counters.recordError
  | .crashed _ => counters
  | .waiting _ _ => counters

end TimedPublishing
