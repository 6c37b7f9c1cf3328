import TimedPublishing.Schedule.Error
import TimedPublishing.Settings.Environment
import TimedPublishing.Worker.Mode

/-!
# How a worker process fails

A failure of the process is a chain of texts: what the process was doing, and beneath it
what went wrong, down to the first cause. It is told in one line, or as a report of
several lines with the causes beneath the outermost text.
-/

namespace TimedPublishing.Worker

/-- Why there is no connection to the database. -/
inductive ConnectionFault
  | malformedUrl (fault : Url.Fault)
  /-- No connection came about in time. -/
  | timedOut
deriving DecidableEq, Repr

/-- A fault and its causes. -/
def ConnectionFault.chain : ConnectionFault → List String
  | .malformedUrl fault => ["error with configuration: " ++ fault.message, fault.message]
  | .timedOut => ["pool timed out while waiting for an open connection"]

/-- A job error that lies under an error has its own place in the chain. -/
def causeChain (cause : Option JobError) : List String := (cause.map JobError.message).toList

/-- Why a worker process fails. -/
inductive Failure
  /-- The arguments ask for nothing the process does. -/
  | arguments (fault : ArgumentFault)
  /-- The settings cannot be read. -/
  | settings (cause : SettingsError)
  /-- A setting is missing that the process needs. -/
  | incomplete (cause : SettingsError)
  | connecting (cause : ConnectionFault)
  | applyingSchema (cause : StoreError)
  | scheduler (cause : JobError)
  | pass (worker : WorkerId) (cause : ScheduleError)
deriving DecidableEq, Repr

namespace Failure

/-- The texts of a failure, the outermost first. -/
def chain : Failure → List String
  | arguments fault => [fault.message]
  | settings cause => ["loading configuration", cause.message]
  | incomplete cause => [cause.message]
  | connecting cause => "connecting to Postgres" :: cause.chain
  | applyingSchema cause =>
    ["applying schema", cause.message] ++ causeChain (ScheduleError.store cause).cause?
  | scheduler cause => ["invalid scheduler configuration", cause.message]
  | pass worker cause =>
    ["run-once pass for " ++ worker.text ++ " failed", cause.message] ++ causeChain cause.cause?

/-- The outermost text. -/
def text (failure : Failure) : String := failure.chain.headD ""

/-- The failure in one line. -/
def line (failure : Failure) : String := ": ".intercalate failure.chain

/-- The causes in a report. They are numbered where there are several. -/
def causeLines : List String → List String
  | [] => []
  | [cause] => ["", "Caused by:", "    " ++ cause]
  | causes =>
    ["", "Caused by:"] ++ causes.zipIdx.map fun (cause, index) =>
      "    " ++ toString index ++ ": " ++ cause

/-- The failure as a report. -/
def report (failure : Failure) : List String :=
  ("Error: " ++ failure.text) :: causeLines failure.chain.tail

end Failure

end TimedPublishing.Worker
