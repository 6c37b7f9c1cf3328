import TimedPublishing.Json.Value
import TimedPublishing.Settings.Worker

/-!
# Settings from JSON

A group of settings is an object with a member for each setting, all of them optional and
others ignored, but none given twice; or an array with the settings in their order, of
which the last ones may be missing. Numbers are whole and fit their fields. A delay is an
object with exactly the members `secs` and `nanos`, or an array of the two. Only the form is
checked here: whether the values make sense together is another question.
-/

namespace TimedPublishing.Json

/-- A reader of one kind of value. -/
abbrev Reader (α : Type) : Type := Value → Option α

/-- A whole number of at most `limit`. -/
def upTo (limit : Nat) : Reader Nat
  | .natural value => if value ≤ limit then some value else none
  | _ => none

/-- A text. -/
def text : Reader String
  | .string content => content.map String.ofList
  | _ => none

/-- A list. -/
def listOf {α : Type} (reader : Reader α) : Reader (List α)
  | .array items => items.mapM reader
  | _ => none

/-- The values of the named members, in the order of the names: none for a member that is
missing. A name that is no text and a named member that is repeated are refused; a member
without such a name is refused only if `closed`. -/
def named? (closed : Bool) (names : List String)
    (members : List (Option (List Char) × Value)) : Option (List (Option Value)) := do
  let texts ← members.mapM fun (name, value) => do return (String.ofList (← name), value)
  if closed && texts.any fun member => !names.contains member.1 then none
  else
    names.mapM fun name =>
      match texts.filter fun member => member.1 == name with
      | [] => some none
      | [member] => some (some member.2)
      | _ => none

/-- The values of a group in the order of its names. -/
def fields? (closed : Bool) (names : List String) : Value → Option (List (Option Value))
  | .object members => named? closed names members
  | .array items =>
    if items.length ≤ names.length then
      some (items.map some ++ List.replicate (names.length - items.length) none)
    else none
  | _ => none

/-- Read a value that may be missing. -/
def orElse {α : Type} (standard : α) (reader : Reader α) : Option Value → Option α
  | some value => reader value
  | none => some standard

/-- A delay: whole seconds and nanoseconds, which carry over into the seconds. -/
def delay : Reader Delay := fun value => do
  let [some secondsValue, some nanosValue] ← fields? true ["secs", "nanos"] value | none
  let seconds ← upTo Text.maxWord64 secondsValue
  let nanos ← upTo Text.maxWord32 nanosValue
  let length := Delay.ofParts seconds nanos
  if length.seconds ≤ Text.maxWord64 then return length else none

/-- A count of attempts. -/
def attempts : Reader Attempts := fun value => do Attempts.ofNat? (← upTo Text.maxWord32 value)

/-- The settings of the scheduler. -/
def schedulerSettings : Reader SchedulerSettings := fun value => do
  let [grace, backoff, budget] ←
    fields? false ["grace_seconds", "backoff_seconds", "max_attempts"] value | none
  let standard := SchedulerSettings.standard
  return {
    graceSeconds := ← orElse standard.graceSeconds (upTo Text.maxWord64) grace
    backoffSeconds := ← orElse standard.backoffSeconds (listOf (upTo Text.maxWord64)) backoff
    maxAttempts := ← orElse standard.maxAttempts attempts budget }

/-- The name of a worker, which is not checked. -/
def workerId : Reader WorkerId := fun value => (text value).map WorkerId.mk

/-- The name of a content, which is not checked. -/
def contentId : Reader ContentId := fun value => (text value).map ContentId.mk

/-- The name of a job in one of its written forms. -/
def jobId : Reader JobId := fun value => do JobId.ofText? (← text value)

/-- The settings of the poller. -/
def pollerSettings : Reader PollerSettings := fun value => do
  let [interval, maxJobs, stopTimeout, jitter, worker] ←
    fields? false ["interval", "max_jobs_per_cycle", "stop_timeout", "jitter", "worker_id"] value
    | none
  let standard := PollerSettings.standard
  return {
    interval := ← orElse standard.interval delay interval
    maxJobsPerCycle := ← orElse standard.maxJobsPerCycle (upTo Text.maxWord64) maxJobs
    stopTimeout := ← orElse standard.stopTimeout delay stopTimeout
    jitter := ← orElse standard.jitter delay jitter
    worker := ← orElse standard.worker (fun name => (workerId name).map some) worker }

end TimedPublishing.Json
