import TimedPublishing.Retry.Policy

/-!
# Scheduler settings

Settings are what a configuration says, unchecked. A scheduler is built from settings that
pass the checks: a retry table that is not empty, and no delay and no grace above a hundred
years. Within these bounds the time arithmetic of the scheduler cannot go wrong.
-/

namespace TimedPublishing

/-- What a configuration says about scheduling. -/
structure SchedulerSettings where
  /-- How far back a requested publish time may lie, in seconds. -/
  graceSeconds : Nat
  /-- The retry delays in seconds. -/
  backoffSeconds : List Nat
  /-- The attempts a job gets, the first one included. -/
  maxAttempts : Attempts
deriving DecidableEq, Repr

namespace SchedulerSettings

/-- The settings in force when nothing is configured. -/
def standard : SchedulerSettings := ⟨0, RetryPolicy.standardDelays, RetryPolicy.standardBudget⟩

/-- The retry policy of the settings. -/
def policy (settings : SchedulerSettings) : Except JobError RetryPolicy :=
  RetryPolicy.create settings.backoffSeconds settings.maxAttempts

/-- The grace of the settings. -/
def grace (settings : SchedulerSettings) : Except JobError Duration :=
  if longestDelay < settings.graceSeconds then
    .error (.validation (.graceTooLong settings.graceSeconds))
  else .ok (.ofSeconds settings.graceSeconds)

end SchedulerSettings

/-- What the operations go by: when to retry, and how far back a publish time may lie. -/
structure Scheduler where
  policy : RetryPolicy
  grace : Duration

namespace Scheduler

/-- Check settings. The retry table is checked before the grace. -/
def create (settings : SchedulerSettings) : Except JobError Scheduler := do
  let policy ← settings.policy
  let grace ← settings.grace
  return ⟨policy, grace⟩

end Scheduler

/-- An instant lies in the future, with a grace, when it is after the present less the
grace. A grace that reaches back past the start of the calendar lets every instant
pass. -/
def Instant.isFuture (instant : Instant) (grace : Duration) (now : Instant) : Bool :=
  match now.sub? grace with
  | some floor => decide (floor < instant)
  | none => true

/-- An instant that has come: the present itself or an earlier one. -/
def Instant.hasCome (instant now : Instant) : Bool := decide (instant ≤ now)

end TimedPublishing
