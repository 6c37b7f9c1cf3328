import TimedPublishing.Schedule.Settings
import TimedPublishing.Url.Basic

/-!
# Settings of a worker process

The settings of the poller and of the process around it, with the values that are in force
when nothing is configured. A worker that is given no name makes one up when it starts.
-/

namespace TimedPublishing

/-- How a poller runs its cycles. -/
structure PollerSettings where
  /-- The sleep between two cycles. -/
  interval : Delay
  /-- The most jobs that one cycle executes. -/
  maxJobsPerCycle : Nat
  /-- How long a stop waits for the cycle that is going on. -/
  stopTimeout : Delay
  /-- The most that is added to a sleep at random. -/
  jitter : Delay
  /-- The name of the worker, or none if it makes one up. -/
  worker : Option WorkerId
deriving DecidableEq, Repr

/-- The poller settings in force when nothing is configured. -/
def PollerSettings.standard : PollerSettings :=
  ⟨.ofMillis 5000, 50, .ofMillis 30000, .ofMillis 500, none⟩

/-- What a worker process is configured with. -/
structure WorkerSettings where
  /-- The database to keep jobs in; without one they are kept in memory. -/
  databaseUrl : Option String
  publisherUrl : Option Url
  publishTimeout : Delay
  scheduler : SchedulerSettings
  poller : PollerSettings
deriving DecidableEq, Repr

end TimedPublishing
