import TimedPublishing.Rehearsal.Bench
import TimedPublishing.Rehearsal.Server
import TimedPublishing.Worker.Process

/-!
# A worker process in rehearsal

A worker process on a bench does what its mode asks for: it drains the due jobs once and
prints the summary, or polls for some time. A worker on a rehearsed database first makes
the table and then drains the due jobs.
-/

namespace TimedPublishing.Rehearsal

open Worker

/-- How a worker process ended. -/
inductive Ended
  /-- In order, with what it printed. -/
  | orderly (printed : String)
  | failed (failure : Failure)
  | crashed (detail : String)
deriving DecidableEq, Repr

/-- What a process prints after a pass. -/
def printedSummary (summary : Summary) : String := summary.json ++ "\n"

/-- The end of a process with the outcome of its pass. -/
def Ended.ofPass : Except Failure Summary → Ended
  | .ok summary => .orderly (printedSummary summary)
  | .error failure => .failed failure

/-- The bench of a worker process with its settings. -/
def Bench.ofSettings (world : World) (cycle : Cycle) (settings : PollerSettings) : Bench :=
  .create world cycle settings.interval.millis settings.stopTimeout.millis

/-- Run a worker process on a bench. A process that polls is told to stop after some
milliseconds. -/
def Bench.runWorker (bench : Bench) (mode : Mode) (shutdown : Nat) : Ended × Bench :=
  match mode with
  | .poll => (.orderly "", bench.pollFor shutdown)
  | .runOnce =>
    match bench.trigger with
    | (.finished summary, after) => (.orderly (printedSummary summary), after)
    | (.failed cause, after) => (.failed (.pass bench.cycle.worker cause), after)
    | (.crashed detail, after) => (.crashed detail, after)
    | (.blocked, after) => (.orderly "", after)

/-- Drain the due jobs of a database once, the table made first. -/
def Server.runWorker (server : Server) (cycle : Except Failure Cycle) (present : Instant)
    (publisher : ContentId → PublishReply) : Ended × Server :=
  match server.applySchema with
  | (.error cause, after) => (.failed (.applyingSchema cause), after)
  | (.ok _, after) =>
    match cycle with
    | .error failure => (.failed failure, after)
    | .ok cycle =>
      let (run, last) := cycle.program.run (Server.react present publisher) after
      (((passOutcome cycle.worker run).map Ended.ofPass).getD (.orderly ""), last)

end TimedPublishing.Rehearsal
