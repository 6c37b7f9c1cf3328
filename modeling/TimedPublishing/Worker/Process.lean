import TimedPublishing.Json.Value
import TimedPublishing.Store.Memory
import TimedPublishing.Worker.Failure
import TimedPublishing.Worker.Log

/-!
# The work of a worker process

A worker process reads its arguments and its settings, finds a store, and drains the due
jobs: once, or in cycles until it is told to stop. What it does up to the first cycle is a
function of its arguments and its environment alone. The process keeps its jobs in memory
unless it is given a database; a process that finds no database at its url fails.
-/

namespace TimedPublishing

/-- A summary as an object. -/
def Summary.json (summary : Summary) : String :=
  Json.objectOf [Json.member "processed" (toString summary.processed),
    Json.member "succeeded" (toString summary.succeeded),
    Json.member "retried" (toString summary.retried),
    Json.member "failed" (toString summary.failed)]

namespace Worker

/-- A process that is ready for its first cycle. -/
structure Ready where
  mode : Mode
  publisherUrl : Url
  cycle : Cycle
  poller : PollerSettings

/-- The steps of a process that log events and can fail. -/
abbrev Steps (α : Type) : Type := List Event × Except Failure α

/-- Check what the scheduler is to go by. -/
def cycleOf (settings : SchedulerSettings) (worker : WorkerId) (maxJobs : Nat) :
    Except Failure Cycle :=
  match Scheduler.create settings with
  | .ok scheduler => .ok ⟨scheduler, worker, maxJobs⟩
  | .error cause => .error (.scheduler cause)

/-- Why the database at a url cannot be reached. Only the form of the url is looked at:
there is no connection to be had. -/
def unreachable (databaseUrl : String) : ConnectionFault :=
  match Url.parse databaseUrl with
  | .ok _ => .timedOut
  | .error fault => .malformedUrl fault

/-- Get ready with settings. `generated` is the name of a worker that is given none. -/
def prepare (mode : Mode) (settings : WorkerSettings) (generated : WorkerId) : Steps Ready :=
  match settings.requirePublisherUrl with
  | .error cause => ([], .error (.incomplete cause))
  | .ok publisherUrl =>
    match settings.databaseUrl with
    | some url => ([], .error (.connecting (unreachable url)))
    | none =>
      let poller := settings.poller
      let worker := poller.worker.getD generated
      ([.notPersisted], do
        let cycle ← cycleOf settings.scheduler worker poller.maxJobsPerCycle
        return ⟨mode, publisherUrl, cycle, poller⟩)

/-- Read arguments and environment and get ready. -/
def launch (arguments : List String) (environment : Environment) (generated : WorkerId) :
    Steps Ready :=
  match Mode.ofArguments arguments with
  | .error fault => ([], .error (.arguments fault))
  | .ok mode =>
    match environment.settings with
    | .error cause => ([], .error (.settings cause))
    | .ok settings =>
      let (events, ready) := prepare mode settings generated
      (.starting mode (settings.poller.worker.getD generated) :: events, ready)

/-- What a process has to do with in a cycle: its store, the present, and its publisher. -/
structure Surroundings where
  store : Store
  present : Instant
  publisher : ContentId → PublishReply

/-- How the surroundings react to a request. A cycle makes up no names. -/
def Surroundings.react : (call : Call) → Surroundings → Reaction call.Reply × Surroundings
  | .clock, surroundings => (.reply surroundings.present, surroundings)
  | .freshId, surroundings => (.pending, surroundings)
  | .store call, surroundings =>
    let (reply, store) := surroundings.store.answer call
    (.reply reply, { surroundings with store := store })
  | .publish content, surroundings => (.reply (surroundings.publisher content), surroundings)

/-- The surroundings of a process that has just started and has no job yet. -/
def Surroundings.initial (present : Instant) (publisher : ContentId → PublishReply) :
    Surroundings :=
  ⟨.empty, present, publisher⟩

/-- Run a cycle. -/
def Ready.runCycle (ready : Ready) (surroundings : Surroundings) :
    Run (List Execution) × Surroundings :=
  ready.cycle.program.run Surroundings.react surroundings

/-- What a single pass comes to: its summary or the failure of the process. A pass that
crashes or waits comes to nothing. -/
def passOutcome (worker : WorkerId) : Run (List Execution) → Option (Except Failure Summary)
  | .finished executions => some (.ok (.ofExecutions executions))
  | .failed cause => some (.error (.pass worker cause))
  | _ => none

/-- Drain the due jobs once, with the events of the pass. -/
def Ready.runOnce (ready : Ready) (surroundings : Surroundings) : Steps Summary :=
  let (run, _) := ready.runCycle surroundings
  let worker := ready.cycle.worker
  let ended := (Event.ofCycle? worker run).toList
  match passOutcome worker run with
  | some (.ok summary) => (ended ++ [.passFinished worker summary], .ok summary)
  | some (.error failure) => (ended, .error failure)
  | none => (ended, .ok .zero)

end Worker

end TimedPublishing
