import Std.Time.DateTime.Timestamp
import TimedPublishing.Calendar.Date
import TimedPublishing.Http.Exchange
import TimedPublishing.Worker.Process

/-!
# The worker process

Reads the environment, gets ready, and drains the due jobs once or in cycles. Everything
that is decided is decided elsewhere; here the clock is read, lines are written, and time
passes between two cycles.
-/

namespace TimedPublishing.Worker

/-- The present by the clock of the machine. -/
def present : IO Instant := do
  let now ← Std.Time.Timestamp.now
  return (Instant.ofNanos? now.toNanosecondsSinceUnixEpoch.val).getD .epoch

/-- A name for a worker that is given none. -/
def makeName : IO WorkerId := do
  return .generated (← IO.rand 1 4194304) (← IO.rand 0 4294967295)

/-- The variables of the environment that the process knows. -/
def readEnvironment : IO Environment := do
  let pairs ← Setting.all.filterMapM fun setting => do
    return (← IO.getEnv setting.name).map fun value => (setting.name, value)
  return .ofPairs pairs

/-- An event as a line. -/
def eventLine (format : LogFormat) (time : Instant) (event : Event) : String :=
  match format with
  | .json =>
    let told := ("message", event.message) :: event.details
    Json.objectOf [Json.member "timestamp" (Json.quoted time.text),
      Json.member "level" (Json.quoted event.level.text),
      Json.member "fields"
        (Json.objectOf (told.map fun (name, value) => Json.member name (Json.quoted value)))]
  | .pretty =>
    let told := event.details.map fun (name, value) => ", " ++ name ++ ": " ++ value
    time.text ++ " " ++ event.level.text ++ " " ++ event.message ++ String.join told

/-- Write the events that the filter admits. -/
def log (format : LogFormat) (filter : Filter) (events : List Event) : IO Unit := do
  for event in events.filter filter.admits do
    IO.println (eventLine format (← present) event)
  (← IO.getStdout).flush

/-- Write a report and give the code of a failed process. -/
def reportFailure (failure : Failure) : IO UInt32 := do
  for line in failure.report do
    IO.eprintln line
  return 1

/-- Publish by way of the content service, which no process of this kind can reach. -/
def publisher (ready : Ready) (content : ContentId) : PublishReply :=
  Http.publish ready.publisherUrl content fun _ => .silence

/-- Run cycles until the process is told to stop. -/
partial def pollForever (write : List Event → IO Unit) (ready : Ready)
    (surroundings : Surroundings) : IO Unit := do
  let (run, after) := ready.runCycle { surroundings with present := ← present }
  write (Event.ofCycle? ready.cycle.worker run).toList
  let extra ← IO.rand 0 ready.poller.jitter.millis
  IO.sleep (.ofNat (ready.poller.interval.millis + extra))
  pollForever write ready after

/-- Do what the mode asks for. -/
def work (write : List Event → IO Unit) (ready : Ready) : IO UInt32 := do
  let surroundings := Surroundings.initial (← present) (publisher ready)
  match ready.mode with
  | .poll =>
    write [.pollerStarted ready.cycle.worker]
    pollForever write ready surroundings
    return 0
  | .runOnce =>
    let (events, outcome) := ready.runOnce surroundings
    write events
    match outcome with
    | .error failure => reportFailure failure
    | .ok summary =>
      IO.println summary.json
      return 0

/-- Read what there is to read, get ready, and work. -/
def runProcess (arguments : List String) : IO UInt32 := do
  let filter := Filter.ofSetting (← IO.getEnv filterVariable)
  let format := ((← IO.getEnv formatVariable).map LogFormat.ofText).getD .json
  let (events, ready) := launch arguments (← readEnvironment) (← makeName)
  log format filter events
  match ready with
  | .error failure => reportFailure failure
  | .ok ready => work (log format filter) ready

end TimedPublishing.Worker

/-- The worker process. -/
def main (arguments : List String) : IO UInt32 := TimedPublishing.Worker.runProcess arguments
