import TimedPublishing.Poller.Cycle
import TimedPublishing.Worker.Mode

/-!
# What a worker process logs

The events of a worker process, each with its level, the part of the program that it comes
from, and its wording. Which of them are written is decided by a filter: a list of
directives, each of which admits the events of some part of the program from some level
up. For an event the directive that names its origin most closely decides, and of two
that name it alike the later one.
-/

namespace TimedPublishing.Worker

/-- How much an event matters, the gravest first. -/
inductive Level
  | error
  | warn
  | info
  | debug
  | trace
deriving DecidableEq, Repr

namespace Level

/-- All levels, the gravest first. -/
def all : List Level := [error, warn, info, debug, trace]

/-- The name of a level. -/
def text : Level → String
  | error => "ERROR"
  | warn => "WARN"
  | info => "INFO"
  | debug => "DEBUG"
  | trace => "TRACE"

/-- How many levels are graver, and the level itself. -/
def verbosity : Level → Nat
  | error => 1
  | warn => 2
  | info => 3
  | debug => 4
  | trace => 5

end Level

/-- What happens in a worker process. -/
inductive Event
  | starting (mode : Mode) (worker : WorkerId)
  /-- Jobs are kept in memory only. -/
  | notPersisted
  | pollerStarted (worker : WorkerId)
  | cycleIdle (worker : WorkerId)
  | cycleFinished (worker : WorkerId) (summary : Summary)
  | cycleFailed (worker : WorkerId) (cause : ScheduleError)
  | passFinished (worker : WorkerId) (summary : Summary)
deriving DecidableEq, Repr

namespace Event

/-- The event at the end of a cycle. A cycle that crashed or waits has none. -/
def ofCycle? (worker : WorkerId) : Run (List Execution) → Option Event
  | .finished executions =>
    let summary := Summary.ofExecutions executions
    some (if summary.isIdle then .cycleIdle worker else .cycleFinished worker summary)
  | .failed cause => some (.cycleFailed worker cause)
  | _ => none

/-- How much an event matters. -/
def level : Event → Level
  | starting _ _ => .info
  | notPersisted => .warn
  | pollerStarted _ => .info
  | cycleIdle _ => .debug
  | cycleFinished _ summary => if summary.isDegraded then .warn else .info
  | cycleFailed _ _ => .error
  | passFinished _ _ => .info

/-- The part of the program that an event comes from, by the name that directives use. -/
def origin : Event → String
  | pollerStarted _ => "pubsched_infra::runner::poller"
  | cycleIdle _ => "pubsched_infra::runner::poller"
  | cycleFinished _ _ => "pubsched_infra::runner::poller"
  | cycleFailed _ _ => "pubsched_infra::runner::poller"
  | _ => "pubsched_worker"

/-- The wording of an event. -/
def message : Event → String
  | starting _ _ => "starting pubsched worker"
  | notPersisted => "DATABASE_URL not set; using in-memory repository (jobs are not persisted)"
  | pollerStarted _ => "poller started"
  | cycleIdle _ => "poll cycle idle"
  | cycleFinished _ summary =>
    if summary.isDegraded then "poll cycle finished with failures" else "poll cycle finished"
  | cycleFailed _ _ => "poll cycle failed"
  | passFinished _ _ => "run-once pass finished"

/-- What is told beside the wording, by name. -/
def details : Event → List (String × String)
  | starting mode worker => [("mode", mode.word), ("worker_id", worker.text)]
  | notPersisted => []
  | pollerStarted worker => [("worker_id", worker.text)]
  | cycleIdle worker => [("worker_id", worker.text)]
  | cycleFinished worker summary => [("worker_id", worker.text), ("summary", summary.text)]
  | cycleFailed worker cause =>
    [("worker_id", worker.text), ("error", cause.message), ("code", cause.code)]
  | passFinished worker summary => [("worker_id", worker.text), ("summary", summary.text)]

end Event

/-- Admit the events of some part of the program, or of the whole of it, down to a level;
without a level admit none. -/
structure Directive where
  origin : Option String
  verbosity : Nat
deriving DecidableEq, Repr

namespace Directive

/-- The verbosity that a word stands for: the name of a level in letters of either case,
`off`, or a digit. -/
def verbosityOf? (word : String) : Option Nat :=
  let lower := String.ofList (word.toList.map Char.toLower)
  match (Level.all.find? fun level => level.text.toList.map Char.toLower == lower.toList) with
  | some level => some level.verbosity
  | none => if lower = "off" then some 0 else (List.range 6).find? fun digit => toString digit == lower

/-- The characters of an origin. -/
def isOriginChar (character : Char) : Bool :=
  character.isAlphanum || character = '_' || character = '-' || character = ':'

/-- Whether a word can be an origin. -/
def isOrigin (word : String) : Bool := !word.isEmpty && word.toList.all isOriginChar

/-- Read a directive: a level for the whole program, an origin with a level behind an
equals sign, or an origin whose every event is admitted. -/
def ofText? (text : String) : Option Directive :=
  match verbosityOf? text with
  | some verbosity => some ⟨none, verbosity⟩
  | none =>
    let name := String.ofList (text.toList.takeWhile (· ≠ '='))
    let rest := text.toList.dropWhile (· ≠ '=')
    if isOrigin name then
      match rest with
      | [] => some ⟨some name, Level.trace.verbosity⟩
      | _ :: level => (verbosityOf? (String.ofList level)).map fun verbosity => ⟨some name, verbosity⟩
    else none

/-- Whether a directive is about an origin. -/
def covers (directive : Directive) (origin : String) : Bool :=
  match directive.origin with
  | some start => origin.startsWith start
  | none => true

/-- How closely a directive names the origins that it is about. -/
def closeness (directive : Directive) : Nat :=
  match directive.origin with
  | some start => start.length + 1
  | none => 0

/-- The directive that decides of two, the second of which came later. -/
def closer (former later : Directive) : Directive :=
  if former.closeness ≤ later.closeness then later else former

end Directive

/-- Which events are written. -/
abbrev Filter : Type := List Directive

namespace Filter

/-- The filter in force when none, or none that can be read, is asked for. -/
def standard : Filter := [⟨none, Level.info.verbosity⟩]

/-- The filter that an empty text asks for. -/
def errorsOnly : Filter := [⟨none, Level.error.verbosity⟩]

/-- Read a filter: directives separated by commas. -/
def ofText? (text : String) : Option Filter := do
  let directives ← ((text.splitOn ",").filter (· ≠ "")).mapM Directive.ofText?
  return if directives.isEmpty then errorsOnly else directives

/-- The filter that the environment asks for. -/
def ofSetting (setting : Option String) : Filter := ((setting.bind ofText?).getD standard)

/-- Whether an event is written. -/
def admits (filter : Filter) (event : Event) : Bool :=
  match filter.filter fun directive => directive.covers event.origin with
  | [] => false
  | first :: others => decide (event.level.verbosity ≤ (others.foldl Directive.closer first).verbosity)

end Filter

/-- The variable that the filter is read from. -/
def filterVariable : String := "RUST_LOG"

/-- The variable that the log format is read from. -/
def formatVariable : String := "PUBSCHED_LOG_FORMAT"

end TimedPublishing.Worker
