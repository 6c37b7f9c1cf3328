import TimedPublishing.Poller.Cycle
import TimedPublishing.Poller.Lifecycle
import TimedPublishing.Rehearsal.World

/-!
# A poller in rehearsal

A bench holds a poller in a rehearsed world. The time of its sleeps is counted in
milliseconds and passes only where an operation says so; it is apart from the clock of the
world. Between two operations the poller's loop is let go until it waits: for its sleep
to end, for the publisher, or for the lock. Cycles take no time, so within one moment a
loop that sleeps for some time begins at most one cycle, and `settle` lets it go once.
-/

namespace TimedPublishing.Rehearsal

open Poller

/-- A poller in a rehearsed world. -/
structure Bench where
  world : World
  cycle : Cycle
  /-- The sleep between two cycles, in milliseconds. -/
  interval : Nat
  /-- How long a stop waits, in milliseconds. -/
  stopTimeout : Nat
  lifecycle : Lifecycle
  counters : Counters
  /-- The milliseconds that have passed. -/
  elapsed : Nat
  /-- When the sleep of the loop ends. -/
  wakeAt : Nat
  /-- What is left of the loop's cycle once a publisher that waits gets its permit. -/
  left : Option (Program (List Execution))

/-- What came of a cycle that was asked for from outside. -/
inductive Triggered
  | finished (summary : Summary)
  | failed (cause : ScheduleError)
  | crashed (detail : String)
  /-- The cycle could not end, and was given up where it waited. -/
  | blocked
deriving DecidableEq, Repr

namespace Bench

/-- A poller that was never started. -/
def create (world : World) (cycle : Cycle) (interval stopTimeout : Nat) : Bench :=
  ⟨world, cycle, interval, stopTimeout, .idle, .zero, 0, 0, none⟩

/-- Let an event happen to the poller, if it can. -/
def happen (bench : Bench) (event : Event) : Bench :=
  match bench.lifecycle.step event with
  | some (after, _) => { bench with lifecycle := after }
  | none => bench

/-- The name of the loop that was started last. -/
def current (bench : Bench) : Nat := bench.lifecycle.loops.length - 1

/-- Where the loop that was started last stands. -/
def phase? (bench : Bench) : Option Phase :=
  bench.lifecycle.loops.getLast?.map Loop.phase

/-- Whether the loop that was started last was told to stop. -/
def isSignalled (bench : Bench) : Bool :=
  bench.lifecycle.loops.getLast?.any Loop.signalled

/-- Let a loop that leaves come to its end. -/
def windUp (bench : Bench) : Bench :=
  (bench.happen (.close bench.current)).happen (.complete bench.current)

/-- Go on with the loop's cycle, and enter what comes of it. -/
def proceed (bench : Bench) (program : Program (List Execution)) : Bench :=
  let (run, world) := bench.world.perform program
  let entered := { bench with world := world, counters := bench.counters.enter run, left := none }
  match run with
  | .crashed _ => (entered.happen (.crash bench.current)).windUp
  | .waiting _ _ => { entered with left := run.afterPublish .published }
  | _ => { entered.happen (.finish bench.current) with wakeAt := bench.elapsed + bench.interval }

/-- Hand a permit to the publisher that the loop's cycle waits for. -/
def permit (bench : Bench) : Bench :=
  match bench.left with
  | some program =>
    if bench.world.permit then
      { bench with world := { bench.world with permit := false } }.proceed program
    else bench
  | none => bench

/-- End the loop's sleep, if the loop was told to stop or its time is over. -/
def wake (bench : Bench) : Bench :=
  if bench.phase? = some .sleeping then
    if bench.isSignalled then bench.happen (.notice bench.current)
    else if bench.wakeAt ≤ bench.elapsed then bench.happen (.wake bench.current)
    else bench
  else bench

/-- Begin the loop's cycle, if the loop waits for the lock and gets it. -/
def begin (bench : Bench) : Bench :=
  if bench.phase? = some .queued ∧ bench.lifecycle.lock = none then
    (bench.happen (.begin bench.current)).proceed bench.cycle.program
  else bench

/-- Let the loop go until it waits. -/
def settle (bench : Bench) : Bench :=
  let awake := bench.permit.wake
  (awake.happen (.look awake.current)).windUp.begin

/-- Let time pass up to a moment, and the loop wake as often as it sleeps shorter than
that. The number of its cycles is bounded by `fuel`. -/
def passUntil (moment : Nat) : Nat → Bench → Bench
  | 0, bench => { bench with elapsed := moment }
  | fuel + 1, bench =>
    if bench.phase? = some .sleeping ∧ bench.wakeAt ≤ moment then
      passUntil moment fuel { bench with elapsed := max bench.elapsed bench.wakeAt }.settle
    else { bench with elapsed := moment }

/-- Let some milliseconds pass. A sleep takes a millisecond at least, so there are no more
cycles than milliseconds, and one that was due. -/
def pass (bench : Bench) (millis : Nat) : Bench :=
  (passUntil (bench.elapsed + millis) (millis + 1) bench).settle

/-- Give a permit. One that nobody waits for lies ready; a second one is lost. -/
def release (bench : Bench) : Bench :=
  { bench with world := { bench.world with permit := true } }.settle

/-- Start the loop. -/
def start (bench : Bench) : Bool × Bench :=
  let (lifecycle, made) := bench.lifecycle.start
  (made, { bench with lifecycle := lifecycle })

/-- A waiting stop looks whether the task of its handle is finished. -/
def join (bench : Bench) (caller : Nat) : Option Bool × Bench :=
  match bench.lifecycle.step (.joined caller) with
  | some (after, answer) => (answer, { bench with lifecycle := after })
  | none => (none, bench)

/-- A stop that found no handle looks again, at once. -/
def check (bench : Bench) (caller : Nat) : Option Bool × Bench :=
  match bench.lifecycle.step (.checked caller) with
  | some (after, answer) => (answer, { bench with lifecycle := after })
  | none => (none, bench)

/-- The time of a waiting stop runs out. -/
def expire (bench : Bench) (caller : Nat) : Bool × Bench := (false, bench.happen (.timedOut caller))

/-- Ask to stop, and wait no time at all. Without an answer the stop waits. -/
def askToStop (bench : Bench) (caller : Nat) : Option Bool × Bench :=
  match bench.lifecycle.stop caller with
  | (after, some answer) => (some answer, { bench with lifecycle := after })
  | (after, none) =>
    match { bench with lifecycle := after }.check caller with
    | (some answer, checked) => (some answer, checked)
    | (none, asked) =>
      match asked.join caller with
      | (some answer, joined) => (some answer, joined)
      | (none, waiting) =>
        if bench.stopTimeout = 0 then
          let (answer, expired) := waiting.expire caller
          (some answer, expired)
        else (none, waiting)

/-- Let the loop go, and look whether it has ended. -/
def settleAndJoin (bench : Bench) (caller : Nat) : Option Bool × Bench := bench.settle.join caller

/-- Wait for the loop to end, up to a number of milliseconds. -/
def awaitEnd (bench : Bench) (caller : Nat) (millis : Nat) : Bool × Bench :=
  match bench.settleAndJoin caller with
  | (some answer, joined) => (answer, joined)
  | (none, waiting) =>
    match (waiting.pass millis).join caller with
    | (some answer, joined) => (answer, joined)
    | (none, late) => late.expire caller

/-- Stop the loop. -/
def stop (bench : Bench) : Bool × Bench :=
  match bench.askToStop 0 with
  | (some answer, after) => (answer, after)
  | (none, waiting) => waiting.awaitEnd 0 waiting.stopTimeout

/-- Start the loop and stop it before it takes its first step. -/
def startAndStop (bench : Bench) : (Bool × Bool) × Bench :=
  let (started, running) := bench.start
  let (stopped, after) := running.stop
  ((started, stopped), after)

/-- Stop the loop from two places at once. -/
def stopTwice (bench : Bench) : (Bool × Bool) × Bench :=
  let (first, asked) := bench.askToStop 0
  let (second, both) := asked.askToStop 1
  let (firstAnswer, after) :=
    match first with
    | some answer => (answer, both)
    | none => both.awaitEnd 0 both.stopTimeout
  match second with
  | some answer => ((firstAnswer, answer), after)
  | none =>
    let (secondAnswer, last) := after.awaitEnd 1 after.stopTimeout
    ((firstAnswer, secondAnswer), last)

/-- When the permit of `stopAndRelease` is given, in milliseconds after the stop. -/
def releaseDelay : Nat := 10

/-- Stop the loop, and give a permit a little later. -/
def stopAndRelease (bench : Bench) : Bool × Bench :=
  let (asked, waiting) := bench.askToStop 0
  let (early, settled) :=
    match asked with
    | some answer => (some answer, waiting)
    | none => waiting.settleAndJoin 0
  match early with
  | some answer => (answer, (settled.pass releaseDelay).release)
  | none =>
    if settled.stopTimeout ≤ releaseDelay then
      let (answer, expired) := settled.awaitEnd 0 settled.stopTimeout
      (answer, (expired.pass (releaseDelay - expired.stopTimeout)).release)
    else
      let released := (settled.pass releaseDelay).release
      released.awaitEnd 0 (released.stopTimeout - releaseDelay)

/-- How long a cycle from outside is waited for when it cannot end, in milliseconds. -/
def triggerPatience : Nat := 1

/-- Run a cycle from outside. It needs the lock; where it cannot get it, or where its
publisher waits, it is given up after a moment. -/
def trigger (bench : Bench) : Triggered × Bench :=
  if bench.lifecycle.lock = none then
    let locked := bench.happen (.triggerBegin 0)
    let (run, world) := locked.world.perform locked.cycle.program
    let entered := { locked with world := world, counters := locked.counters.enter run }
    match run with
    | .finished executions => (.finished (.ofExecutions executions), entered.happen (.triggerEnd 0))
    | .failed cause => (.failed cause, entered.happen (.triggerEnd 0))
    | .crashed detail => (.crashed detail, entered.happen (.triggerEnd 0))
    | .waiting _ _ => (.blocked, (entered.pass triggerPatience).happen (.triggerEnd 0))
  else (.blocked, bench.pass triggerPatience)

/-- Start the loop, let some milliseconds pass, and stop it. -/
def pollFor (bench : Bench) (millis : Nat) : Bench :=
  let (_, started) := bench.start
  let polled := if millis = 0 then started else started.settle.pass millis
  polled.stop.2

/-- Whether the loop is alive. -/
def isRunning (bench : Bench) : Bool := bench.lifecycle.isRunning

end Bench

end TimedPublishing.Rehearsal
