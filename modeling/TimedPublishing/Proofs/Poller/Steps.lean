import TimedPublishing.Poller.Lifecycle

/-!
# What can happen to a poller

Every event of a poller has a few outcomes, and `Lifecycle.Step` lists them with what each needs and
what it leaves. A run is a sequence of events with their answers, in any order that the events
allow: callers may start, stop and ask for cycles from many places at once, loops take their steps
when they like, and time runs out whenever it does.

What a run does to one loop is a walk through a small graph. `Loop.Turn` has its edges; a loop
enters the graph when it is made and never leaves it, and what it does is read off its own events.
Once a loop has left, only two edges are before it: its channel is closed, and its task finished.
-/

namespace TimedPublishing.Poller

/-- An event with what it answered. -/
structure Occurrence where
  event : Event
  answer : Option Bool
deriving DecidableEq

namespace Event

/-- The loop that an event is a step of. -/
def loop? : Event → Option Nat
  | look name => some name
  | begin name => some name
  | finish name => some name
  | crash name => some name
  | wake name => some name
  | notice name => some name
  | close name => some name
  | complete name => some name
  | _ => none

/-- The caller whose stop an event answers. -/
def answers? : Event → Option Nat
  | joined caller => some caller
  | timedOut caller => some caller
  | checked caller => some caller
  | _ => none

/-- Whose cycle begins with an event. -/
def begins? : Event → Option Holder
  | begin name => some (.loop name)
  | triggerBegin caller => some (.trigger caller)
  | _ => none

/-- Whose cycle is over with an event. -/
def ends? : Event → Option Holder
  | finish name => some (.loop name)
  | crash name => some (.loop name)
  | triggerEnd caller => some (.trigger caller)
  | _ => none

/-- The cycle of a loop begins with one kind of event. -/
theorem eq_of_begins {event : Event} {name : Nat} (begins : event.begins? = some (.loop name)) :
    event = .begin name := by
  cases event <;> cases begins
  rfl

/-- The cycle of a loop is over with two kinds of events. -/
theorem eq_of_ends {event : Event} {name : Nat} (ends : event.ends? = some (.loop name)) :
    event = .finish name ∨ event = .crash name := by
  cases event <;> cases ends
  · exact Or.inl rfl
  · exact Or.inr rfl

/-- The cycle of a loop is over by a step of that loop. -/
theorem loop?_of_ends {event : Event} {name : Nat} (ends : event.ends? = some (.loop name)) :
    event.loop? = some name := by
  cases event <;> cases ends <;> rfl

end Event

/-- A loop that waits for the lock or has it. -/
def Loop.isBusy (loop : Loop) : Bool :=
  match loop.phase with
  | .queued => true
  | .cycling => true
  | _ => false

/-- A loop that is through with its cycles. -/
def Loop.hasLeft (loop : Loop) : Bool :=
  match loop.phase with
  | .leaving _ => true
  | .closed _ => true
  | .finished _ => true
  | _ => false

/-- What an event makes of the loop with a name. -/
inductive Loop.Turn (name : Nat) : Event → Loop → Loop → Prop
  | stays {event : Event} {loop : Loop} (other : event.loop? ≠ some name) :
    Turn name event loop loop
  | told {caller : Nat} {loop : Loop} :
    Turn name (.stop caller) loop { loop with signalled := true }
  | left : Turn name (.look name) ⟨.ready, true⟩ ⟨.leaving .orderly, true⟩
  | entered : Turn name (.look name) ⟨.ready, false⟩ ⟨.queued, false⟩
  | begun {signalled : Bool} : Turn name (.begin name) ⟨.queued, signalled⟩ ⟨.cycling, signalled⟩
  | finished {signalled : Bool} :
    Turn name (.finish name) ⟨.cycling, signalled⟩ ⟨.sleeping, signalled⟩
  | crashed {signalled : Bool} :
    Turn name (.crash name) ⟨.cycling, signalled⟩ ⟨.leaving .crashed, signalled⟩
  | woken {signalled : Bool} : Turn name (.wake name) ⟨.sleeping, signalled⟩ ⟨.ready, signalled⟩
  | noticed : Turn name (.notice name) ⟨.sleeping, true⟩ ⟨.ready, true⟩
  | deserted : Turn name (.notice name) ⟨.sleeping, false⟩ ⟨.leaving .orderly, false⟩
  | closed {ending : Ending} {signalled : Bool} :
    Turn name (.close name) ⟨.leaving ending, signalled⟩ ⟨.closed ending, signalled⟩
  | completed {ending : Ending} {signalled : Bool} :
    Turn name (.complete name) ⟨.closed ending, signalled⟩ ⟨.finished ending, signalled⟩

namespace Loop.Turn

variable {name : Nat} {event : Event} {loop next : Loop}

/-- A loop that has left does not come back, and takes two kinds of steps at most. -/
theorem hasLeft (turn : Turn name event loop next) (left : loop.hasLeft = true) :
    next.hasLeft = true ∧
      (event.loop? = some name → event = .close name ∨ event = .complete name) := by
  cases turn with
  | stays other => exact ⟨left, fun own => absurd own other⟩
  | told => exact ⟨left, nofun⟩
  | closed => exact ⟨rfl, fun _ => Or.inl rfl⟩
  | completed => exact ⟨rfl, fun _ => Or.inr rfl⟩
  | left => cases left
  | entered => cases left
  | begun => cases left
  | finished => cases left
  | crashed => cases left
  | woken => cases left
  | noticed => cases left
  | deserted => cases left

/-- A loop whose channel is closed never lives again. -/
theorem isAlive_eq_false (turn : Turn name event loop next) (dead : loop.isAlive = false) :
    next.isAlive = false := by
  cases turn with
  | stays => exact dead
  | told => exact dead
  | closed => rfl
  | completed => rfl
  | left => cases dead
  | entered => cases dead
  | begun => cases dead
  | finished => cases dead
  | crashed => cases dead
  | woken => cases dead
  | noticed => cases dead
  | deserted => cases dead

/-- A loop is told to stop for good. -/
theorem signalled (turn : Turn name event loop next) (told : loop.signalled = true) :
    next.signalled = true := by
  cases turn <;> first | exact told | rfl

/-- A loop that was told to stop asks for the lock no more. One that waits for it or has it does so
until its cycle is over. -/
theorem isBusy_iff (turn : Turn name event loop next) (told : loop.signalled = true) :
    next.isBusy = true ↔ loop.isBusy = true ∧ event.ends? ≠ some (.loop name) := by
  cases turn with
  | stays other =>
    have goesOn : event.ends? ≠ some (.loop name) := fun ends => other (Event.loop?_of_ends ends)
    simp [goesOn]
  | told => simp [Loop.isBusy, Event.ends?]
  | left => simp [Loop.isBusy]
  | entered => cases told
  | begun => simp [Loop.isBusy, Event.ends?]
  | finished => simp [Loop.isBusy, Event.ends?]
  | crashed => simp [Loop.isBusy, Event.ends?]
  | woken => simp [Loop.isBusy]
  | noticed => simp [Loop.isBusy]
  | deserted => cases told
  | closed => simp [Loop.isBusy]
  | completed => simp [Loop.isBusy]

/-- A loop that was told to stop can begin the cycle that it waits for and no other: a begin takes
it out of the queue for the lock, and nothing puts it back. -/
theorem begins_le (turn : Turn name event loop next) (told : loop.signalled = true) :
    (if next.phase = .queued then 1 else 0) + (if event = .begin name then 1 else 0) ≤
      if loop.phase = .queued then 1 else 0 := by
  cases turn with
  | stays other =>
    have different : event ≠ .begin name := fun begins => other (begins ▸ rfl)
    simp [different]
  | entered => cases told
  | deserted => cases told
  | _ => simp

/-- A loop that has not looked at its signal stays ready to look. -/
theorem ready (turn : Turn name event loop next) (ready : loop.phase = .ready)
    (unlooked : event ≠ .look name) : next.phase = .ready := by
  cases turn with
  | stays => exact ready
  | told => exact ready
  | left => exact absurd rfl unlooked
  | entered => exact absurd rfl unlooked
  | begun => cases ready
  | finished => cases ready
  | crashed => cases ready
  | woken => cases ready
  | noticed => cases ready
  | deserted => cases ready
  | closed => cases ready
  | completed => cases ready

end Loop.Turn

namespace Lifecycle

/-- Whether a loop waits for the lock or has it; a name that no loop has belongs to none. -/
def isBusy (state : Lifecycle) (name : Nat) : Bool :=
  match state.loops[name]? with
  | some loop => loop.isBusy
  | none => false

/-- The outcomes of an event: what it needs, what it answers, and what it leaves. -/
inductive Step (state : Lifecycle) : Event → Option Bool → Lifecycle → Prop
  | refused (running : state.isRunning = true) : Step state .start (some false) state
  | started (resting : state.isRunning = false) :
    Step state .start (some true)
      { state with
        loops := state.loops ++ [⟨.ready, false⟩]
        slot := some ⟨state.loops.length, some ⟨state.loops.length⟩⟩ }
  | nothing {caller : Nat} (free : state.waiter? caller = none) (empty : state.slot = none) :
    Step state (.stop caller) (some true) state
  | signalled {caller : Nat} {slot : Slot} (free : state.waiter? caller = none)
      (recorded : state.slot = some slot) :
    Step state (.stop caller) none
      { state.update slot.loop fun loop => { loop with signalled := true } with
        slot := some { slot with handle := none }
        waiters := state.waiters ++ [⟨caller, slot.loop, slot.handle⟩] }
  | joined {caller : Nat} {waiter : Waiter} {handle : Handle} {ending : Ending}
      (waits : state.waiter? caller = some waiter) (holds : waiter.handle = some handle)
      (finished : state.ending? handle = some ending) :
    Step state (.joined caller) (some (ending == .orderly)) (state.dismiss caller).clearEnded
  | timedOut {caller : Nat} {waiter : Waiter} {handle : Handle}
      (waits : state.waiter? caller = some waiter) (holds : waiter.handle = some handle) :
    Step state (.timedOut caller) (some false) ((state.dismiss caller).putBack handle)
  | checked {caller : Nat} {waiter : Waiter} (waits : state.waiter? caller = some waiter)
      (lacks : waiter.handle = none) :
    Step state (.checked caller) (some (!state.isRunning)) (state.dismiss caller)
  | left {name : Nat} (found : state.loops[name]? = some ⟨.ready, true⟩) :
    Step state (.look name) none (state.place name (.leaving .orderly))
  | entered {name : Nat} (found : state.loops[name]? = some ⟨.ready, false⟩) :
    Step state (.look name) none (state.place name .queued)
  | begun {name : Nat} {signalled : Bool} (found : state.loops[name]? = some ⟨.queued, signalled⟩)
      (free : state.lock = none) :
    Step state (.begin name) none { state.place name .cycling with lock := some (.loop name) }
  | finished {name : Nat} (held : state.lock = some (.loop name)) :
    Step state (.finish name) none { state.place name .sleeping with lock := none }
  | crashed {name : Nat} (held : state.lock = some (.loop name)) :
    Step state (.crash name) none { state.place name (.leaving .crashed) with lock := none }
  | woken {name : Nat} {signalled : Bool}
      (found : state.loops[name]? = some ⟨.sleeping, signalled⟩) :
    Step state (.wake name) none (state.place name .ready)
  | noticed {name : Nat} (found : state.loops[name]? = some ⟨.sleeping, true⟩) :
    Step state (.notice name) none (state.place name .ready)
  | deserted {name : Nat} (found : state.loops[name]? = some ⟨.sleeping, false⟩)
      (nobody : state.canSignal name = false) :
    Step state (.notice name) none (state.place name (.leaving .orderly))
  | closed {name : Nat} {ending : Ending} {signalled : Bool}
      (found : state.loops[name]? = some ⟨.leaving ending, signalled⟩) :
    Step state (.close name) none (state.place name (.closed ending))
  | completed {name : Nat} {ending : Ending} {signalled : Bool}
      (found : state.loops[name]? = some ⟨.closed ending, signalled⟩) :
    Step state (.complete name) none (state.place name (.finished ending))
  | triggered {caller : Nat} (free : state.lock = none) :
    Step state (.triggerBegin caller) none { state with lock := some (.trigger caller) }
  | released {caller : Nat} (held : state.lock = some (.trigger caller)) :
    Step state (.triggerEnd caller) none { state with lock := none }

/-- Whatever happens is one of the outcomes. -/
theorem step_cases {state after : Lifecycle} {event : Event} {answer : Option Bool}
    (happens : state.step event = some (after, answer)) : state.Step event answer after := by
  cases event with
  | start =>
    simp only [step, start] at happens
    split at happens
    · next running =>
      cases happens
      exact .refused running
    · next resting =>
      cases happens
      exact .started (by simpa using resting)
  | stop caller =>
    simp only [step] at happens
    split at happens
    · cases happens
    · next free =>
      have none : state.waiter? caller = none := by simpa using free
      unfold stop at happens
      split at happens
      · next empty =>
        cases happens
        exact .nothing none empty
      · next slot recorded =>
        cases happens
        exact .signalled none recorded
  | joined caller =>
    simp only [step, join, Option.map_eq_some_iff, Option.bind_eq_bind,
      Option.bind_eq_some_iff] at happens
    obtain ⟨_, ⟨waiter, waits, handle, holds, ending, finished, joins⟩, same⟩ := happens
    cases joins
    cases same
    exact .joined waits holds finished
  | timedOut caller =>
    simp only [step, expire, Option.map_eq_some_iff, Option.bind_eq_bind,
      Option.bind_eq_some_iff] at happens
    obtain ⟨_, ⟨waiter, waits, handle, holds, expires⟩, same⟩ := happens
    cases expires
    cases same
    exact .timedOut waits holds
  | checked caller =>
    simp only [step, check, Option.map_eq_some_iff, Option.bind_eq_bind, Option.bind_eq_some_iff,
      Option.filter_eq_some_iff] at happens
    obtain ⟨_, ⟨waiter, ⟨waits, lacks⟩, checks⟩, same⟩ := happens
    cases checks
    cases same
    exact .checked waits (by simpa using lacks)
  | look name =>
    simp only [step] at happens
    split at happens
    · next found =>
      cases happens
      exact .left found
    · next found =>
      cases happens
      exact .entered found
    · cases happens
  | begin name =>
    simp only [step] at happens
    split at happens
    · next found free =>
      cases happens
      exact .begun found free
    · cases happens
  | finish name =>
    simp only [step] at happens
    split at happens
    · next held =>
      cases happens
      exact .finished held
    · cases happens
  | crash name =>
    simp only [step] at happens
    split at happens
    · next held =>
      cases happens
      exact .crashed held
    · cases happens
  | wake name =>
    simp only [step] at happens
    split at happens
    · next found =>
      cases happens
      exact .woken found
    · cases happens
  | notice name =>
    simp only [step] at happens
    split at happens
    · next found =>
      cases happens
      exact .noticed found
    · next found =>
      split at happens
      · cases happens
      · next nobody =>
        cases happens
        exact .deserted found (by simpa using nobody)
    · cases happens
  | close name =>
    simp only [step] at happens
    split at happens
    · next found =>
      cases happens
      exact .closed found
    · cases happens
  | complete name =>
    simp only [step] at happens
    split at happens
    · next found =>
      cases happens
      exact .completed found
    · cases happens
  | triggerBegin caller =>
    simp only [step] at happens
    split at happens
    · next free =>
      cases happens
      exact .triggered free
    · cases happens
  | triggerEnd caller =>
    simp only [step] at happens
    split at happens
    · next held =>
      cases happens
      exact .released held
    · cases happens

/-- Events happen to a poller one after the other, each with its answer, and lead it from one state
to another. -/
def Run (state : Lifecycle) : List Occurrence → Lifecycle → Prop
  | [], present => present = state
  | occurrence :: later, present =>
    ∃ after, state.step occurrence.event = some (after, occurrence.answer) ∧
      after.Run later present

/-- A run can be cut between any two of its events. -/
theorem run_append {state present : Lifecycle} {earlier later : List Occurrence} :
    state.Run (earlier ++ later) present ↔
      ∃ middle, state.Run earlier middle ∧ middle.Run later present := by
  induction earlier generalizing state with
  | nil =>
    constructor
    · intro run
      exact ⟨state, rfl, run⟩
    · rintro ⟨_, rfl, run⟩
      exact run
  | cons occurrence rest inductionHypothesis =>
    constructor
    · rintro ⟨after, happens, run⟩
      obtain ⟨middle, past, since⟩ := inductionHypothesis.mp run
      exact ⟨middle, ⟨after, happens, past⟩, since⟩
    · rintro ⟨middle, ⟨after, happens, past⟩, since⟩
      exact ⟨after, happens, inductionHypothesis.mpr ⟨middle, past, since⟩⟩

end Lifecycle

end TimedPublishing.Poller
