/-!
# The life of a poller's loops

A poller runs at most one loop. Starting makes a loop and enters it in the slot; stopping
signals the loop in the slot and waits for its task, up to a time limit. This module says
what each event does to the poller, one event at a time and in any order, so that a run of
the poller is a sequence of events.

A loop looks at its signal, goes into a cycle, and sleeps; it leaves when it looks and finds
itself signalled. A cycle begins when it gets the cycle lock and has it until it ends; one
that is asked for from outside takes the same lock. While it waits for the lock, a cycle has
not begun.

A loop that leaves ends in two steps, and others can act between them. First it drops its end
of the channel that the signal comes by: the channel is closed, and whoever looks at the slot
takes the loop for ended. Then its task is finished, which is what a handle of the task tells
whoever waits with it. The slot holds the loop that was started last and the handle of its
task, unless a stop has taken that. A stop whose time runs out before the task is finished
puts the handle back where it was taken from, whichever loop is in the slot by then. A stop
that finds no handle looks at the slot a second time, by when anything may have happened, and
answers by that.
-/

namespace TimedPublishing.Poller

/-- How a loop comes to leave. -/
inductive Ending
  | orderly
  /-- Its cycle crashed. -/
  | crashed
deriving DecidableEq, Repr

/-- Where a loop stands between two of its steps. -/
inductive Phase
  /-- About to look at the signal: just started, or just awake. -/
  | ready
  /-- Waiting for the lock, to begin a cycle. -/
  | queued
  /-- In a cycle. -/
  | cycling
  /-- Between two cycles. -/
  | sleeping
  /-- Through with its cycles, with its end of the channel still there. -/
  | leaving (ending : Ending)
  /-- Without its end of the channel, with its task not finished yet. -/
  | closed (ending : Ending)
  | finished (ending : Ending)
deriving DecidableEq, Repr

/-- A loop: where it stands, and whether it was told to stop. -/
structure Loop where
  phase : Phase
  signalled : Bool
deriving DecidableEq, Repr

/-- A loop whose channel is not closed. -/
def Loop.isAlive (loop : Loop) : Bool :=
  match loop.phase with
  | .closed _ => false
  | .finished _ => false
  | _ => true

/-- How a loop came to its end, if its task is finished. -/
def Loop.ending? (loop : Loop) : Option Ending :=
  match loop.phase with
  | .finished ending => some ending
  | _ => none

/-- Who holds the cycle lock. -/
inductive Holder
  | loop (name : Nat)
  /-- A cycle asked for from outside. -/
  | trigger (caller : Nat)
deriving DecidableEq, Repr

/-- What one waits for the task of a loop with. -/
structure Handle where
  /-- The loop whose task it is. -/
  loop : Nat
deriving DecidableEq, Repr

/-- The loop that was started last, with a handle unless a stop has taken it. -/
structure Slot where
  loop : Nat
  handle : Option Handle
deriving DecidableEq, Repr

/-- A stop between its signal and its answer. -/
structure Waiter where
  caller : Nat
  /-- The loop that it signalled. -/
  loop : Nat
  /-- The handle that it took from the slot, if there was one. -/
  handle : Option Handle
deriving DecidableEq, Repr

/-- A poller: the loops in the order of their start, by which they are named, the slot,
the lock, and the stops that have no answer yet. -/
structure Lifecycle where
  loops : List Loop
  slot : Option Slot
  lock : Option Holder
  waiters : List Waiter
deriving DecidableEq, Repr

/-- A step of the poller, of one of its loops, or of a caller. -/
inductive Event
  | start
  /-- A caller asks to stop. -/
  | stop (caller : Nat)
  /-- A stop that waits with a handle sees the task finished. -/
  | joined (caller : Nat)
  /-- The time of a stop that waits with a handle runs out. -/
  | timedOut (caller : Nat)
  /-- A stop that found no handle looks at the slot again. -/
  | checked (caller : Nat)
  /-- A loop looks at its signal, and leaves or asks for the lock. -/
  | look (loop : Nat)
  /-- A loop gets the lock, and its cycle begins. -/
  | begin (loop : Nat)
  /-- A loop's cycle comes to its end, in success or error. -/
  | finish (loop : Nat)
  /-- A loop's cycle crashes, and the loop with it. -/
  | crash (loop : Nat)
  /-- A loop's sleep is over. -/
  | wake (loop : Nat)
  /-- A loop that sleeps is told by its channel of a signal, or that none can come. -/
  | notice (loop : Nat)
  /-- A loop that leaves drops its end of the channel. -/
  | close (loop : Nat)
  /-- The task of a loop is finished. -/
  | complete (loop : Nat)
  /-- A cycle from outside gets the lock and begins. -/
  | triggerBegin (caller : Nat)
  /-- A cycle from outside ends, in whatever way. -/
  | triggerEnd (caller : Nat)
deriving DecidableEq, Repr

namespace Lifecycle

/-- A poller that was never started. -/
def idle : Lifecycle := ⟨[], none, none, []⟩

/-- Whether a loop is alive; a name that no loop has belongs to none. -/
def alive (state : Lifecycle) (name : Nat) : Bool :=
  match state.loops[name]? with
  | some loop => loop.isAlive
  | none => false

/-- Whether the loop in the slot is alive. -/
def isRunning (state : Lifecycle) : Bool :=
  match state.slot with
  | some slot => state.alive slot.loop
  | none => false

/-- How the loop of a handle came to its end, if its task is finished. -/
def ending? (state : Lifecycle) (handle : Handle) : Option Ending :=
  state.loops[handle.loop]?.bind Loop.ending?

/-- Whether somebody can signal a loop: only the slot has the other end of its channel. -/
def canSignal (state : Lifecycle) (name : Nat) : Bool :=
  state.slot.any fun slot => slot.loop == name

/-- Change one loop. -/
def update (state : Lifecycle) (name : Nat) (change : Loop → Loop) : Lifecycle :=
  { state with loops := state.loops.modify name change }

/-- Put a loop into a phase. -/
def place (state : Lifecycle) (name : Nat) (phase : Phase) : Lifecycle :=
  state.update name fun loop => { loop with phase := phase }

/-- Empty the slot if its loop is not alive. -/
def clearEnded (state : Lifecycle) : Lifecycle :=
  if state.isRunning then state else { state with slot := none }

/-- Take a waiting stop out of the list. -/
def dismiss (state : Lifecycle) (caller : Nat) : Lifecycle :=
  { state with waiters := state.waiters.filter fun waiter => waiter.caller ≠ caller }

/-- Make a loop unless one is alive. The answer says whether one was made. -/
def start (state : Lifecycle) : Lifecycle × Bool :=
  if state.isRunning then (state, false)
  else
    let name := state.loops.length
    ({ state with loops := state.loops ++ [⟨.ready, false⟩], slot := some ⟨name, some ⟨name⟩⟩ },
      true)

/-- Signal the loop in the slot and take the handle, if there is one. The answer comes later.
Without a loop there is nothing to stop. -/
def stop (state : Lifecycle) (caller : Nat) : Lifecycle × Option Bool :=
  match state.slot with
  | none => (state, some true)
  | some slot =>
    let signalled := state.update slot.loop fun loop => { loop with signalled := true }
    ({ signalled with
        slot := some { slot with handle := none }
        waiters := signalled.waiters ++ [⟨caller, slot.loop, slot.handle⟩] }, none)

/-- The stop of a caller, if it has no answer yet. -/
def waiter? (state : Lifecycle) (caller : Nat) : Option Waiter :=
  state.waiters.find? fun waiter => waiter.caller == caller

/-- A waiting stop whose handle is that of a finished task is answered: whether the task came
to its end in order. -/
def join (state : Lifecycle) (caller : Nat) : Option (Lifecycle × Bool) := do
  let waiter ← state.waiter? caller
  let ending ← state.ending? (← waiter.handle)
  return ((state.dismiss caller).clearEnded, ending == .orderly)

/-- Put a handle into the slot, if its task is not finished and the slot lacks one. -/
def putBack (state : Lifecycle) (handle : Handle) : Lifecycle :=
  match state.slot with
  | some slot =>
    if slot.handle = none ∧ state.ending? handle = none then
      { state with slot := some { slot with handle := some handle } }
    else state
  | none => state

/-- A waiting stop whose time runs out puts its handle back. -/
def expire (state : Lifecycle) (caller : Nat) : Option Lifecycle := do
  let waiter ← state.waiter? caller
  return (state.dismiss caller).putBack (← waiter.handle)

/-- A stop that found no handle is answered: whether no loop is running by now. -/
def check (state : Lifecycle) (caller : Nat) : Option (Lifecycle × Bool) := do
  let _ ← (state.waiter? caller).filter fun waiter => waiter.handle.isNone
  return (state.dismiss caller, !state.isRunning)

/-- What an event does, and what it answers if it answers. An event that cannot happen in
a state has no result. -/
def step (state : Lifecycle) : Event → Option (Lifecycle × Option Bool)
  | .start => let (after, made) := state.start; some (after, some made)
  | .stop caller =>
    if (state.waiter? caller).isSome then none else some (state.stop caller)
  | .joined caller => (state.join caller).map fun (after, orderly) => (after, some orderly)
  | .timedOut caller => (state.expire caller).map fun after => (after, some false)
  | .checked caller => (state.check caller).map fun (after, still) => (after, some still)
  | .look name =>
    match state.loops[name]? with
    | some ⟨.ready, true⟩ => some (state.place name (.leaving .orderly), none)
    | some ⟨.ready, false⟩ => some (state.place name .queued, none)
    | _ => none
  | .begin name =>
    match state.loops[name]?, state.lock with
    | some ⟨.queued, _⟩, none =>
      some ({ state.place name .cycling with lock := some (.loop name) }, none)
    | _, _ => none
  | .finish name =>
    if state.lock = some (.loop name) then
      some ({ state.place name .sleeping with lock := none }, none)
    else none
  | .crash name =>
    if state.lock = some (.loop name) then
      some ({ state.place name (.leaving .crashed) with lock := none }, none)
    else none
  | .wake name =>
    match state.loops[name]? with
    | some ⟨.sleeping, _⟩ => some (state.place name .ready, none)
    | _ => none
  | .notice name =>
    match state.loops[name]? with
    | some ⟨.sleeping, true⟩ => some (state.place name .ready, none)
    | some ⟨.sleeping, false⟩ =>
      if state.canSignal name then none else some (state.place name (.leaving .orderly), none)
    | _ => none
  | .close name =>
    match state.loops[name]? with
    | some ⟨.leaving ending, _⟩ => some (state.place name (.closed ending), none)
    | _ => none
  | .complete name =>
    match state.loops[name]? with
    | some ⟨.closed ending, _⟩ => some (state.place name (.finished ending), none)
    | _ => none
  | .triggerBegin caller =>
    if state.lock = none then some ({ state with lock := some (.trigger caller) }, none) else none
  | .triggerEnd caller =>
    if state.lock = some (.trigger caller) then some ({ state with lock := none }, none) else none

end Lifecycle

end TimedPublishing.Poller
