import TimedPublishing.Rehearsal.Fault

/-!
# The world of a rehearsal

A rehearsal runs the programs of the scheduler in a world that is known beforehand: a
clock that is set by hand, a store in memory with faults armed, and a publisher that plays
its cues one after the other. Nothing in it is left to chance, so the same rehearsal
always ends the same way.
-/

namespace TimedPublishing.Rehearsal

/-- What the publisher does with a content. -/
inductive Turn
  | publish
  | reject (reason : String)
  | fail (reason : String)
  /-- Crash, with a text to say why or without one. -/
  | crash (detail : Option String)
  /-- Wait for a permit, and then publish. -/
  | block
deriving DecidableEq, Repr

/-- One entry of the publisher's script: it may set the clock forward first. -/
structure Cue where
  turn : Turn
  advance : Option Duration
deriving DecidableEq, Repr

/-- The cue of a publisher whose script is at its end. -/
def Cue.standard : Cue := ⟨.publish, none⟩

/-- A fault and the kind of request that it waits for. -/
structure Armed where
  kind : StoreCall.Kind
  fault : Fault
deriving DecidableEq, Repr

/-- Take the oldest fault that waits for a kind of request. -/
def takeFault (kind : StoreCall.Kind) : List Armed → Fault × List Armed
  | [] => (.pass, [])
  | armed :: others =>
    if armed.kind = kind then (armed.fault, others)
    else
      let (fault, left) := takeFault kind others
      (fault, armed :: left)

/-- The state of a rehearsed world. -/
structure World where
  clock : Instant
  supply : IdSupply
  store : Store
  /-- The faults still to strike, the oldest first. -/
  armed : List Armed
  /-- The cues still to be played. -/
  script : List Cue
  /-- The contents the publisher was called with, the first call first. -/
  calls : List ContentId
  /-- Whether a permit lies ready for the next publisher that waits. -/
  permit : Bool

namespace World

/-- A world before anything happened in it. -/
def create (clock : Instant) (supply : IdSupply) (script : List Cue) : World :=
  ⟨clock, supply, .empty, [], script, [], false⟩

/-- The wording of a clock that cannot be set forward so far. -/
def clockOverflow : String := "\x60DateTime + TimeDelta\x60 overflowed"

/-- Set the clock forward, unless that leads out of the calendar. -/
def advance (world : World) (duration : Duration) : Option World :=
  (world.clock.add? duration).map fun later => { world with clock := later }

/-- Play a turn. -/
def play (world : World) : Turn → Reaction PublishReply × World
  | .publish => (.reply .published, world)
  | .reject reason => (.reply (.rejected reason), world)
  | .fail reason => (.reply (.failed reason), world)
  | .crash detail => (.reply (.crashed detail), world)
  | .block =>
    if world.permit then (.reply .published, { world with permit := false })
    else (.pending, world)

/-- The publisher notes the content and plays its next cue. It crashes where the cue sets
the clock forward out of the calendar. -/
def publish (world : World) (content : ContentId) : Reaction PublishReply × World :=
  let cue := world.script.headD .standard
  let called := { world with calls := world.calls ++ [content], script := world.script.tail }
  match cue.advance with
  | none => called.play cue.turn
  | some duration =>
    match called.advance duration with
    | some later => later.play cue.turn
    | none => (.reply (.crashed (some clockOverflow)), called)

/-- How the world reacts to a request. -/
def react : (call : Call) → World → Reaction call.Reply × World
  | .clock, world => (.reply world.clock, world)
  | .freshId, world =>
    let (id, supply) := world.supply.next
    (.reply id, { world with supply := supply })
  | .store call, world =>
    let (fault, armed) := takeFault call.kind world.armed
    let (reaction, store) := fault.react call world.store
    (reaction, { world with store := store, armed := armed })
  | .publish content, world => world.publish content

/-- Run a program in the world. -/
def perform {α : Type} (world : World) (program : Program α) : Run α × World :=
  program.run react world

end World

end TimedPublishing.Rehearsal
