import Mathlib.Data.List.Induction
import TimedPublishing.Proofs.Poller.Soundness

/-!
# Starting and stopping

Calls to start and to stop a poller may come in any order, any number of them at once, while its
loop and the cycles asked for from outside take their steps. `Lifecycle.Run.orderly` says what is
certain all the same: one loop at most, one cycle at a time, and an end to every loop that was told
to stop.

A cycle begins when it gets the lock, and is over when it gives it back. A loop looks at its signal
before it asks for the lock and not again when it has it, so a loop that is told to stop while it
waits for the lock still begins that one cycle. A cycle that has begun is not called back, though it
may crash.

A stop answers that all is over when the task of the handle that it took from the slot is finished.
As a rule that is the task of the loop that it told to stop. The exception is `Strayed`: a stop
whose time runs out, when its own loop has closed its channel but is not finished, puts the handle
of that loop into the slot of the next one. `Run.stop_not_always_final` has a run of each of these.
-/

namespace TimedPublishing.Poller.Lifecycle

variable {state after present : Lifecycle} {event : Event} {answer : Option Bool} {name : Nat}
  {happened later : List Occurrence}

/-- The poller runs exactly when some loop is alive. -/
theorem Sound.isRunning_iff_alive (sound : state.Sound) :
    state.isRunning = true ↔ ∃ name, state.alive name = true := by
  rw [isRunning_iff]
  constructor
  · rintro ⟨slot, _, alive⟩
    exact ⟨slot.loop, alive⟩
  · rintro ⟨name, alive⟩
    obtain ⟨unclaimed, recorded⟩ := sound.recorded name alive
    exact ⟨_, recorded, alive⟩

/-- Starting answers whether the poller was at rest. -/
theorem start_snd (state : Lifecycle) : state.start.2 = !state.isRunning := by
  unfold start
  split
  · next running => simp [running]
  · next resting => simp [resting]

/-- Starting a poller that runs does nothing. -/
theorem start_of_isRunning (running : state.isRunning = true) : state.start = (state, false) := by
  unfold start
  rw [if_pos running]

namespace Sound

/-- What every turn of a loop keeps, a run keeps. -/
theorem kept (sound : state.Sound) (run : state.Run later present) (property : Loop → Prop)
    (keeps : ∀ event loop next, Loop.Turn name event loop next → property loop → property next)
    {loop : Loop} (found : state.loops[name]? = some loop) (holds : property loop) :
    ∃ next, present.loops[name]? = some next ∧ property next := by
  induction later generalizing state loop with
  | nil =>
    obtain rfl : present = state := run
    exact ⟨loop, found, holds⟩
  | cons occurrence rest inductionHypothesis =>
    obtain ⟨after, happens, run⟩ := run
    have outcome := step_cases happens
    obtain ⟨next, foundNext, turn⟩ := sound.turn outcome found
    exact inductionHypothesis (sound.step outcome) run foundNext (keeps _ _ _ turn holds)

/-- A loop that is not alive is not alive after any run. -/
theorem over_since (sound : state.Sound) (run : state.Run later present) {loop : Loop}
    (found : state.loops[name]? = some loop) (dead : loop.isAlive = false) :
    present.alive name = false := by
  obtain ⟨next, foundNext, nextOver⟩ := sound.kept run (fun loop => loop.isAlive = false)
    (fun _ _ _ turn => turn.isAlive_eq_false) found dead
  simp [alive, foundNext, nextOver]

/-- A loop that has left takes two kinds of steps at most in any run. -/
theorem left_since (sound : state.Sound) (run : state.Run later present) {loop : Loop}
    (found : state.loops[name]? = some loop) (left : loop.hasLeft = true) :
    ∀ occurrence ∈ later, occurrence.event.loop? = some name →
      occurrence.event = .close name ∨ occurrence.event = .complete name := by
  induction later generalizing state loop with
  | nil => exact nofun
  | cons occurrence rest inductionHypothesis =>
    obtain ⟨after, happens, run⟩ := run
    have outcome := step_cases happens
    obtain ⟨next, foundNext, turn⟩ := sound.turn outcome found
    obtain ⟨leftNext, own⟩ := turn.hasLeft left
    exact List.forall_mem_cons.mpr
      ⟨own, inductionHypothesis (sound.step outcome) run foundNext leftNext⟩

/-- Without a start, a loop that is alive after a run was alive before it. -/
theorem alive_since (sound : state.Sound) (run : state.Run later present)
    (unstarted : ⟨.start, some true⟩ ∉ later) (alive : present.alive name = true) :
    state.alive name = true := by
  induction later generalizing state with
  | nil =>
    obtain rfl : present = state := run
    exact alive
  | cons occurrence rest inductionHypothesis =>
    obtain ⟨after, happens, run⟩ := run
    have outcome := step_cases happens
    have between : after.alive name = true := inductionHypothesis (sound.step outcome) run
      fun started => unstarted (List.mem_cons_of_mem _ started)
    rcases sound.alive_before outcome between with before | ⟨starts, made, _⟩
    · exact before
    · obtain ⟨event, answer⟩ := occurrence
      cases starts
      cases made
      exact absurd List.mem_cons_self unstarted

/-- A loop that was told to stop waits for the lock or has it if it did so then, until its cycle is
over.

Proof: a walk along the graph of turns, on which a loop that was told never asks for the lock. -/
theorem isBusy_since (sound : state.Sound) (run : state.Run later present) {loop : Loop}
    (found : state.loops[name]? = some loop) (told : loop.signalled = true) :
    present.isBusy name = true ↔ loop.isBusy = true ∧
      ∀ occurrence ∈ later, occurrence.event.ends? ≠ some (.loop name) := by
  induction later generalizing state loop with
  | nil =>
    obtain rfl : present = state := run
    simp [isBusy, found]
  | cons occurrence rest inductionHypothesis =>
    obtain ⟨after, happens, run⟩ := run
    have outcome := step_cases happens
    obtain ⟨next, foundNext, turn⟩ := sound.turn outcome found
    rw [inductionHypothesis (sound.step outcome) run foundNext (turn.signalled told),
      turn.isBusy_iff told, List.forall_mem_cons, and_assoc]

/-- A loop that was told to stop begins no cycle but one for which it waits for the lock.

Proof: by induction on the run. What a loop has begun and what it waits for never become more
together, once it was told. -/
theorem begun_since (sound : state.Sound) (run : state.Run later present) {loop : Loop}
    (found : state.loops[name]? = some loop) (told : loop.signalled = true) :
    (later.map Occurrence.event).count (.begin name) ≤
      if loop.phase = .queued then 1 else 0 := by
  induction later generalizing state loop with
  | nil => simp
  | cons occurrence rest inductionHypothesis =>
    obtain ⟨after, happens, run⟩ := run
    have outcome := step_cases happens
    obtain ⟨next, foundNext, turn⟩ := sound.turn outcome found
    have since := inductionHypothesis (sound.step outcome) run foundNext (turn.signalled told)
    simp only [List.map_cons, List.count_cons, beq_iff_eq]
    exact Nat.le_trans (Nat.add_le_add_right since _) (turn.begins_le told)

end Sound

/-- The lock stays with its holder until the holder's cycle is over. -/
theorem Run.held_until (run : state.Run later present) {holder : Holder}
    (held : state.lock = some holder) :
    (∃ occurrence ∈ later, occurrence.event.ends? = some holder) ∨ present.lock = some holder := by
  induction later generalizing state with
  | nil =>
    obtain rfl : present = state := run
    exact Or.inr held
  | cons occurrence rest inductionHypothesis =>
    obtain ⟨after, happens, run⟩ := run
    rcases (step_cases happens).lock with ⟨_, _, free, _⟩ | ⟨_, _, ends, own, _⟩ | ⟨_, _, same⟩
    · cases free.symm.trans held
    · cases own.symm.trans held
      exact Or.inl ⟨occurrence, List.mem_cons_self, ends⟩
    · rcases inductionHypothesis run (same.trans held) with ⟨last, member, ends⟩ | still
      · exact Or.inl ⟨last, List.mem_cons_of_mem _ member, ends⟩
      · exact Or.inr still

/-- A stop waits until it is answered. -/
theorem Run.waits_until (run : state.Run later present) {caller : Nat} {waiter : Waiter}
    (waits : state.waiter? caller = some waiter)
    (unanswered : ∀ occurrence ∈ later, occurrence.event.answers? ≠ some caller) :
    present.waiter? caller = some waiter := by
  induction later generalizing state with
  | nil =>
    obtain rfl : present = state := run
    exact waits
  | cons occurrence rest inductionHypothesis =>
    obtain ⟨after, happens, run⟩ := run
    obtain ⟨first, others⟩ := List.forall_mem_cons.mp unanswered
    exact inductionHypothesis run ((step_cases happens).waits waits first) others

/-- There are as many loops as starts that answered that they made one. -/
theorem Run.length (run : state.Run later present) :
    present.loops.length = state.loops.length + later.count ⟨.start, some true⟩ := by
  induction later generalizing state with
  | nil =>
    obtain rfl : present = state := run
    rfl
  | cons occurrence rest inductionHypothesis =>
    obtain ⟨after, happens, run⟩ := run
    obtain ⟨event, answer⟩ := occurrence
    rw [inductionHypothesis run, (step_cases happens).length, List.count_cons]
    simp only [beq_iff_eq, Occurrence.mk.injEq]
    omega

/-- A loop that has not looked at its signal has begun no cycle and is ready to look. -/
theorem Sound.unlooked (sound : state.Sound) (run : state.Run later present)
    (unlooked : ∀ occurrence ∈ later, occurrence.event ≠ .look name)
    (ready : ∀ loop, state.loops[name]? = some loop → loop.phase = .ready) :
    (∀ occurrence ∈ later, occurrence.event ≠ .begin name) ∧
      ∀ loop, present.loops[name]? = some loop → loop.phase = .ready := by
  induction later generalizing state with
  | nil =>
    obtain rfl : present = state := run
    exact ⟨nofun, ready⟩
  | cons occurrence rest inductionHypothesis =>
    obtain ⟨event, answer⟩ := occurrence
    obtain ⟨after, happens, run⟩ := run
    have outcome := step_cases happens
    obtain ⟨first, others⟩ := List.forall_mem_cons.mp unlooked
    have readyAfter (next : Loop) (found : after.loops[name]? = some next) :
        next.phase = .ready := by
      cases before : state.loops[name]? with
      | none =>
        obtain ⟨_, _, rfl, _⟩ := outcome.new before found
        rfl
      | some loop =>
        obtain ⟨_, same, turn⟩ := sound.turn outcome before
        cases found.symm.trans same
        exact turn.ready (ready loop before) first
    obtain ⟨unbegun, readyPresent⟩ := inductionHypothesis (sound.step outcome) run others readyAfter
    refine ⟨List.forall_mem_cons.mpr ⟨?_, unbegun⟩, readyPresent⟩
    rintro rfl
    cases outcome with
    | begun found free => cases ready _ found

/-- A stop that is not answered at once has signalled the loop in the slot, and waits with the
handle that it found. -/
theorem Sound.stop_signals (sound : state.Sound) {caller : Nat}
    (outcome : state.Step (.stop caller) none after) :
    ∃ slot phase, state.slot = some slot ∧ (state.loops[slot.loop]?).map Loop.phase = some phase ∧
      after.loops[slot.loop]? = some ⟨phase, true⟩ ∧
      after.waiter? caller = some ⟨caller, slot.loop, slot.handle⟩ ∧ after.lock = state.lock := by
  cases outcome with
  | @signalled _ slot free recorded =>
    obtain ⟨loop, found⟩ : ∃ loop, state.loops[slot.loop]? = some loop :=
      ⟨_, List.getElem?_eq_getElem (sound.made slot recorded)⟩
    refine ⟨slot, loop.phase, recorded, by simp [found], ?_, ?_, rfl⟩
    · change (state.update slot.loop _).loops[slot.loop]? = _
      rw [loops_update, found]
      simp
    · unfold waiter? at free ⊢
      dsimp only
      rw [List.find?_append, free]
      simp

/-- The time of a stop runs out at a bad moment: the loop of the handle that it took has closed its
channel and is not finished, and another loop is in the slot, without a handle. -/
def Strays (state : Lifecycle) (caller name : Nat) : Prop :=
  ∃ waiter handle ending signalled, state.waiter? caller = some waiter ∧
    waiter.handle = some handle ∧ state.loops[handle.loop]? = some ⟨.closed ending, signalled⟩ ∧
    state.slot = some ⟨name, none⟩ ∧ handle.loop ≠ name

/-- The time of some stop ran out at a bad moment for a loop, which was the one in the slot then. -/
def Strayed (happened : List Occurrence) (name : Nat) : Prop :=
  ∃ earlier caller later before, happened = earlier ++ ⟨.timedOut caller, some false⟩ :: later ∧
    Lifecycle.idle.Run earlier before ∧ before.Strays caller name

/-- What has strayed stays so. -/
theorem Strayed.append (strayed : Strayed happened name) (more : List Occurrence) :
    Strayed (happened ++ more) name := by
  obtain ⟨earlier, caller, later, before, rfl, past, strays⟩ := strayed
  exact ⟨earlier, caller, later ++ more, before, by simp, past, strays⟩

/-- The handle of another loop is in the slot only if it has strayed there.

Proof: by induction on the run, with its last event taken off. If that event has put the handle
there, it was a stop whose time ran out. The loop of the handle was not alive then, as the loop that
is alive is the one in the slot, and it was not finished. -/
theorem Run.strayed (run : Lifecycle.idle.Run happened present) {handle : Handle}
    (placed : present.slot = some ⟨name, some handle⟩) (foreign : handle.loop ≠ name) :
    Strayed happened name := by
  induction happened using List.reverseRecOn generalizing present with
  | nil =>
    obtain rfl : present = Lifecycle.idle := run
    cases placed
  | append_singleton earlier last inductionHypothesis =>
    obtain ⟨before, past, _, happens, rfl⟩ := run_append.mp run
    have sound : before.Sound := Sound.idle.run past
    obtain ⟨event, answer⟩ := last
    rcases (step_cases happens).foreign_before placed foreign with
      same | ⟨caller, waiter, rfl, rfl, waits, holds, recorded, unfinished⟩
    · exact (inductionHypothesis past same).append _
    · have dead : before.alive handle.loop = false := by
        rw [← Bool.not_eq_true]
        intro alive
        obtain ⟨_, own⟩ := sound.recorded handle.loop alive
        cases own.symm.trans recorded
        exact foreign rfl
      have within := sound.handles handle (holds_of_waiter? waits holds)
      obtain ⟨ending, signalled, found⟩ := closed_of_not_alive within dead unfinished
      exact ⟨earlier, caller, [], before, rfl, past, waiter, handle, ending, signalled, waits,
        holds, found, recorded, foreign⟩

/-- What becomes of a loop when a stop signals it: where the poller stood before the signal, and
what has happened since. -/
structure WindsDown (before : Lifecycle) (name : Nat) (later : List Occurrence)
    (present : Lifecycle) : Prop where
  /-- The loop waits for the lock or has it exactly if it did so before the signal and no cycle of
  it is over since. -/
  busy : present.isBusy name = true ↔ before.isBusy name = true ∧
    ∀ occurrence ∈ later, occurrence.event.ends? ≠ some (.loop name)
  /-- When the loop looks at its signal it leaves: after that its channel is closed and its task
  finished, and nothing else. -/
  leaves : ∀ middle looked rest, later = middle ++ ⟨.look name, looked⟩ :: rest →
    ∀ occurrence ∈ rest, occurrence.event.loop? = some name →
      occurrence.event = .close name ∨ occurrence.event = .complete name
  /-- No cycle begins but one for which the loop was waiting for the lock already. -/
  begins : (later.map Occurrence.event).count (.begin name) ≤
    if (before.loops[name]?).map Loop.phase = some .queued then 1 else 0
  /-- A cycle that had begun has the lock until it comes to its end or crashes. -/
  completes : before.lock = some (.loop name) →
    (∃ occurrence ∈ later, occurrence.event = .finish name ∨ occurrence.event = .crash name) ∨
      present.lock = some (.loop name)

/-- What is certain of a stop that signalled a loop: where the poller stood before, and what has
happened before and since. -/
structure Stopped (before : Lifecycle) (caller name : Nat) (earlier later : List Occurrence)
    (present : Lifecycle) : Prop where
  windsDown : WindsDown before name later present
  /-- A loop that has not looked at its signal before never runs a cycle. -/
  unlooked : (∀ occurrence ∈ earlier, occurrence.event ≠ .look name) →
    ∀ occurrence ∈ earlier ++ later, occurrence.event ≠ .begin name
  /-- The answer that all is over comes only when the loop has ended, unless the handle of another
  loop had strayed into its slot. -/
  answered : ¬ Strayed earlier name → ∀ middle event rest,
    later = middle ++ ⟨event, some true⟩ :: rest → event.answers? = some caller →
    (∀ occurrence ∈ middle, occurrence.event.answers? ≠ some caller) → present.alive name = false
  /-- A stop whose time runs out says that the loop may still be there. -/
  expired : ∀ answer, ⟨.timedOut caller, answer⟩ ∈ later → answer = some false
  /-- As long as the loop lives, the poller is running and refuses to start. -/
  tracked : present.alive name = true → present.isRunning = true ∧ present.start = (present, false)
  /-- Once the loop has ended the poller is at rest and starts, if nobody has started it since. -/
  released : present.alive name = false → ⟨.start, some true⟩ ∉ later →
    present.isRunning = false ∧ present.start.2 = true

/-- A stop that waits with the handle of its own loop, or with none, and answers that all is over,
has seen its loop ended. -/
theorem Step.over_of_answered (outcome : state.Step event (some true) after) (sound : state.Sound)
    {caller : Nat} {handle : Option Handle} {loop : Loop} (answers : event.answers? = some caller)
    (waits : state.waiter? caller = some ⟨caller, name, handle⟩)
    (own : ∀ held, handle = some held → held.loop = name)
    (found : state.loops[name]? = some loop) : loop.isAlive = false := by
  generalize said : some true = answer at outcome
  cases outcome with
  | joined waiting holds finished =>
    cases answers
    cases waiting.symm.trans waits
    obtain rfl := own _ holds
    obtain ⟨signalled, same⟩ := ending?_eq_some_iff.mp finished
    cases same.symm.trans found
    rfl
  | timedOut => cases said
  | checked =>
    have resting : state.isRunning = false := by simpa using said
    cases dead : loop.isAlive with
    | false => rfl
    | true =>
      have alive : state.alive name = true := alive_iff.mpr ⟨loop, found, dead⟩
      cases resting.symm.trans (sound.isRunning_iff_alive.mpr ⟨name, alive⟩)
  | _ => cases answers

namespace Sound

/-- A loop that has been told to stop winds down. -/
theorem windsDown {before : Lifecycle} (sound : after.Sound) (run : after.Run later present)
    {phase : Phase} (found : after.loops[name]? = some ⟨phase, true⟩)
    (samePhase : (before.loops[name]?).map Loop.phase = some phase)
    (sameLock : after.lock = before.lock) : WindsDown before name later present where
  busy := by
    obtain ⟨former, foundBefore, rfl⟩ := Option.map_eq_some_iff.mp samePhase
    have same : before.isBusy name = Loop.isBusy ⟨former.phase, true⟩ := by
      simp [Lifecycle.isBusy, foundBefore, Loop.isBusy]
    rw [same]
    exact sound.isBusy_since run found rfl
  leaves := by
    rintro middle looked rest rfl
    obtain ⟨between, past, next, looks, since⟩ := run_append.mp run
    have soundBetween : between.Sound := sound.run past
    have outcome := step_cases looks
    obtain ⟨loop, present, told⟩ := sound.kept past (fun loop => loop.signalled = true)
      (fun _ _ _ turn => turn.signalled) found rfl
    obtain ⟨last, foundLast, turn⟩ := soundBetween.turn outcome present
    have left : last.hasLeft = true := by
      cases turn with
      | stays other => exact absurd rfl other
      | left => rfl
      | entered => cases told
    exact (soundBetween.step outcome).left_since since foundLast left
  begins := by
    rw [samePhase]
    simpa using sound.begun_since run found rfl
  completes held := by
    rcases run.held_until (sameLock.trans held) with ⟨last, member, ends⟩ | still
    · exact Or.inl ⟨last, member, Event.eq_of_ends ends⟩
    · exact Or.inr still

/-- The answer of a stop that all is over is right about the loop that it signalled, if the handle
that it took is that loop's own. -/
theorem over_of_answered (sound : state.Sound) {caller : Nat} {handle : Option Handle}
    {loop : Loop} {middle rest : List Occurrence}
    (run : state.Run (middle ++ ⟨event, some true⟩ :: rest) present)
    (found : state.loops[name]? = some loop)
    (waits : state.waiter? caller = some ⟨caller, name, handle⟩)
    (own : ∀ held, handle = some held → held.loop = name) (answers : event.answers? = some caller)
    (unanswered : ∀ occurrence ∈ middle, occurrence.event.answers? ≠ some caller) :
    present.alive name = false := by
  obtain ⟨between, past, next, happens, since⟩ := run_append.mp run
  have soundBetween : between.Sound := sound.run past
  have outcome := step_cases happens
  obtain ⟨loop, present, _⟩ :=
    sound.kept past (fun _ => True) (fun _ _ _ _ _ => trivial) found trivial
  have dead : loop.isAlive = false :=
    outcome.over_of_answered soundBetween answers (past.waits_until waits unanswered) own present
  obtain ⟨last, foundLast, turn⟩ := soundBetween.turn outcome present
  exact (soundBetween.step outcome).over_since since foundLast (turn.isAlive_eq_false dead)

/-- A poller is at rest once the loop in its slot has ended, if nobody has started it since. -/
theorem resting_since (sound : state.Sound) (run : state.Run later present)
    (recorded : state.slot.map Slot.loop = some name) (dead : present.alive name = false)
    (unstarted : ⟨.start, some true⟩ ∉ later) : present.isRunning = false := by
  rw [← Bool.not_eq_true, (sound.run run).isRunning_iff_alive]
  rintro ⟨other, alive⟩
  obtain ⟨unclaimed, own⟩ := sound.recorded other (sound.alive_since run unstarted alive)
  rw [own] at recorded
  cases recorded
  cases alive.symm.trans dead

/-- What is certain of a stop that signals a loop. -/
theorem stopped (sound : state.Sound) {caller : Nat} {earlier : List Occurrence}
    (past : Lifecycle.idle.Run earlier state)
    (happens : state.step (.stop caller) = some (after, none)) (since : after.Run later present) :
    ∃ name, state.slot.map Slot.loop = some name ∧
      Stopped state caller name earlier later present := by
  have outcome := step_cases happens
  have soundAfter : after.Sound := sound.step outcome
  have soundPresent : present.Sound := soundAfter.run since
  obtain ⟨⟨name, handle⟩, phase, placed, samePhase, found, waits, sameLock⟩ :=
    sound.stop_signals outcome
  have recorded : state.slot.map Slot.loop = some name := by rw [placed]; rfl
  have windsDown : WindsDown state name later present :=
    soundAfter.windsDown since found samePhase sameLock
  refine ⟨name, recorded, windsDown, ?unlooked, ?answered, ?expired, ?tracked, ?released⟩
  case unlooked =>
    intro unlooked
    obtain ⟨unbegun, ready⟩ := idle.unlooked past unlooked nofun
    -- A loop that has not looked is not queued, so the bound on its begins is zero.
    have none : (later.map Occurrence.event).count (.begin name) = 0 := by
      have begins := windsDown.begins
      rw [if_neg] at begins
      · exact Nat.le_zero.mp begins
      · intro queued
        obtain ⟨loop, present, phase⟩ := Option.map_eq_some_iff.mp queued
        cases (ready loop present).symm.trans phase
    intro occurrence member
    rcases List.mem_append.mp member with before | since
    · exact unbegun occurrence before
    · intro begins
      exact List.count_eq_zero.mp none (begins ▸ List.mem_map_of_mem since)
  case answered =>
    rintro inPlace middle event rest rfl answers unanswered
    refine soundAfter.over_of_answered since found waits ?_ answers unanswered
    rintro held rfl
    by_contra foreign
    exact inPlace (past.strayed placed foreign)
  case expired =>
    intro answer member
    obtain ⟨middle, rest, rfl⟩ := List.append_of_mem member
    obtain ⟨_, _, _, expires, _⟩ := run_append.mp since
    cases step_cases expires with
    | timedOut => rfl
  case tracked =>
    intro alive
    have running : present.isRunning = true := soundPresent.isRunning_iff_alive.mpr ⟨name, alive⟩
    exact ⟨running, start_of_isRunning running⟩
  case released =>
    intro dead unstarted
    have run : state.Run (⟨.stop caller, none⟩ :: later) present := ⟨after, happens, since⟩
    have resting : present.isRunning = false := sound.resting_since run recorded dead
      (by simpa using unstarted)
    exact ⟨resting, by rw [start_snd, resting]; rfl⟩

end Sound

/-- Between the begins of two cycles the first of them comes to its end.

Proof: the first begin takes the lock, and the second needs it free. -/
theorem Run.apart {earlier middle : List Occurrence} {first second : Occurrence} {holder : Holder}
    (run : state.Run (earlier ++ first :: middle ++ second :: later) present)
    (begins : first.event.begins? = some holder) (again : second.event.begins? ≠ none) :
    ∃ occurrence ∈ middle, occurrence.event.ends? = some holder := by
  obtain ⟨between, past, next, happens, _⟩ := run_append.mp run
  obtain ⟨before, _, entered, begun, during⟩ := run_append.mp past
  have held : entered.lock = some holder := by
    rcases (step_cases begun).lock with ⟨_, own, _, taken⟩ | ⟨_, none, _⟩ | ⟨none, _⟩
    · cases own.symm.trans begins
      exact taken
    · cases none.symm.trans begins
    · cases none.symm.trans begins
  have free : between.lock = none := by
    rcases (step_cases happens).lock with ⟨_, _, free, _⟩ | ⟨_, none, _⟩ | ⟨none, _⟩
    · exact free
    · exact absurd none again
    · exact absurd none again
  rcases during.held_until held with ended | still
  · exact ended
  · cases free.symm.trans still

end TimedPublishing.Poller.Lifecycle
