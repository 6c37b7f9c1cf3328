import TimedPublishing.Proofs.Poller.Steps

/-!
# What holds of a poller at all times

The slot, the lock and the stops without an answer are changed by different events, and each is read
by others. `Lifecycle.Sound` says how they fit together: the slot has the one loop that may be
alive, the lock has the one loop that may be in a cycle, and every handle, in the slot or with a
stop, is that of a loop. Every outcome of every event keeps this, so it holds after every run from
the poller that was never started.

It does not say that the handle in the slot is that of the loop in the slot. A stop whose time runs
out puts its handle into the slot as it finds it, and `Step.foreign_before` says when another loop
is there by then.
-/

namespace TimedPublishing.Poller.Lifecycle

/-- A loop is alive by its name when there is such a loop and it has not ended. -/
theorem alive_iff {state : Lifecycle} {name : Nat} :
    state.alive name = true ↔ ∃ loop, state.loops[name]? = some loop ∧ loop.isAlive = true := by
  unfold alive
  cases state.loops[name]? <;> simp

/-- The poller runs when the loop in its slot is alive. -/
theorem isRunning_iff {state : Lifecycle} :
    state.isRunning = true ↔ ∃ slot, state.slot = some slot ∧ state.alive slot.loop = true := by
  unfold isRunning
  cases state.slot <;> simp

/-- A handle tells how a loop came to its end when the task of that loop is finished. -/
theorem ending?_eq_some_iff {state : Lifecycle} {handle : Handle} {ending : Ending} :
    state.ending? handle = some ending ↔
      ∃ signalled, state.loops[handle.loop]? = some ⟨.finished ending, signalled⟩ := by
  unfold ending?
  rw [Option.bind_eq_some_iff]
  constructor
  · rintro ⟨⟨phase, signalled⟩, found, ended⟩
    cases phase <;> cases ended
    exact ⟨signalled, found⟩
  · rintro ⟨signalled, found⟩
    exact ⟨_, found, rfl⟩

/-- Changing one loop leaves the others. -/
theorem loops_update (state : Lifecycle) (name other : Nat) (change : Loop → Loop) :
    (state.update name change).loops[other]? =
      (state.loops[other]?).map fun loop => if name = other then change loop else loop :=
  List.getElem?_modify change name state.loops other

/-- Emptying the slot changes no loop. -/
@[simp] theorem loops_clearEnded (state : Lifecycle) : state.clearEnded.loops = state.loops := by
  unfold clearEnded
  split <;> rfl

/-- Emptying the slot leaves the lock. -/
@[simp] theorem lock_clearEnded (state : Lifecycle) : state.clearEnded.lock = state.lock := by
  unfold clearEnded
  split <;> rfl

/-- Emptying the slot answers no stop. -/
@[simp] theorem waiters_clearEnded (state : Lifecycle) :
    state.clearEnded.waiters = state.waiters := by
  unfold clearEnded
  split <;> rfl

/-- Emptying the slot puts nothing into it. -/
theorem slot_of_clearEnded {state : Lifecycle} {slot : Slot}
    (recorded : state.clearEnded.slot = some slot) : state.slot = some slot := by
  unfold clearEnded at recorded
  split at recorded
  · exact recorded
  · cases recorded

/-- Putting back a handle changes no loop. -/
@[simp] theorem loops_putBack (state : Lifecycle) (handle : Handle) :
    (state.putBack handle).loops = state.loops := by
  unfold putBack
  split
  · split <;> rfl
  · rfl

/-- Putting back a handle leaves the lock. -/
@[simp] theorem lock_putBack (state : Lifecycle) (handle : Handle) :
    (state.putBack handle).lock = state.lock := by
  unfold putBack
  split
  · split <;> rfl
  · rfl

/-- Putting back a handle answers no other stop. -/
@[simp] theorem waiters_putBack (state : Lifecycle) (handle : Handle) :
    (state.putBack handle).waiters = state.waiters := by
  unfold putBack
  split
  · split <;> rfl
  · rfl

/-- A handle that is put back is in the slot beside the loop that was there, or is dropped. -/
theorem slot_of_putBack {state : Lifecycle} {handle : Handle} {slot : Slot}
    (recorded : (state.putBack handle).slot = some slot) :
    state.slot = some slot ∨ state.slot = some { slot with handle := none } ∧
      slot.handle = some handle ∧ state.ending? handle = none := by
  unfold putBack at recorded
  split at recorded
  · next former found =>
    split at recorded
    · next lacks =>
      cases recorded
      obtain ⟨name, _⟩ := former
      obtain ⟨rfl, unfinished⟩ := lacks
      exact Or.inr ⟨found, rfl, unfinished⟩
    · exact Or.inl recorded
  · exact Or.inl recorded

/-- A handle is in the slot or with a stop. -/
def Holds (state : Lifecycle) (handle : Handle) : Prop :=
  (∃ name, state.slot = some ⟨name, some handle⟩) ∨
    ∃ waiter ∈ state.waiters, waiter.handle = some handle

/-- The handle of a stop without an answer is with that stop. -/
theorem holds_of_waiter? {state : Lifecycle} {caller : Nat} {waiter : Waiter} {handle : Handle}
    (waits : state.waiter? caller = some waiter) (holds : waiter.handle = some handle) :
    state.Holds handle :=
  Or.inr ⟨waiter, List.mem_of_find?_eq_some waits, holds⟩

/-- Where no loop is alive under a name that some loop has, its channel is closed, or its task is
finished and its handle tells so. -/
theorem closed_of_not_alive {state : Lifecycle} {handle : Handle}
    (within : handle.loop < state.loops.length) (dead : state.alive handle.loop = false)
    (unfinished : state.ending? handle = none) :
    ∃ ending signalled, state.loops[handle.loop]? = some ⟨.closed ending, signalled⟩ := by
  obtain ⟨⟨phase, signalled⟩, found⟩ : ∃ loop, state.loops[handle.loop]? = some loop :=
    ⟨_, List.getElem?_eq_getElem within⟩
  rw [alive, found] at dead
  rw [ending?, found] at unfinished
  cases phase with
  | closed ending => exact ⟨ending, signalled, found⟩
  | finished => cases unfinished
  | ready => cases dead
  | queued => cases dead
  | cycling => cases dead
  | sleeping => cases dead
  | leaving => cases dead

namespace Step

variable {state after : Lifecycle} {event : Event} {answer : Option Bool} {name : Nat}

/-- What an outcome makes of a loop, where only loops in a cycle hold the lock. -/
theorem turn (outcome : state.Step event answer after)
    (cycling : ∀ name, state.lock = some (.loop name) →
      ∃ signalled, state.loops[name]? = some ⟨.cycling, signalled⟩)
    {loop : Loop} (found : state.loops[name]? = some loop) :
    ∃ next, after.loops[name]? = some next ∧ Loop.Turn name event loop next := by
  have placed {phase : Phase} {other : Nat} {former : Loop}
      (moved : state.loops[other]? = some former)
      (own : Loop.Turn other event former { former with phase := phase })
      (about : event.loop? = some other) :
      ∃ next, (state.place other phase).loops[name]? = some next ∧
        Loop.Turn name event loop next := by
    unfold place
    rw [loops_update, found]
    by_cases same : other = name
    · subst same
      obtain rfl : former = loop := Option.some.inj (moved.symm.trans found)
      exact ⟨_, rfl, by simpa using own⟩
    · refine ⟨loop, by simp [same], .stays ?_⟩
      rw [about]
      exact fun equal => same (Option.some.inj equal)
  have kept (about : event.loop? ≠ some name) (loops : after.loops[name]? = state.loops[name]?) :
      ∃ next, after.loops[name]? = some next ∧ Loop.Turn name event loop next :=
    ⟨loop, loops.trans found, .stays about⟩
  cases outcome with
  | refused running => exact kept (by simp [Event.loop?]) rfl
  | started resting =>
    refine kept (by simp [Event.loop?]) ?_
    exact List.getElem?_append_left (List.getElem?_eq_some_iff.mp found).1
  | nothing free empty => exact kept (by simp [Event.loop?]) rfl
  | @signalled caller slot free recorded =>
    change ∃ next, (state.update slot.loop _).loops[name]? = some next ∧ _
    rw [loops_update, found]
    by_cases same : slot.loop = name
    · exact ⟨{ loop with signalled := true }, by simp [same], .told⟩
    · exact ⟨loop, by simp [same], .stays (by simp [Event.loop?])⟩
  | joined waits holds ended => exact kept (by simp [Event.loop?]) (by simp [dismiss])
  | timedOut waits holds => exact kept (by simp [Event.loop?]) (by simp [dismiss])
  | checked waits lacks => exact kept (by simp [Event.loop?]) rfl
  | left moved => exact placed moved .left rfl
  | entered moved => exact placed moved .entered rfl
  | begun moved free => exact placed moved .begun rfl
  | @finished other held =>
    obtain ⟨signalled, moved⟩ := cycling other held
    exact placed moved .finished rfl
  | @crashed other held =>
    obtain ⟨signalled, moved⟩ := cycling other held
    exact placed moved .crashed rfl
  | woken moved => exact placed moved .woken rfl
  | noticed moved => exact placed moved .noticed rfl
  | deserted moved nobody => exact placed moved .deserted rfl
  | closed moved => exact placed moved .closed rfl
  | completed moved => exact placed moved .completed rfl
  | triggered free => exact kept (by simp [Event.loop?]) rfl
  | released held => exact kept (by simp [Event.loop?]) rfl

/-- Only starting makes a loop, and it makes one. -/
theorem length (outcome : state.Step event answer after) :
    after.loops.length =
      state.loops.length + if event = .start ∧ answer = some true then 1 else 0 := by
  cases outcome <;> simp [place, update, dismiss]

/-- A loop that was not there before was just started, and is in the slot. -/
theorem new (outcome : state.Step event answer after) (absent : state.loops[name]? = none)
    {loop : Loop} (found : after.loops[name]? = some loop) :
    event = .start ∧ answer = some true ∧ loop = ⟨.ready, false⟩ ∧
      after.slot = some ⟨name, some ⟨name⟩⟩ := by
  have beyond : state.loops.length ≤ name := List.getElem?_eq_none_iff.mp absent
  have within : name < after.loops.length := (List.getElem?_eq_some_iff.mp found).1
  have length := outcome.length
  split at length
  · next starts =>
    obtain ⟨rfl, rfl⟩ := starts
    cases outcome
    obtain rfl : name = state.loops.length := by omega
    simp only [List.getElem?_append_right (Nat.le_refl _), Nat.sub_self,
      List.getElem?_cons_zero] at found
    exact ⟨rfl, rfl, (Option.some.inj found).symm, rfl⟩
  · omega

/-- A loop stays in the slot as long as it is alive. -/
theorem recorded (outcome : state.Step event answer after) {handle : Option Handle}
    (recorded : state.slot = some ⟨name, handle⟩) (alive : state.alive name = true) :
    ∃ other, after.slot = some ⟨name, other⟩ := by
  have running : state.isRunning = true := isRunning_iff.mpr ⟨_, recorded, alive⟩
  cases outcome with
  | started resting => cases running.symm.trans resting
  | nothing free empty => cases empty.symm.trans recorded
  | signalled free found =>
    cases found.symm.trans recorded
    exact ⟨none, rfl⟩
  | @joined caller waiter own ending waits holds ended =>
    have stays : (state.dismiss caller).isRunning = true := running
    exact ⟨handle, by simp only [clearEnded, stays, if_true]; exact recorded⟩
  | @timedOut caller waiter own waits holds =>
    unfold putBack
    have present : (state.dismiss caller).slot = some ⟨name, handle⟩ := recorded
    rw [present]
    dsimp only
    split
    · exact ⟨some own, rfl⟩
    · exact ⟨handle, recorded⟩
  | _ => exact ⟨handle, recorded⟩

/-- The loop in the slot was there before or was just started. -/
theorem slot_before (outcome : state.Step event answer after) {handle : Option Handle}
    (recorded : after.slot = some ⟨name, handle⟩) :
    (∃ other, state.slot = some ⟨name, other⟩) ∨
      after.loops.length = state.loops.length + 1 ∧ name = state.loops.length := by
  cases outcome with
  | started resting =>
    cases recorded
    exact Or.inr ⟨by simp, rfl⟩
  | @signalled caller slot free found =>
    cases recorded
    exact Or.inl ⟨slot.handle, found⟩
  | joined waits holds ended =>
    have same := slot_of_clearEnded recorded
    exact Or.inl ⟨handle, same⟩
  | timedOut waits holds =>
    rcases slot_of_putBack recorded with same | ⟨former, _⟩
    · exact Or.inl ⟨handle, same⟩
    · exact Or.inl ⟨none, former⟩
  | _ => exact Or.inl ⟨handle, recorded⟩

/-- A handle was in the slot or with a stop before, or its loop was just started. -/
theorem holds_before (outcome : state.Step event answer after) {handle : Handle}
    (holds : after.Holds handle) :
    state.Holds handle ∨
      after.loops.length = state.loops.length + 1 ∧ handle.loop = state.loops.length := by
  have remains {caller : Nat} {waiter : Waiter} (member : waiter ∈ (state.dismiss caller).waiters)
      (own : waiter.handle = some handle) : state.Holds handle :=
    Or.inr ⟨waiter, (List.mem_filter.mp member).1, own⟩
  cases outcome with
  | started resting =>
    rcases holds with ⟨name, placed⟩ | waits
    · cases placed
      exact Or.inr ⟨by simp, rfl⟩
    · exact Or.inl (Or.inr waits)
  | @signalled caller slot free recorded =>
    rcases holds with ⟨name, placed⟩ | ⟨waiter, member, own⟩
    · cases placed
    · rcases List.mem_append.mp member with before | last
      · exact Or.inl (Or.inr ⟨waiter, before, own⟩)
      · obtain rfl := List.mem_singleton.mp last
        obtain ⟨name, taken⟩ := slot
        obtain rfl : taken = some handle := own
        exact Or.inl (Or.inl ⟨name, recorded⟩)
  | joined waits _ ended =>
    rcases holds with ⟨name, placed⟩ | ⟨waiter, member, own⟩
    · have same := slot_of_clearEnded placed
      exact Or.inl (Or.inl ⟨name, same⟩)
    · rw [waiters_clearEnded] at member
      exact Or.inl (remains member own)
  | timedOut waits own =>
    rcases holds with ⟨name, placed⟩ | ⟨waiter, member, own⟩
    · rcases slot_of_putBack placed with same | ⟨_, back, _⟩
      · exact Or.inl (Or.inl ⟨name, same⟩)
      · cases back
        exact Or.inl (holds_of_waiter? waits own)
    · rw [waiters_putBack] at member
      exact Or.inl (remains member own)
  | checked waits lacks =>
    rcases holds with placed | ⟨waiter, member, own⟩
    · exact Or.inl (Or.inl placed)
    · exact Or.inl (remains member own)
  | _ => exact Or.inl holds

/-- The handle of another loop comes into the slot by a stop whose time runs out before the task of
that loop is finished. -/
theorem foreign_before (outcome : state.Step event answer after) {handle : Handle}
    (placed : after.slot = some ⟨name, some handle⟩) (foreign : handle.loop ≠ name) :
    state.slot = some ⟨name, some handle⟩ ∨
      ∃ caller waiter, event = .timedOut caller ∧ answer = some false ∧
        state.waiter? caller = some waiter ∧ waiter.handle = some handle ∧
        state.slot = some ⟨name, none⟩ ∧ state.ending? handle = none := by
  cases outcome with
  | started resting =>
    cases placed
    exact absurd rfl foreign
  | signalled free found => cases placed
  | joined waits holds ended =>
    have same := slot_of_clearEnded placed
    exact Or.inl same
  | @timedOut caller waiter own waits holds =>
    rcases slot_of_putBack placed with same | ⟨former, back, unfinished⟩
    · exact Or.inl same
    · cases back
      exact Or.inr ⟨caller, waiter, rfl, rfl, waits, holds, former, unfinished⟩
  | _ => exact Or.inl placed

/-- The lock is taken where it is free, and freed by its holder. -/
theorem lock (outcome : state.Step event answer after) :
    (∃ holder, event.begins? = some holder ∧ state.lock = none ∧ after.lock = some holder) ∨
      (∃ holder, event.begins? = none ∧ event.ends? = some holder ∧ state.lock = some holder ∧
        after.lock = none) ∨
      (event.begins? = none ∧ event.ends? = none ∧ after.lock = state.lock) := by
  cases outcome with
  | begun found free => exact Or.inl ⟨_, rfl, free, rfl⟩
  | triggered free => exact Or.inl ⟨_, rfl, free, rfl⟩
  | finished held => exact Or.inr (Or.inl ⟨_, rfl, rfl, held, rfl⟩)
  | crashed held => exact Or.inr (Or.inl ⟨_, rfl, rfl, held, rfl⟩)
  | released held => exact Or.inr (Or.inl ⟨_, rfl, rfl, held, rfl⟩)
  | joined waits holds ended => exact Or.inr (Or.inr ⟨rfl, rfl, lock_clearEnded _⟩)
  | timedOut waits holds => exact Or.inr (Or.inr ⟨rfl, rfl, lock_putBack _ _⟩)
  | _ => exact Or.inr (Or.inr ⟨rfl, rfl, rfl⟩)

/-- A stop keeps waiting until it is answered. -/
theorem waits (outcome : state.Step event answer after) {caller : Nat} {waiter : Waiter}
    (waits : state.waiter? caller = some waiter) (unanswered : event.answers? ≠ some caller) :
    after.waiter? caller = some waiter := by
  have dismissed {other : Nat} (answers : event.answers? = some other) :
      (state.dismiss other).waiter? caller = some waiter := by
    have different : other ≠ caller := fun same => unanswered (same ▸ answers)
    unfold waiter? at waits ⊢
    unfold dismiss
    rw [List.find?_filter, ← waits]
    congr
    funext candidate
    by_cases own : candidate.caller = caller
    · simp [own, different.symm]
    · simp [own]
  cases outcome with
  | @signalled other slot free recorded =>
    change (state.waiters ++ _).find? _ = some waiter
    unfold waiter? at waits
    rw [List.find?_append, waits]
    rfl
  | joined found holds ended =>
    unfold waiter?
    rw [waiters_clearEnded]
    exact dismissed rfl
  | timedOut found holds =>
    unfold waiter?
    rw [waiters_putBack]
    exact dismissed rfl
  | checked found lacks => exact dismissed rfl
  | _ => exact waits

end Step

/-- How the parts of a poller fit together. -/
structure Sound (state : Lifecycle) : Prop where
  /-- A loop that is alive is in the slot. -/
  recorded : ∀ name, state.alive name = true → ∃ handle, state.slot = some ⟨name, handle⟩
  /-- What is in the slot is a loop. -/
  made : ∀ slot, state.slot = some slot → slot.loop < state.loops.length
  /-- A loop is in a cycle exactly when it holds the lock. -/
  cycling : ∀ name, (∃ signalled, state.loops[name]? = some ⟨.cycling, signalled⟩) ↔
    state.lock = some (.loop name)
  /-- What a handle is for is a loop. -/
  handles : ∀ handle, state.Holds handle → handle.loop < state.loops.length

namespace Sound

variable {state after : Lifecycle} {event : Event} {answer : Option Bool} {name : Nat}

/-- The poller that was never started. -/
theorem idle : Lifecycle.idle.Sound where
  recorded := by simp [alive, Lifecycle.idle]
  made := by simp [Lifecycle.idle]
  cycling := by simp [Lifecycle.idle]
  handles := by simp [Holds, Lifecycle.idle]

/-- What an outcome makes of a loop. -/
theorem turn (sound : state.Sound) (outcome : state.Step event answer after) {loop : Loop}
    (found : state.loops[name]? = some loop) :
    ∃ next, after.loops[name]? = some next ∧ Loop.Turn name event loop next :=
  outcome.turn (fun name => (sound.cycling name).mpr) found

/-- A loop that is alive was alive before or was just started. -/
theorem alive_before (sound : state.Sound) (outcome : state.Step event answer after)
    (alive : after.alive name = true) :
    state.alive name = true ∨
      event = .start ∧ answer = some true ∧ after.slot = some ⟨name, some ⟨name⟩⟩ := by
  obtain ⟨next, found, nextAlive⟩ := alive_iff.mp alive
  cases present : state.loops[name]? with
  | none =>
    obtain ⟨starts, made, _, recorded⟩ := outcome.new present found
    exact Or.inr ⟨starts, made, recorded⟩
  | some loop =>
    obtain ⟨_, same, turn⟩ := sound.turn outcome present
    cases found.symm.trans same
    refine Or.inl (alive_iff.mpr ⟨loop, present, ?_⟩)
    cases dead : loop.isAlive with
    | true => rfl
    | false => cases nextAlive.symm.trans (turn.isAlive_eq_false dead)

/-- A loop that is in a cycle after an outcome holds the lock. -/
theorem holds_lock (sound : state.Sound) (outcome : state.Step event answer after)
    {signalled : Bool} (found : after.loops[name]? = some ⟨.cycling, signalled⟩) :
    after.lock = some (.loop name) := by
  have kept {former : Bool} (cycling : state.loops[name]? = some ⟨.cycling, former⟩)
      (other : event.ends? ≠ some (.loop name)) : after.lock = some (.loop name) := by
    have holds := (sound.cycling name).mp ⟨former, cycling⟩
    rcases outcome.lock with ⟨_, _, free, _⟩ | ⟨_, _, ends, held, _⟩ | ⟨_, _, same⟩
    · cases free.symm.trans holds
    · cases held.symm.trans holds
      exact absurd ends other
    · exact same.trans holds
  cases present : state.loops[name]? with
  | none => cases (outcome.new present found).2.2.1
  | some loop =>
    obtain ⟨next, same, turn⟩ := sound.turn outcome present
    obtain rfl : next = ⟨.cycling, signalled⟩ := Option.some.inj (same.symm.trans found)
    -- Named, so that the cases of the turn are told apart by the phase that it leads to.
    generalize cycling : Loop.mk .cycling signalled = next at turn
    cases turn with
    | stays other =>
      subst cycling
      exact kept present fun ends => other (Event.loop?_of_ends ends)
    | told =>
      obtain ⟨phase, former⟩ := loop
      cases cycling
      exact kept present (by simp [Event.ends?])
    | begun =>
      rcases outcome.lock with ⟨_, begins, _, taken⟩ | ⟨_, begins, _⟩ | ⟨begins, _⟩
      · cases begins
        exact taken
      · cases begins
      · cases begins
    | left => cases cycling
    | entered => cases cycling
    | finished => cases cycling
    | crashed => cases cycling
    | woken => cases cycling
    | noticed => cases cycling
    | deserted => cases cycling
    | closed => cases cycling
    | completed => cases cycling

/-- A loop that holds the lock after an outcome is in a cycle. -/
theorem in_cycle (sound : state.Sound) (outcome : state.Step event answer after)
    (held : after.lock = some (.loop name)) :
    ∃ signalled, after.loops[name]? = some ⟨.cycling, signalled⟩ := by
  -- The lock was taken just now, or the loop has kept it and with it the cycle.
  rcases outcome.lock with ⟨_, begins, _, taken⟩ | ⟨_, _, _, _, freed⟩ | ⟨_, ends, same⟩
  · cases taken.symm.trans held
    obtain rfl := Event.eq_of_begins begins
    cases outcome with
    | @begun _ signalled found free =>
      refine ⟨signalled, ?_⟩
      change (state.place name .cycling).loops[name]? = _
      unfold place
      rw [loops_update, found]
      simp
  · cases freed.symm.trans held
  · obtain ⟨signalled, present⟩ := (sound.cycling name).mpr (same.symm.trans held)
    obtain ⟨next, found, turn⟩ := sound.turn outcome present
    cases turn with
    | stays => exact ⟨signalled, found⟩
    | told => exact ⟨true, found⟩
    | finished => cases ends
    | crashed => cases ends

/-- Every outcome of every event keeps the parts of a poller together. -/
theorem step (sound : state.Sound) (outcome : state.Step event answer after) : after.Sound where
  recorded name alive := by
    rcases sound.alive_before outcome alive with lives | ⟨_, _, fresh⟩
    · obtain ⟨handle, recorded⟩ := sound.recorded name lives
      exact outcome.recorded recorded lives
    · exact ⟨some ⟨name⟩, fresh⟩
  made slot recorded := by
    have length := outcome.length
    rcases outcome.slot_before recorded with ⟨other, former⟩ | ⟨more, last⟩
    · have within := sound.made _ former
      dsimp only at within
      omega
    · omega
  cycling name := ⟨fun ⟨_, found⟩ => sound.holds_lock outcome found, sound.in_cycle outcome⟩
  handles handle holds := by
    have length := outcome.length
    rcases outcome.holds_before holds with former | ⟨more, last⟩
    · have within := sound.handles handle former
      omega
    · omega

/-- The parts of a poller fit together after every run. -/
theorem run (sound : state.Sound) {happened : List Occurrence} {present : Lifecycle}
    (run : state.Run happened present) : present.Sound := by
  induction happened generalizing state with
  | nil =>
    obtain rfl : present = state := run
    exact sound
  | cons occurrence later inductionHypothesis =>
    obtain ⟨after, happens, run⟩ := run
    exact inductionHypothesis (sound.step (step_cases happens)) run

end Sound

end TimedPublishing.Poller.Lifecycle
