import TimedPublishing.Proofs.Interleaving.Races

/-!
# What a conflict names

A call that moves a job ends with a conflict when it finds the new intent with another job, or when
the store refuses the move because another job has come to it since. In the second case the call
looks once more to say which job that is, and by then the other job may be gone again, or have been
moved away. Then it finds nobody, or the very job that was to be moved, which somebody else has
brought there meanwhile, and that job is the one that the error names.

So a conflict tells that another job had the intent in the course of the call, but not always which
one it was.
-/

open TimedPublishing.System (Event)

namespace TimedPublishing

namespace Store

variable {store : Store}

/-- A job is stored with an intent. -/
def Has (store : Store) (key : JobKey) (id : JobId) : Prop :=
  ∃ row, store.find id = some row ∧ row.key = key

/-- Who is found by an intent has it. -/
theorem Indexed.has_of_findByKey (indexed : store.Indexed) {key : JobKey} {row : Job}
    (found : store.findByKey key = some row) : store.Has key row.id :=
  ⟨row, (indexed.findByKey_eq_some_iff key row).mp found⟩

/-- Who has an intent is found by it. -/
theorem Indexed.findByKey_of_has (indexed : store.Indexed) {key : JobKey} {id : JobId}
    (has : store.Has key id) : ∃ row, store.findByKey key = some row ∧ row.id = id := by
  obtain ⟨row, found, sameKey⟩ := has
  obtain rfl := indexed.named id row found
  exact ⟨row, (indexed.findByKey_eq_some_iff key row).mpr ⟨found, sameKey⟩, rfl⟩

/-- A move is refused for an intent only if another job has the intent. -/
theorem Indexed.rival_of_refused (indexed : store.Indexed) {moved : Job} {key : JobKey}
    (refused : (store.answer (.updateIfQueued moved)).1 = .error (.duplicateKey key)) :
    ∃ other, other ≠ moved.id ∧ store.Has moved.key other := by
  have refused : (store.updateIfQueued moved).1 = .error (.duplicateKey key) := refused
  rcases store.updateIfQueued_cases moved with
    ⟨_, answered⟩ | ⟨_, rejected, _⟩ | ⟨_, _, answered⟩
  · rw [answered] at refused
    cases refused
  · obtain ⟨other, notAdmitted⟩ := not_forall.mp rejected
    obtain ⟨owns, different⟩ := Classical.not_imp.mp notAdmitted
    exact ⟨other, different, (indexed.owned moved.key other).mp owns⟩
  · rw [answered] at refused
    cases refused

end Store

namespace Scene

/-- What is true of a call to move a job that ends with a conflict, by the job that it names. -/
inductive Conflicting (start : Scene) (events : List Event) (last : Scene) (id : JobId)
    (key : JobKey) : JobId → Prop
  /-- The job that is named is another one and had the intent. -/
  | rival {existing : JobId} (other : existing ≠ id)
      (had : start.Sometime events last fun store => store.Has key existing) :
    Conflicting start events last id key existing
  /-- The job that is named is the one that was to be moved. Another one had the intent at one
  moment, and no other had it any more at a later one. -/
  | withdrawn {earlier between later : List Event} {refused looked : Scene} {rival : JobId}
      (split : events = earlier ++ between ++ later) (toRefusal : Run start earlier refused)
      (meanwhile : Run refused between looked) (since : Run looked later last)
      (other : rival ≠ id) (had : refused.store.Has key rival)
      (gone : ∀ holder, looked.store.Has key holder → holder = id) :
    Conflicting start events last id key id

variable {start present last : Scene} {index : Nat} {events : List Event} {scheduler : Scheduler}
  {id : JobId} {publishAt : Instant}

/-- Whichever job a conflict names, another one had the intent in the course of the call. -/
theorem Conflicting.sometime_rival {key : JobKey} {existing : JobId}
    (conflicting : start.Conflicting events last id key existing) :
    start.Sometime events last fun store => ∃ other, other ≠ id ∧ store.Has key other := by
  cases conflicting with
  | rival other had => exact had.mono fun _ had => ⟨existing, other, had⟩
  | withdrawn split toRefusal meanwhile since other had gone =>
    subst split
    rw [List.append_assoc]
    exact .of_runs toRefusal (meanwhile.append since) ⟨_, other, had⟩

/-- A call that was refused an intent, and looks for the job that has it, names that job, or its own
one where it finds no other. -/
theorem Conflicting.of_second_look {earlier between later : List Event} {refused looked : Scene}
    {key : JobKey} {rival : JobId} {other : Option Job} (toRefusal : Run start earlier refused)
    (meanwhile : Run refused between looked) (since : Run looked later last)
    (indexed : looked.store.Indexed) (different : rival ≠ id) (had : refused.store.Has key rival)
    (found : looked.store.findByKey key = other) :
    start.Conflicting (earlier ++ between ++ later) last id key
      ((other.map Job.id).getD id) := by
  have withdrawn (gone : ∀ row, other = some row → row.id = id) :
      start.Conflicting (earlier ++ between ++ later) last id key id := by
    refine .withdrawn rfl toRefusal meanwhile since different had fun holder has => ?_
    obtain ⟨row, present, rfl⟩ := indexed.findByKey_of_has has
    exact gone row (found.symm.trans present)
  cases other with
  | none => exact withdrawn (by simp)
  | some row =>
    change start.Conflicting (earlier ++ between ++ later) last id key row.id
    by_cases own : row.id = id
    · rw [own]
      exact withdrawn fun _ same => Option.some.inj same ▸ own
    · exact .rival own
        (.of_runs (toRefusal.append meanwhile) since (indexed.has_of_findByKey found))

namespace Run

/-- Whoever is told that a job was found by an intent was told who then had the intent. -/
theorem sometime_has (sound : start.Sound) (run : Run start events last) {before after : Dialogue}
    {key : JobKey} {job : Job}
    (said : dialogue index events = before ++ .store (.findByKey key) (.ok (some job)) :: after) :
    start.Sometime events last fun store => store.Has key job.id := by
  obtain ⟨earlier, hand, later, scene, next, rfl, _, _, answer, _, past, step, since⟩ :=
    run.answered_ok said
  exact .of_runs past ((one step).append since)
    ((sound.run past).indexed.has_of_findByKey (Except.ok.inj answer))

/-- A request that is answered with a taken intent was refused by the store. -/
theorem answered_duplicate (run : Run start events last) {before after : Dialogue}
    {call : StoreCall} {key : JobKey}
    (said : dialogue index events = before ++ .store call (.error (.duplicateKey key)) :: after) :
    ∃ earlier event later scene next,
      events = earlier ++ event :: later ∧ dialogue index later = after ∧
      (scene.store.answer call).1 = .error (.duplicateKey key) ∧
      Run start earlier scene ∧ scene.Step event next ∧ Run next later last := by
  obtain ⟨earlier, hand, course, later, scene, next, rfl, _, sameAfter, reply, past, step, since,
    _⟩ := run.answered said
  cases course with
  | unwritten detail => cases reply
  | unreported detail => cases reply
  | regular => exact ⟨earlier, _, later, scene, next, rfl, sameAfter, reply, past, step, since⟩

/-- A call to move a job that ends with a conflict is about the intent that it asked for, and names
another job that had it, or its own job where the other one is gone by the second look. -/
theorem conflicting (sound : start.Sound) (run : Run start events last) {key : JobKey}
    {existing : JobId}
    (way : scheduler.Rescheduling id publishAt (dialogue index events)
      (.error (.scheduleConflict key existing))) :
    key.publishAt = publishAt ∧
      (start.Sometime events last fun store =>
        ∃ job, store.find id = some job ∧ job.status = .queued ∧ job.content = key.content) ∧
      start.Conflicting events last id key existing := by
  generalize said : dialogue index events = exchanges at way
  cases way with
  | unloaded unloaded => cases unloaded
  | @taken job queued check future other different =>
    refine ⟨rfl, ?_, ?_⟩
    · exact (@sometime_found _ _ _ _ run [] _ _ _ said).mono
        fun _ found => ⟨job, found, queued, rfl⟩
    · exact .rival different (@sometime_has _ _ _ _ sound run
        [.store (.find id) (.ok (some job)), .clock check] [] _ _ said)
  | @moving job queued check future owner free more _ moving elsewhere =>
    cases moving with
    | vanished moves unloaded => cases unloaded
    | @conflict now moved moves key other =>
      refine ⟨rfl, (@sometime_found _ _ _ _ run [] _ _ _ said).mono
        fun _ found => ⟨job, found, queued, rfl⟩, ?_⟩
      have own : job.id = id := by
        obtain ⟨_, _, _, scene, _, _, _, _, found, _, past, _, _⟩ :=
          @answered_ok _ _ _ _ run [] _ _ _ said
        exact (sound.run past).id_of_find (Except.ok.inj found)
      have sameId : moved.id = id := by
        obtain ⟨_, rfl⟩ := Job.reschedule_eq_ok moves
        exact own
      have sameKey : moved.key = ⟨job.content, publishAt⟩ := by
        obtain ⟨_, rfl⟩ := Job.reschedule_eq_ok moves
        rfl
      obtain ⟨earlier, event, rest, refused, next, rfl, sameRest, answer, toRefusal, step,
        onwards⟩ := @answered_duplicate _ _ _ _ run
          [.store (.find id) (.ok (some job)), .clock check,
            .store (.findByKey ⟨job.content, publishAt⟩) (.ok owner), .clock now] _ _ _ said
      obtain ⟨rival, different, had⟩ :=
        (sound.run toRefusal).indexed.rival_of_refused answer
      rw [sameId] at different
      rw [sameKey] at had
      obtain ⟨between, hand, later, looked, after, rfl, _, _, found, _, meanwhile, look, since⟩ :=
        @answered_ok _ _ _ _ onwards [] [] _ _ sameRest
      have toLook : Run refused (event :: between) looked := (one step).append meanwhile
      have sound : looked.Sound := (sound.run toRefusal).run toLook
      have told := Conflicting.of_second_look toRefusal toLook ((one look).append since)
        sound.indexed different had (Except.ok.inj found)
      simpa using told

/-- There is a run in which a caller moves a job to a free time. Between its look at that time and
its write, another caller schedules the content there; and between its write and its second look, a
third one withdraws the job that was made. The conflict names the job that was to be moved. -/
theorem exists_conflict_with_itself :
    let scheduler : Scheduler := ⟨.standard, .ofSeconds 0⟩
    ∃ past present events last, Run .initial past present ∧
      present.Finishes 1 scheduler (.reschedule ⟨1⟩ .latest) events last
        (.error (.scheduleConflict ⟨⟨"post"⟩, .latest⟩ ⟨1⟩)) := by
  intro scheduler
  have resting {events : List Event} {scene : Scene} (_ : Run initial events scene) :
      Run scene [] scene := .none
  have enters := (@Run.none initial).snoc (.usual
    (@System.Step.begin System.initial 0 scheduler (.schedule ⟨"post"⟩ .epoch) rfl (by simp)))
  have checked := enters.snoc (.usual (@System.Step.look _ 0 _ _ rfl rfl .earliest))
  have missed := checked.snoc (.usual (@System.Step.ask _ 0 _ _ _ rfl rfl .regular))
  have dated := missed.snoc (.usual (@System.Step.look _ 0 _ _ rfl rfl .earliest))
  have named := dated.snoc (.usual (@System.Step.name _ 0 _ _ rfl rfl ⟨1⟩ (by decide)))
  have saved := named.snoc (.usual (@System.Step.ask _ 0 _ _ _ rfl rfl .regular))
  -- The call to move the job looks for the new intent and finds it free.
  have moves := (resting saved).snoc (.usual
    (@System.Step.begin _ 1 scheduler (.reschedule ⟨1⟩ .latest) rfl (by simp)))
  have found := moves.snoc (.usual (@System.Step.ask _ 1 _ _ _ rfl rfl .regular))
  have future := found.snoc (.usual (@System.Step.look _ 1 _ _ rfl rfl .earliest))
  have free := future.snoc (.usual (@System.Step.ask _ 1 _ _ _ rfl rfl .regular))
  have changed := free.snoc (.usual (@System.Step.look _ 1 _ _ rfl rfl .earliest))
  -- Another caller makes a job for that intent, and the move is refused.
  have rivals := changed.snoc (.usual
    (@System.Step.begin _ 2 scheduler (.schedule ⟨"post"⟩ .latest) rfl (by simp)))
  have rivalChecked := rivals.snoc (.usual (@System.Step.look _ 2 _ _ rfl rfl .earliest))
  have rivalMissed := rivalChecked.snoc (.usual (@System.Step.ask _ 2 _ _ _ rfl rfl .regular))
  have rivalDated := rivalMissed.snoc (.usual (@System.Step.look _ 2 _ _ rfl rfl .earliest))
  have rivalNamed := rivalDated.snoc
    (.usual (@System.Step.name _ 2 _ _ rfl rfl ⟨2⟩ (by decide)))
  have rivalSaved := rivalNamed.snoc (.usual (@System.Step.ask _ 2 _ _ _ rfl rfl .regular))
  have refused := rivalSaved.snoc (.usual (@System.Step.ask _ 1 _ _ _ rfl rfl .regular))
  -- A third caller withdraws that job, and the second look finds nobody.
  have withdraws := refused.snoc (.usual
    (@System.Step.begin _ 3 scheduler (.unschedule ⟨2⟩) rfl (by simp)))
  have rivalFound := withdraws.snoc (.usual (@System.Step.ask _ 3 _ _ _ rfl rfl .regular))
  have withdrawn := rivalFound.snoc (.usual (@System.Step.ask _ 3 _ _ _ rfl rfl .regular))
  have unfound := withdrawn.snoc (.usual (@System.Step.ask _ 1 _ _ _ rfl rfl .regular))
  let given : Caller :=
    ⟨scheduler, .reschedule ⟨1⟩ .latest,
      .fail (.scheduleConflict ⟨⟨"post"⟩, .latest⟩ ⟨1⟩),
      .read (.create ⟨1⟩ ⟨"post"⟩ .epoch .earliest)⟩
  exact ⟨_, _, _, _, saved, ⟨unfound, by simp⟩, _,
    .usual (@System.Step.fail _ 1 given _ rfl rfl)⟩

/-- In every interleaving over one store, a call to move a job that ends with a conflict was asked
for the intent that it tells of. In the course of it the job was in the queue with that content, and
another job had the intent. The job that is named is another one that had the intent in the course
of the call; or it is the very job that was to be moved, where the other one had the intent at one
moment and no other job had it any more at a later one.

Proof: a conflict is told at one of two looks at the intent. At the first one, a job of another name
was found there. Before the second one, the store has refused the move, which it does only for an
intent that another job has. -/
theorem conflict_owned_or_withdrawn {past : List Event} (reached : Run .initial past present)
    {key : JobKey} {existing : JobId}
    (call : present.Finishes index scheduler (.reschedule id publishAt) events last
      (.error (.scheduleConflict key existing))) :
    let whole := .began index scheduler (.reschedule id publishAt) :: events
    key.publishAt = publishAt ∧
      (present.Sometime whole last fun store =>
        ∃ job, store.find id = some job ∧ job.status = .queued ∧ job.content = key.content) ∧
      (present.Sometime whole last fun store => ∃ other, other ≠ id ∧ store.Has key other) ∧
      present.Conflicting whole last id key existing := by
  intro whole
  have way : scheduler.Rescheduling id publishAt (dialogue index whole)
      (.error (.scheduleConflict key existing)) := by
    rw [dialogue_of_began]
    exact call.gives
  obtain ⟨sameTime, found, conflicting⟩ := conflicting reached.sound call.run way
  exact ⟨sameTime, found, conflicting.sometime_rival, conflicting⟩

/-- A conflict names the job that was to be moved, and another job had the intent in the course of
the call. -/
theorem conflict_owned_or_withdrawn_by_rival :
    ∃ past present index scheduler events last, Run .initial past present ∧
      present.Finishes index scheduler (.reschedule ⟨1⟩ .latest) events last
        (.error (.scheduleConflict ⟨⟨"post"⟩, .latest⟩ ⟨1⟩)) ∧
      present.Sometime (.began index scheduler (.reschedule ⟨1⟩ .latest) :: events) last
        fun store => ∃ other, other ≠ ⟨1⟩ ∧ store.Has ⟨⟨"post"⟩, .latest⟩ other := by
  obtain ⟨past, present, events, last, reached, call⟩ := exists_conflict_with_itself
  exact ⟨past, present, _, _, events, last, reached, call,
    (conflict_owned_or_withdrawn reached call).2.2.1⟩

/-- A conflict does not always name another job. -/
theorem not_conflict_with_another :
    ¬ ∀ (past : List Event) (present : Scene) (index : Nat) (scheduler : Scheduler) (id : JobId)
        (publishAt : Instant) (events : List Event) (last : Scene) (key : JobKey)
        (existing : JobId), Run .initial past present →
      present.Finishes index scheduler (.reschedule id publishAt) events last
        (.error (.scheduleConflict key existing)) →
      existing ≠ id ∧
        present.Sometime (.began index scheduler (.reschedule id publishAt) :: events) last
          fun store => store.Has ⟨key.content, publishAt⟩ existing := by
  intro always
  obtain ⟨past, present, events, last, reached, call⟩ := exists_conflict_with_itself
  exact (always _ _ _ _ _ _ _ _ _ _ reached call).1 rfl

end Run

end Scene

end TimedPublishing
