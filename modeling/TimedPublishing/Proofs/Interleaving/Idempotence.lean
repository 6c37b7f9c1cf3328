import TimedPublishing.Proofs.Interleaving.Races

/-!
# Scheduling an intent more than once

Calls that make the job for one intent may come together: each looks, finds nothing, makes a job
of its own and tries to save it. One of them is first, and the others are refused and look again.
As long as nobody withdraws a job, a row keeps its intent, so the second look finds the job that
was first, in whatever status it is by then. A refused save means that the intent is taken, for a
new name is of no stored job and so of none that has ended.

While nobody withdraws and the store does not fail, the scene is `Calm`.
-/

open TimedPublishing.System (Event)

namespace TimedPublishing

/-- The operations that may take a job away from its intent. -/
def Operation.Withdraws : Operation → Prop
  | unschedule _ => True
  | reschedule _ _ => True
  | _ => False

/-- Nobody begins to withdraw a job, and the store treats a request as it should. -/
def System.Event.Calm : Event → Prop
  | began _ _ operation => ¬ operation.Withdraws
  | asked _ _ _ course _ => course = .regular
  | _ => True

/-- A new job is saved, unless another job has its intent. -/
theorem Store.Indexed.save_new {store : Store} (indexed : store.Indexed) {job : Job}
    (absent : store.find job.id = none) :
    store.save job = (.ok job, store.write job) ∨
      (store.save job = (.error (.duplicateKey job.key), store) ∧
        ∃ id row, store.find id = some row ∧ row.key = job.key) := by
  rcases store.save_cases job with ⟨⟨row, found, _⟩, _⟩ | ⟨_, rejected, refused⟩ | ⟨_, _, written⟩
  · cases absent.symm.trans found
  · right
    refine ⟨refused, ?_⟩
    by_contra vacant
    push Not at vacant
    exact rejected (indexed.admits_of_absent vacant)
  · exact Or.inl written

namespace Scene

/-- Nobody withdraws a job in the course of some events, and the store does not fail. -/
structure Calm (scene : Scene) (events : List Event) : Prop where
  callers : ∀ {index caller}, scene.system.callers index = some caller →
    ¬ caller.operation.Withdraws
  events : ∀ event ∈ events, event.Calm

/-- Whoever is there after a step was there before with the same operation, or just began it. -/
theorem Step.operation_cases {scene after : Scene} {event : Event} (step : scene.Step event after)
    {index : Nat} {caller : Caller} (present : after.system.callers index = some caller) :
    (∃ former, scene.system.callers index = some former ∧ former.operation = caller.operation) ∨
      ∃ scheduler, event = .began index scheduler caller.operation := by
  by_cases own : event.caller = index
  · cases found : scene.system.callers index with
    | none =>
      obtain ⟨scheduler, operation, rfl⟩ := step.began_of_idle own found
      cases step.callers_of_began.symm.trans present
      exact Or.inr ⟨scheduler, rfl⟩
    | some former =>
      rcases step.speaks own found with ⟨outcome, rfl⟩ | ⟨call, resume, reply, _, _, resumed⟩
      · cases step.callers_of_ended.symm.trans present
      · cases resumed.symm.trans present
        exact Or.inl ⟨former, rfl, rfl⟩
  · exact Or.inl ⟨caller, (step.callers_of_ne own).symm.trans present, rfl⟩

namespace Calm

variable {scene middle after present : Scene} {event : Event} {earlier later events : List Event}

/-- The first part of calm events is calm. -/
theorem left (calm : scene.Calm (earlier ++ later)) : scene.Calm earlier where
  callers := calm.callers
  events := fun event member => calm.events event (List.mem_append_left _ member)

/-- After a calm step the rest is still calm. -/
theorem step (calm : scene.Calm (event :: later)) (step : scene.Step event after) :
    after.Calm later where
  callers := by
    intro index caller present
    rcases step.operation_cases present with ⟨former, found, same⟩ | ⟨scheduler, rfl⟩
    · exact same ▸ calm.callers found
    · exact calm.events _ List.mem_cons_self
  events := fun event member => calm.events event (List.mem_cons_of_mem _ member)

/-- After the first part of calm events the rest is still calm. -/
theorem right (calm : scene.Calm (earlier ++ later)) (past : Run scene earlier middle) :
    middle.Calm later := by
  induction past generalizing later with
  | none => exact calm
  | snoc _ step inductionHypothesis =>
    rw [List.append_assoc] at calm
    exact (inductionHypothesis calm).step step

/-- A row stays under its intent as long as nobody withdraws a job. -/
theorem keeps_step (calm : scene.Calm (event :: later)) (sound : scene.Sound)
    (step : scene.Step event after) {id : JobId} {row : Job}
    (found : scene.store.find id = some row) :
    ∃ kept, after.store.find id = some kept ∧ kept.key = row.key := by
  rcases sound.row_step step id with same | ⟨index, hand, call, course, reply, rfl, _, _, turn⟩
  · exact ⟨row, same.trans found, rfl⟩
  · obtain ⟨caller, resume, present, asks, _⟩ := step.asked
    obtain ⟨said, speaks⟩ := sound.said present
    have allowed := Operation.asks_of_protocol (speaks.asks asks)
    have stays := calm.callers present
    rw [found] at turn
    generalize left : after.store.find id = rest at turn ⊢
    cases turn with
    | claimed granted =>
      obtain ⟨_, rfl⟩ := Job.claim_eq_ok granted
      exact ⟨_, rfl, rfl⟩
    | concluded _ sameKey _ => exact ⟨_, rfl, sameKey⟩
    | moved queued moves =>
      obtain ⟨own, publishAt, _, _, _, _, withdraws, _⟩ := allowed
      rw [withdraws] at stays
      exact absurd trivial stays
    | deleted queued =>
      have withdraws : caller.operation = .unschedule _ := allowed
      rw [withdraws] at stays
      exact absurd trivial stays

/-- A row stays under its intent as long as nobody withdraws a job. -/
theorem keeps (calm : scene.Calm events) (sound : scene.Sound) (run : Run scene events present)
    {id : JobId} {row : Job} (found : scene.store.find id = some row) :
    ∃ kept, present.store.find id = some kept ∧ kept.key = row.key := by
  induction run with
  | none => exact ⟨row, found, rfl⟩
  | snoc past step inductionHypothesis =>
    obtain ⟨kept, stored, sameKey⟩ := inductionHypothesis calm.left
    obtain ⟨last, shown, lastKey⟩ := (calm.right past).keeps_step (sound.run past) step stored
    exact ⟨last, shown, lastKey.trans sameKey⟩

/-- In a calm scene a caller is replied what the store answers. -/
theorem answered (calm : scene.Calm events) (run : Run scene events present) {index : Nat}
    {before rest : Dialogue} {call : StoreCall} {reply : call.Reply}
    (said : dialogue index events = before ++ .store call reply :: rest) :
    ∃ earlier hand later first next,
      events = earlier ++ .asked index hand call .regular reply :: later ∧
      dialogue index later = rest ∧
      (first.store.answer call).1 = reply ∧ next.store = (first.store.answer call).2 ∧
      Run scene earlier first ∧ first.Step (.asked index hand call .regular reply) next ∧
      Run next later present := by
  obtain ⟨earlier, hand, course, later, first, next, rfl, _, sameRest, replied, past, step, since,
    left⟩ := run.answered said
  obtain rfl : course = .regular := calm.events _ (List.mem_append_right _ List.mem_cons_self)
  have answer : (first.store.answer call).1 = reply := replied
  rw [answer] at step ⊢
  exact ⟨earlier, hand, later, first, next, rfl, sameRest, answer, left, past, step, since⟩

/-- In a calm scene a look-up by intent is answered, and only with a job that is stored then and has
that intent. -/
theorem looked_up (calm : scene.Calm events) (sound : scene.Sound) (run : Run scene events present)
    {index : Nat} {key : JobKey} {reply : (StoreCall.findByKey key).Reply}
    (asked : .store (.findByKey key) reply ∈ dialogue index events) :
    ∃ found, reply = .ok found ∧ ∀ job, found = some job → job.key = key ∧
      scene.Sometime events present fun store => store.find job.id = some job := by
  obtain ⟨before, rest, said⟩ := List.append_of_mem asked
  obtain ⟨earlier, hand, later, first, next, rfl, _, answer, _, past, step, since⟩ :=
    calm.answered run said
  refine ⟨first.store.findByKey key, answer.symm, ?_⟩
  intro job found
  obtain ⟨stored, sameKey⟩ := ((sound.run past).indexed.findByKey_eq_some_iff key job).mp found
  exact ⟨sameKey, .of_runs past ((Run.one step).append since) stored⟩

end Calm

/-- A job that is about to be saved as new is not stored. -/
theorem Sound.find_of_created {scene after : Scene} (sound : scene.Sound) {index : Nat}
    {hand : Hand} {id : JobId} {content : ContentId} {publishAt now : Instant} {course : Course}
    {reply : (StoreCall.save (.create id content publishAt now)).Reply}
    (step : scene.Step (.asked index hand (.save (.create id content publishAt now)) course reply)
      after) : scene.store.find id = none := by
  obtain ⟨caller, resume, found, asks, _⟩ := step.asked
  rcases sound.permitted found asks with ⟨_, _, _, named, _⟩ | ⟨copy, answer, _, _, entered⟩
  · exact sound.find_of_named found named
  · exact absurd rfl (Scheduler.outcome_concludes entered).moved_on.1

variable {start present last : Scene} {index : Nat} {events : List Event} {scheduler : Scheduler}
variable {content : ContentId} {publishAt : Instant}

/-- In a calm scene a new job is stored when it is saved, or another job has its intent from then
on. -/
theorem Calm.saved (calm : start.Calm events) (sound : start.Sound) (run : Run start events last)
    {before rest : Dialogue} {id : JobId} {now : Instant}
    {reply : (StoreCall.save (.create id content publishAt now)).Reply}
    (said : dialogue index events =
      before ++ .store (.save (.create id content publishAt now)) reply :: rest) :
    (reply = .ok (.create id content publishAt now) ∧
        start.Sometime events last fun store =>
          store.find id = some (.create id content publishAt now)) ∨
      (reply = .error (.duplicateKey ⟨content, publishAt⟩) ∧
        ∀ answer,
          .store (.findByKey ⟨content, publishAt⟩) (.ok answer) ∈ rest → answer ≠ none) := by
  obtain ⟨earlier, hand, later, first, next, rfl, rfl, answer, left, past, step, since⟩ :=
    calm.answered run said
  have answer : (first.store.save (.create id content publishAt now)).1 = reply := answer
  have left : next.store = (first.store.save (.create id content publishAt now)).2 := left
  have firstSound : first.Sound := sound.run past
  have absent : first.store.find (Job.create id content publishAt now).id = none :=
    firstSound.find_of_created step
  rcases firstSound.indexed.save_new absent with written | ⟨refused, other, row, found, sameKey⟩
  · rw [written] at answer
    refine Or.inl ⟨answer.symm, earlier ++ [_], later, next, by simp, past.snoc step, since, ?_⟩
    change next.store.find id = some _
    rw [left, written, Store.find_write]
    exact if_pos rfl
  · rw [refused] at answer
    have found : next.store.find other = some row := by rw [left, refused, found]
    refine Or.inr ⟨answer.symm, ?_⟩
    rintro _ asked rfl
    obtain ⟨_, _, again⟩ := List.append_of_mem asked
    have nextSound : next.Sound := firstSound.step step
    have nextCalm : next.Calm later := (calm.right past).step step
    obtain ⟨_, _, _, second, _, rfl, _, missing, _, meanwhile, _, _⟩ :=
      nextCalm.answered since again
    obtain ⟨kept, stored, keptKey⟩ := nextCalm.left.keeps nextSound meanwhile found
    have secondSound : second.Sound := nextSound.run meanwhile
    have shows := (secondSound.indexed.findByKey_eq_some_iff ⟨content, publishAt⟩ kept).mpr
      ⟨(secondSound.id_of_find stored).symm ▸ stored, keptKey.trans sameKey⟩
    cases shows.symm.trans (Except.ok.inj missing)

/-- In a calm scene a call that makes the job for an intent gives the job that has it, as it was
stored at some moment of the call, unless the time asked for is past. -/
theorem Run.scheduled (run : Run start events last) (sound : start.Sound) (calm : start.Calm events)
    {outcome : Except ScheduleError Job}
    (way : scheduler.Scheduling content publishAt (dialogue index events) outcome) :
    ∃ check more, dialogue index events = .clock check :: more ∧
      ((publishAt.isFuture scheduler.grace check = false ∧ more = [] ∧
          outcome = .error (.publishTimePast publishAt)) ∨
        (publishAt.isFuture scheduler.grace check = true ∧ ∃ job, outcome = .ok job ∧
          job.key = ⟨content, publishAt⟩ ∧
          start.Sometime events last fun store => store.find job.id = some job)) := by
  have looks {key : JobKey} {reply : (StoreCall.findByKey key).Reply}
      (asked : .store (.findByKey key) reply ∈ dialogue index events) :=
    calm.looked_up sound run asked
  have saves {before rest : Dialogue} {id : JobId} {now : Instant}
      {reply : (StoreCall.save (.create id content publishAt now)).Reply}
      (said : dialogue index events =
        before ++ .store (.save (.create id content publishAt now)) reply :: rest) :=
    calm.saved sound run said
  generalize dialogue index events = said at way looks saves
  cases way with
  | @past check past => exact ⟨check, [], rfl, Or.inl ⟨past, rfl, rfl⟩⟩
  | @unlooked check future cause =>
    obtain ⟨_, impossible, _⟩ := looks (List.mem_of_getLast? rfl)
    cases impossible
  | @existing check future job =>
    obtain ⟨found, same, shows⟩ := looks (List.mem_of_getLast? rfl)
    cases same
    exact ⟨check, _, rfl, Or.inr ⟨future, job, rfl, shows job rfl⟩⟩
  | @saved check future now id job =>
    rcases @saves (_ :: _ :: _ :: [_]) _ _ _ _ rfl with ⟨same, shown⟩ | ⟨impossible, _⟩
    · cases same
      exact ⟨check, _, rfl, Or.inr ⟨future, _, rfl, rfl, shown⟩⟩
    · cases impossible
  | @unsaved check future now id cause other =>
    rcases @saves (_ :: _ :: _ :: [_]) _ _ _ _ rfl with ⟨impossible, _⟩ | ⟨same, _⟩
    · cases impossible
    · cases same
      exact absurd rfl (other _)
  | @lost check future now id key winner =>
    rcases @saves (_ :: _ :: _ :: [_]) _ _ _ _ rfl with ⟨impossible, _⟩ | ⟨same, _⟩
    · cases impossible
    · cases same
      obtain ⟨found, same, shows⟩ := looks (List.mem_of_getLast? rfl)
      cases same
      exact ⟨check, _, rfl, Or.inr ⟨future, winner, rfl, shows winner rfl⟩⟩
  | @vanished check future now id key =>
    rcases @saves (_ :: _ :: _ :: [_]) _ _ _ _ rfl with ⟨impossible, _⟩ | ⟨same, present⟩
    · cases impossible
    · cases same
      exact absurd rfl (present _ List.mem_cons_self)
  | @unfound check future now id key cause =>
    obtain ⟨_, impossible, _⟩ := looks (List.mem_of_getLast? rfl)
    cases impossible

/-- What is stored under some name at some moment of a calm run has a row with its intent from then
on. -/
theorem Calm.kept {rest : List Event} (calm : start.Calm (events ++ rest)) (sound : start.Sound)
    {job : Job} (sometime : start.Sometime events last fun store => store.find job.id = some job)
    (since : Run last rest present) :
    ∃ row, present.store.find job.id = some row ∧ row.key = job.key := by
  obtain ⟨earlier, later, middle, rfl, past, onwards, found⟩ := sometime
  rw [List.append_assoc] at calm
  exact (calm.right past).keeps (sound.run past) (onwards.append since) found

/-- No request of a calm run is kept back. -/
theorem Calm.reported (calm : start.Calm events) : Reported index events := by
  intro hand call detail answer asked
  cases calm.events _ asked

/-- A call that makes a job has asked no more than its program may. -/
theorem Underway.length_le
    (call : start.Underway index scheduler (.schedule content publishAt) events present) :
    (dialogue index events).length ≤ Operation.scheduleLength := by
  obtain ⟨⟨left, hand, _, said⟩, _⟩ := call.said
  have leads := said.leads
  generalize dialogue index events = exchanges at leads
  rcases List.eq_nil_or_concat exchanges with rfl | ⟨before, last, rfl⟩
  · exact Nat.zero_le _
  · rw [List.concat_eq_append] at leads ⊢
    have asked := ((Operation.schedule content publishAt).obeys scheduler).asked leads
    have below : before.length < Operation.scheduleLength := asked.2
    rw [List.length_append]
    exact below

/-- Whoever is in the middle of a call can go on, also in calm, as long as there are names left. -/
theorem exists_step {scene : Scene} {caller : Caller}
    (found : scene.system.callers index = some caller) (spare : ∃ id, id ∉ scene.system.issued) :
    ∃ event after, scene.Step event after ∧ event.caller = index ∧ event.Calm := by
  cases rest : caller.left with
  | done value => exact ⟨_, _, .usual (.finish found rest), rfl, trivial⟩
  | fail cause => exact ⟨_, _, .usual (.fail found rest), rfl, trivial⟩
  | ask call resume =>
    cases call with
    | clock => exact ⟨_, _, .usual (.look found rest .epoch), rfl, trivial⟩
    | freshId =>
      obtain ⟨id, fresh⟩ := spare
      exact ⟨_, _, .usual (.name found rest fresh), rfl, trivial⟩
    | publish content => exact ⟨_, _, .usual (.publish found rest .published), rfl, trivial⟩
    | store call => exact ⟨_, _, .usual (.ask found rest .regular), rfl, rfl⟩

/-- A whole call that makes the job for an intent, in the course of a run. -/
structure Calling (start : Scene) (events : List Event) (present : Scene) (content : ContentId)
    (publishAt : Instant) where
  {index : Nat}
  {scheduler : Scheduler}
  {ahead during rest : List Event}
  {before last : Scene}
  {outcome : Except ScheduleError Job}
  split : events = ahead ++ (.began index scheduler (.schedule content publishAt) :: during ++ rest)
  past : Run start ahead before
  finishes : before.Finishes index scheduler (.schedule content publishAt) during last outcome
  since : Run last rest present

namespace Calling

/-- The events from the beginning of a call to its end. -/
def whole (call : Calling start events present content publishAt) : List Event :=
  .began call.index call.scheduler (.schedule content publishAt) :: call.during

/-- A call that is given a job is given the one row that has the intent from then on. -/
theorem given (call : Calling start events present content publishAt) (sound : start.Sound)
    (calm : start.Calm events) :
    ∃ check more, dialogue call.index call.during = .clock check :: more ∧
      ((publishAt.isFuture call.scheduler.grace check = false ∧ more = [] ∧
          call.outcome = .error (.publishTimePast publishAt)) ∨
        (publishAt.isFuture call.scheduler.grace check = true ∧
          ∃ job row, call.outcome = .ok job ∧
            (call.before.Sometime call.whole call.last fun store => store.find job.id = some job) ∧
            present.store.find job.id = some row ∧ row.key = ⟨content, publishAt⟩ ∧
            ∀ id other, present.store.find id = some other →
              other.key = ⟨content, publishAt⟩ → id = job.id)) := by
  have calmCall : call.before.Calm (call.whole ++ call.rest) :=
    Calm.right (call.split ▸ calm) call.past
  have beforeSound : call.before.Sound := sound.run call.past
  have sameDialogue : dialogue call.index call.whole = dialogue call.index call.during :=
    dialogue_of_began _ _ _ _
  have way : call.scheduler.Scheduling content publishAt (dialogue call.index call.whole)
      call.outcome := sameDialogue ▸ call.finishes.gives
  obtain ⟨check, more, said, past | ⟨future, job, given, sameKey, sometime⟩⟩ :=
    Run.scheduled call.finishes.run beforeSound calmCall.left way
  · exact ⟨check, more, sameDialogue ▸ said, Or.inl past⟩
  · obtain ⟨row, stored, rowKey⟩ := calmCall.kept beforeSound sometime call.since
    refine ⟨check, more, sameDialogue ▸ said,
      Or.inr ⟨future, job, row, given, sometime, stored, rowKey.trans sameKey, ?_⟩⟩
    intro id other found otherKey
    have presentSound : present.Sound :=
      (beforeSound.run call.finishes.run).run call.since
    exact presentSound.indexed.unique found stored
      (otherKey.trans (rowKey.trans sameKey).symm)

end Calling

/-- There is a run in which two callers look for an intent, both find nothing, and both make a
job. The second is refused and finds the job of the first. -/
theorem exists_race :
    let made : Job := .create ⟨1⟩ ⟨"post"⟩ .epoch .earliest
    ∃ (events : List Event) (present : Scene)
      (left right : Calling .initial events present ⟨"post"⟩ .epoch),
      initial.Calm events ∧ left.index = 0 ∧ right.index = 1 ∧
        left.outcome = .ok made ∧ right.outcome = .ok made := by
  intro made
  let scheduler : Scheduler := ⟨.standard, .ofSeconds 0⟩
  let operation : Operation := .schedule ⟨"post"⟩ .epoch
  let before : Scene := initial.noting (System.initial.put 0 (some (.start scheduler operation)))
  have first : initial.Step (.began 0 scheduler operation) before :=
    .usual (@System.Step.begin System.initial 0 scheduler operation rfl (by simp [operation]))
  have second := (@Run.none before).snoc
    (.usual (@System.Step.begin before.system 1 scheduler operation rfl (by simp [operation])))
  have future := second.snoc (.usual (@System.Step.look _ 0 _ _ rfl rfl .earliest))
  have secondFuture := future.snoc (.usual (@System.Step.look _ 1 _ _ rfl rfl .earliest))
  have missed := secondFuture.snoc (.usual (@System.Step.ask _ 0 _ _ _ rfl rfl .regular))
  have secondMissed := missed.snoc (.usual (@System.Step.ask _ 1 _ _ _ rfl rfl .regular))
  have dated := secondMissed.snoc (.usual (@System.Step.look _ 0 _ _ rfl rfl .earliest))
  have named := dated.snoc (.usual (@System.Step.name _ 0 _ _ rfl rfl ⟨1⟩ (by decide)))
  have saved := named.snoc (.usual (@System.Step.ask _ 0 _ _ _ rfl rfl .regular))
  have secondDated := saved.snoc (.usual (@System.Step.look _ 1 _ _ rfl rfl .earliest))
  have secondNamed := secondDated.snoc (.usual (@System.Step.name _ 1 _ _ rfl rfl ⟨2⟩ (by decide)))
  have refused := secondNamed.snoc (.usual (@System.Step.ask _ 1 _ _ _ rfl rfl .regular))
  have found := refused.snoc (.usual (@System.Step.ask _ 1 _ _ _ rfl rfl .regular))
  have run := (Run.one first).append found
  let given (own : Hand) : Caller := ⟨scheduler, operation, .done made, own⟩
  let left : Calling initial _ _ ⟨"post"⟩ .epoch :=
    ⟨rfl, .none,
      ⟨⟨run, by simp⟩, _, .usual (@System.Step.finish _ 0 (given .empty) _ rfl rfl)⟩, .none⟩
  let right : Calling initial _ _ ⟨"post"⟩ .epoch :=
    ⟨rfl, .one first,
      ⟨⟨found, by simp⟩, _, .usual (@System.Step.finish _ 1 (given .empty) _ rfl rfl)⟩, .none⟩
  refine ⟨_, _, left, right, ⟨by simp [initial, System.initial], ?_⟩, rfl, rfl, rfl, rfl⟩
  simp [operation, System.Event.Calm, Operation.Withdraws]

/-- Scheduling an intent is idempotent. Take any scene that was reached in any way, with nobody
about to withdraw a job, and any interleaving from there in which nobody begins to withdraw one
and the store does not fail. Of the calls that make the job for an intent in the course of it:

* one that reads a clock by which the time asked for is past ends with that error, and leaves the
  store as it is at each of its steps;
* every other that ends gives a job, as it was stored at some moment of the call, and from then on
  exactly one row has the intent, under the name of that job;
* so the jobs that are given have one name;
* each asks at most six times and can always go on, so it ends.

Proof: rows keep their intents in calm, and the index makes the row of an intent unique. A save
that is refused, and a look-up that finds something, both show a row with the intent. -/
theorem Run.intent_scheduled_once {past : List Event} (reached : Run .initial past start)
    (calm : start.Calm events) (content : ContentId) (publishAt : Instant) :
    (∀ call : Calling start events present content publishAt,
      ∃ check more, dialogue call.index call.during = .clock check :: more ∧
        (publishAt.isFuture call.scheduler.grace check = false →
          call.outcome = .error (.publishTimePast publishAt) ∧
            call.before.Silent call.index call.whole call.last) ∧
        (publishAt.isFuture call.scheduler.grace check = true →
          ∃ job row, call.outcome = .ok job ∧
            (call.before.Sometime call.whole call.last fun store => store.find job.id = some job) ∧
            present.store.find job.id = some row ∧ row.key = ⟨content, publishAt⟩ ∧
            ∀ id other, present.store.find id = some other →
              other.key = ⟨content, publishAt⟩ → id = job.id)) ∧
    (∀ (left right : Calling start events present content publishAt) first second,
      left.outcome = .ok first → right.outcome = .ok second → first.id = second.id) ∧
    ∀ index scheduler before during,
      Underway before index scheduler (.schedule content publishAt) during present →
        (dialogue index during).length ≤ Operation.scheduleLength ∧
          ((∃ id, id ∉ present.system.issued) →
            ∃ event after, present.Step event after ∧ event.caller = index ∧ event.Calm) := by
  refine ⟨?_, ?_, ?_⟩
  · intro call
    obtain ⟨check, more, said, cases⟩ := call.given reached.sound calm
    refine ⟨check, more, said, ?_, ?_⟩
    · intro past
      rcases cases with ⟨_, rfl, refused⟩ | ⟨future, _⟩
      · refine ⟨refused, silent_of_refused ?_ ?_⟩
        · rw [Calling.whole, dialogue_of_began, said]
          simp [Exchange.Granted]
        · exact (Calm.right (call.split ▸ calm) call.past).left.reported
      · cases past.symm.trans future
    · intro future
      rcases cases with ⟨past, _⟩ | ⟨_, given⟩
      · cases past.symm.trans future
      · exact given
  · intro left right first second leftGiven rightGiven
    obtain ⟨_, _, _, ⟨_, _, refused⟩ | ⟨_, job, row, given, _, stored, sameKey, _⟩⟩ :=
      left.given reached.sound calm
    · cases refused.symm.trans leftGiven
    · cases given.symm.trans leftGiven
      obtain ⟨_, _, _, ⟨_, _, refused⟩ | ⟨_, _, _, otherGiven, _, _, _, unique⟩⟩ :=
        right.given reached.sound calm
      · cases refused.symm.trans rightGiven
      · cases otherGiven.symm.trans rightGiven
        exact unique _ _ stored sameKey
  · intro index scheduler before during call
    obtain ⟨⟨left, hand, found, _⟩, _⟩ := call.said
    exact ⟨call.length_le, exists_step found⟩

/-- Two callers race for an intent, and are given the one job that then has it. -/
theorem Run.intent_scheduled_once_by_two :
    let made : Job := .create ⟨1⟩ ⟨"post"⟩ .epoch .earliest
    ∃ (events : List Event) (present : Scene)
      (left right : Calling .initial events present ⟨"post"⟩ .epoch),
      left.index ≠ right.index ∧ left.outcome = .ok made ∧ right.outcome = .ok made ∧
        ∃ row, present.store.find ⟨1⟩ = some row ∧
          ∀ id other, present.store.find id = some other →
            other.key = ⟨⟨"post"⟩, .epoch⟩ → id = ⟨1⟩ := by
  intro made
  obtain ⟨events, present, left, right, calm, zero, one, leftGiven, given⟩ := exists_race
  obtain ⟨check, _, _, refuses, gives⟩ :=
    (Run.intent_scheduled_once .none calm ⟨"post"⟩ .epoch).1 right
  refine ⟨events, present, left, right, by simp [zero, one], leftGiven, given, ?_⟩
  cases future : Instant.epoch.isFuture right.scheduler.grace check with
  | false => cases given.symm.trans (refuses future).1
  | true =>
    obtain ⟨job, row, outcome, _, stored, _, unique⟩ := gives future
    obtain rfl : made = job := Except.ok.inj (given.symm.trans outcome)
    exact ⟨row, stored, unique⟩

end Scene

end TimedPublishing
