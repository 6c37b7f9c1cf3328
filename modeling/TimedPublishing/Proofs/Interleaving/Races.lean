import TimedPublishing.Proofs.Interleaving.Punctuality

/-!
# Races that a removal or a move loses

To remove or move a job is to look it up, to decide, and to ask the store for a change that it
makes only if the job is still queued. Others may come in between, and when they did, the job is
looked up once more to say what became of it. What is said then is true because the queue is
entered once: a job that the conditional request found outside the queue is outside it at the
second look, too, or gone.

A request that the store did not grant has changed nothing, so an error of such a call, which is
given only where nothing was granted, says that the call left no trace.
-/

open TimedPublishing.System (Event)

namespace TimedPublishing

/-- A reply that reports a change of the store. -/
def Exchange.Granted : Exchange → Prop
  | ⟨.store call, reply⟩ => call.Granted reply
  | _ => False

/-- A job that was not removed was not queued. -/
theorem Store.unqueued_of_undeleted {store : Store} {id : JobId}
    (refused : (store.answer (.delete id)).1 = .ok false) : ¬ store.Queued id := by
  have refused : (store.delete id).1 = false := Except.ok.inj refused
  rcases store.delete_cases id with ⟨unqueued, _⟩ | ⟨row, _, _, removed⟩
  · exact unqueued
  · rw [removed] at refused
    cases refused

/-- A job that was not updated was not queued. -/
theorem Store.unqueued_of_unmoved {store : Store} {moved : Job}
    (refused : (store.answer (.updateIfQueued moved)).1 = .ok none) : ¬ store.Queued moved.id := by
  have refused : (store.updateIfQueued moved).1 = .ok none := refused
  rcases store.updateIfQueued_cases moved with ⟨unqueued, _⟩ | ⟨_, _, same⟩ | ⟨_, _, written⟩
  · exact unqueued
  · rw [same] at refused
    cases refused
  · rw [written] at refused
    cases refused

/-- Nothing is granted where a look-up fails a call. -/
theorem Unloaded.refused {id : JobId} {said : Dialogue} {cause : ScheduleError}
    (unloaded : Unloaded id said cause) : ∀ exchange ∈ said, ¬ exchange.Granted := by
  cases unloaded <;> simp [Exchange.Granted, StoreCall.Granted]

namespace Scheduler

variable {scheduler : Scheduler} {id : JobId} {said : Dialogue} {cause : ScheduleError}

/-- Nothing was granted to a call that fails to remove a job. -/
theorem Unscheduling.refused (way : Unscheduling id said (.error cause)) :
    ∀ exchange ∈ said, ¬ exchange.Granted := by
  cases way with
  | unloaded unloaded => exact unloaded.refused
  | vanished queued unloaded =>
    have rest := unloaded.refused
    simpa [Exchange.Granted, StoreCall.Granted] using rest
  | late left => simp [Exchange.Granted, StoreCall.Granted]
  | undeleted queued cause => simp [Exchange.Granted, StoreCall.Granted]
  | lost queued current => simp [Exchange.Granted, StoreCall.Granted]

/-- Nothing was granted to a call that fails to move a job. -/
theorem Moving.refused {job : Job} {publishAt : Instant}
    (way : Moving id job publishAt said (.error cause)) :
    ∀ exchange ∈ said, ¬ exchange.Granted := by
  cases way with
  | vanished moves unloaded =>
    have rest := unloaded.refused
    simpa [Exchange.Granted, StoreCall.Granted] using rest
  | lost moves current => simp [Exchange.Granted, StoreCall.Granted]
  | conflict moves key other => simp [Exchange.Granted, StoreCall.Granted]
  | unfound moves key cause => simp [Exchange.Granted, StoreCall.Granted]
  | unsaved moves other => simp [Exchange.Granted, StoreCall.Granted]

/-- Nothing was granted to a call that fails to find or move a job. -/
theorem Rescheduling.refused {publishAt : Instant}
    (way : scheduler.Rescheduling id publishAt said (.error cause)) :
    ∀ exchange ∈ said, ¬ exchange.Granted := by
  cases way with
  | unloaded unloaded => exact unloaded.refused
  | moving queued future free moving =>
    have rest := moving.refused
    simpa [Exchange.Granted, StoreCall.Granted] using rest
  | late left => simp [Exchange.Granted, StoreCall.Granted]
  | past queued past => simp [Exchange.Granted, StoreCall.Granted]
  | unlooked queued future cause => simp [Exchange.Granted, StoreCall.Granted]
  | taken queued future different => simp [Exchange.Granted, StoreCall.Granted]

end Scheduler

namespace Scene

/-- Every step of one caller in the course of some events leaves the store as it is. -/
def Silent (start : Scene) (index : Nat) (events : List Event) (present : Scene) : Prop :=
  ∀ earlier event later before after, events = earlier ++ event :: later → event.caller = index →
    Run start earlier before → before.Step event after → Run after later present →
    after.store = before.store

/-- No request of one caller is done without being reported. -/
def Reported (index : Nat) (events : List Event) : Prop :=
  ∀ hand call detail answer, Event.asked index hand call (.unreported detail) answer ∉ events

variable {start present : Scene} {index : Nat} {events : List Event}

/-- A caller to whom nothing is granted, and from whom nothing that was done is kept back, has
changed nothing. -/
theorem silent_of_refused (refused : ∀ exchange ∈ dialogue index events, ¬ exchange.Granted)
    (reported : Reported index events) : start.Silent index events present := by
  rintro earlier event later before after rfl rfl past step since
  rcases step.store_cases with
    same | ⟨index, caller, call, resume, course, found, asks, rfl, reaches, left⟩
  · exact same
  · have here {event : Event} : event ∈ earlier ++ event :: later :=
      List.mem_append_right _ List.mem_cons_self
    cases course with
    | unwritten detail => cases reaches
    | unreported detail => exact absurd here (reported _ _ _ _)
    | regular =>
      have ungranted : ¬ call.Granted (before.store.answer call).1 :=
        refused (.store call _) (List.mem_filterMap.mpr ⟨_, here, if_pos rfl⟩)
      rw [left]
      rcases before.store.answer_cases call with ⟨_, kept, _⟩ | ⟨_, _, changed, granted, _⟩
      · exact congrArg Prod.snd kept
      · rw [changed] at ungranted
        exact absurd granted ungranted

namespace Run

/-- Whoever is told that a job was found was told what the store then showed. -/
theorem sometime_found (run : Run start events present) {before after : Dialogue} {id : JobId}
    {job : Job}
    (said : dialogue index events = before ++ .store (.find id) (.ok (some job)) :: after) :
    start.Sometime events present fun store => store.find id = some job := by
  obtain ⟨earlier, hand, later, scene, next, rfl, _, _, answer, _, past, step, since⟩ :=
    run.answered_ok said
  exact .of_runs past ((one step).append since) (Except.ok.inj answer)

/-- A job that was found, was then not in the queue when a change was asked for, and was found
again, has left the queue by the second time. -/
theorem sometime_left (sound : start.Sound) (run : Run start events present) {between : Dialogue}
    {id : JobId} {job current : Job} {call : StoreCall} {refusal : call.Answer}
    (said : dialogue index events = .store (.find id) (.ok (some job)) :: between ++
      [.store call (.ok refusal), .store (.find id) (.ok (some current))])
    (unqueued : ∀ store : Store, (store.answer call).1 = .ok refusal → ¬ store.Queued id) :
    current.status ≠ .queued ∧
      start.Sometime events present fun store => store.find id = some current := by
  have again : dialogue index events =
      (.store (.find id) (.ok (some job)) :: between ++ [.store call (.ok refusal)]) ++
        .store (.find id) (.ok (some current)) :: [] := by
    rw [said]
    simp
  refine ⟨?_, run.sometime_found again⟩
  obtain ⟨_, _, _, first, _, rfl, _, sameRest, found, _, past, step, since⟩ :=
    @answered_ok _ _ _ _ run [] _ _ _ said
  obtain ⟨_, _, _, second, _, rfl, _, sameLast, refused, _, onwards, asked, rest⟩ :=
    since.answered_ok sameRest
  obtain ⟨_, _, _, third, _, rfl, _, _, foundAgain, _, meanwhile, _, _⟩ :=
    @answered_ok _ _ _ _ rest [] _ _ _ sameLast
  have firstSound : first.Sound := sound.run past
  have found : first.store.find id = some job := Except.ok.inj found
  have foundAgain : third.store.find id = some current := Except.ok.inj foundAgain
  obtain rfl : job.id = id := firstSound.id_of_find found
  have toSecond : Run first _ second := (one step).append onwards
  have known : job ∈ second.versions := toSecond.versions_subset job (firstSound.noted found)
  intro queued
  exact (firstSound.run toSecond).never_requeued ((one asked).append meanwhile) known
    (unqueued second.store refused) ⟨current, foundAgain, queued⟩

end Run

/-- What is true of a call to remove a job, by its outcome. -/
def Unscheduled (start : Scene) (index : Nat) (id : JobId) (events : List Event) (last : Scene) :
    Except ScheduleError Bool → Prop
  | .ok removed =>
    removed = true ∧ ∃ earlier hand later before after row,
      events = earlier ++ .asked index hand (.delete id) .regular (.ok true) :: later ∧
      Run start earlier before ∧
      before.Step (.asked index hand (.delete id) .regular (.ok true)) after ∧
      Run after later last ∧
      before.store.find id = some row ∧ row.status = .queued ∧
      ∀ other, after.store.find other = if id = other then none else before.store.find other
  | .error cause =>
    (Reported index events → start.Silent index events last) ∧
      ∀ other status, cause = .cannotCancel other status → other = id ∧ status ≠ .queued ∧
        start.Sometime events last fun store =>
          ∃ job, store.find id = some job ∧ job.status = status

/-- What is true of a call to move a job, by its outcome. -/
def Rescheduled (start : Scene) (index : Nat) (id : JobId) (publishAt : Instant)
    (events : List Event) (last : Scene) : Except ScheduleError Job → Prop
  | .ok job =>
    job.status = .queued ∧ job.publishAt = publishAt ∧
      start.Sometime events last fun store => store.find id = some job
  | .error cause =>
    (Reported index events → start.Silent index events last) ∧
      ∀ other status, cause = .cannotReschedule other status → other = id ∧ status ≠ .queued ∧
        start.Sometime events last fun store =>
          ∃ job, store.find id = some job ∧ job.status = status

variable {last : Scene} {scheduler : Scheduler} {id : JobId}

/-- What the store shows at some moment it shows in a weaker form. -/
theorem Sometime.mono {shows weaker : Store → Prop} (sometime : start.Sometime events present shows)
    (weakens : ∀ store, shows store → weaker store) : start.Sometime events present weaker := by
  obtain ⟨earlier, later, middle, split, past, since, shown⟩ := sometime
  exact ⟨earlier, later, middle, split, past, since, weakens _ shown⟩

/-- A call to remove a job that says so removed it itself, from the queue. One that fails changed
nothing, and says only what was true. -/
theorem Run.unscheduled (sound : start.Sound) (run : Run start events last)
    {outcome : Except ScheduleError Bool}
    (way : Scheduler.Unscheduling id (dialogue index events) outcome) :
    Unscheduled start index id events last outcome := by
  cases outcome with
  | ok removed =>
    generalize said : dialogue index events = exchanges at way
    cases way with
    | @removed job queued =>
      obtain ⟨earlier, hand, later, before, after, split, _, _, answer, left, past, step, since⟩ :=
        @answered_ok _ _ _ _ run [.store (.find id) (.ok (some job))] [] _ _ said
      refine ⟨rfl, earlier, hand, later, before, after, ?_⟩
      obtain ⟨row, found, rowQueued, removed⟩ := Store.row_of_deleted answer
      exact ⟨row, split, past, step, since, found, rowQueued, left ▸ removed⟩
  | error cause =>
    refine ⟨silent_of_refused way.refused, ?_⟩
    rintro other status rfl
    generalize said : dialogue index events = exchanges at way
    cases way with
    | unloaded unloaded => cases unloaded
    | vanished queued unloaded => cases unloaded
    | @late job left =>
      exact ⟨rfl, left, (@sometime_found _ _ _ _ run [] _ _ _ said).mono
        fun _ found => ⟨job, found, rfl⟩⟩
    | @lost job queued current =>
      obtain ⟨left, sometime⟩ := @sometime_left _ _ _ _ sound run [] _ _ _ (.delete id) false said
        fun _ refused => Store.unqueued_of_undeleted refused
      exact ⟨rfl, left, sometime.mono fun _ found => ⟨current, found, rfl⟩⟩

/-- A call to move a job that gives a job saw it queued at its new time. One that fails changed
nothing, and says only what was true. -/
theorem Run.rescheduled (sound : start.Sound) (run : Run start events last) {publishAt : Instant}
    {outcome : Except ScheduleError Job}
    (way : scheduler.Rescheduling id publishAt (dialogue index events) outcome) :
    Rescheduled start index id publishAt events last outcome := by
  have named {job : Job} {after : Dialogue}
      (said : dialogue index events = .store (.find id) (.ok (some job)) :: after) :
      job.id = id := by
    obtain ⟨_, _, _, scene, _, _, _, _, found, _, past, _, _⟩ :=
      @answered_ok _ _ _ _ run [] _ _ _ said
    exact (sound.run past).id_of_find (Except.ok.inj found)
  cases outcome with
  | ok job =>
    generalize said : dialogue index events = exchanges at way
    cases way with
    | same queued future same =>
      exact ⟨queued, same, @sometime_found _ _ _ _ run [] _ _ _ said⟩
    | @moving former queued check future owner free more _ moving =>
      cases moving with
      | @moved now moved moves =>
        obtain ⟨earlier, hand, later, before, after, rfl, _, _, answer, left, past, step, since⟩ :=
          @answered_ok _ _ _ _ run [.store (.find id) (.ok (some former)), .clock check,
            .store (.findByKey ⟨former.content, publishAt⟩) (.ok owner), .clock now] [] _ _ said
        obtain ⟨rfl, shown⟩ := Store.find_of_moved answer
        have own : former.id = id := named said
        obtain ⟨_, rfl⟩ := Job.reschedule_eq_ok moves
        refine ⟨queued, rfl, earlier ++ [.asked index hand _ .regular _], later, after, by simp,
          past.snoc step, since, ?_⟩
        rw [← own, left]
        exact shown
  | error cause =>
    refine ⟨silent_of_refused way.refused, ?_⟩
    rintro other status rfl
    generalize said : dialogue index events = exchanges at way
    cases way with
    | unloaded unloaded => cases unloaded
    | @late job left =>
      exact ⟨rfl, left, (@sometime_found _ _ _ _ run [] _ _ _ said).mono
        fun _ found => ⟨job, found, rfl⟩⟩
    | @moving former queued check future owner free more _ moving =>
      cases moving with
      | vanished moves unloaded => cases unloaded
      | @lost now moved moves current =>
        have formerId : former.id = id := named said
        have own : moved.id = id := by
          obtain ⟨_, rfl⟩ := Job.reschedule_eq_ok moves
          exact formerId
        obtain ⟨left, sometime⟩ := @sometime_left _ _ _ _ sound run
          [.clock check, .store (.findByKey ⟨former.content, publishAt⟩) (.ok owner), .clock now]
          _ _ _ (.updateIfQueued moved) Option.none said
          fun _ refused => own ▸ Store.unqueued_of_unmoved refused
        exact ⟨rfl, left, sometime.mono fun _ found => ⟨current, found, rfl⟩⟩

/-- In every interleaving over one store, whatever others do to the same jobs and however often a
copy is executed:

* a job that was ever claimed is stored at every later moment, under the intent that it was
  claimed with and not in the queue;
* a call to remove a job that says it did has removed the row itself, while the row was queued;
* a call to move a job that gives a job saw it stored, queued at the time asked for, in the course
  of the call;
* either call, when it fails and no request of its own was done without being reported, has left
  the store as it was at each of its steps, and the status that it gives as the reason is not that
  of the queue, but one that the job had in the course of the call.

Proof: the outcome of a call is one that its program gives after what it was replied, and each
reply was true of the store at its moment. That the second look finds no queued job is what
`Sound.never_requeued` is for. -/
theorem Run.races_lost {past : List Event} (reached : Run .initial past present) :
    (∀ index hand id worker now course copy,
      Event.asked index hand (.claim id worker now) course (.ok (some copy)) ∈ past →
      course.writes = true →
        ∃ row, present.store.find id = some row ∧ row.status ≠ .queued ∧ row.key = copy.key) ∧
    (∀ index scheduler id events last outcome,
      present.Finishes index scheduler (.unschedule id) events last outcome →
        present.Unscheduled index id (.began index scheduler (.unschedule id) :: events) last
          outcome) ∧
    ∀ index scheduler id publishAt events last outcome,
      present.Finishes index scheduler (.reschedule id publishAt) events last outcome →
        present.Rescheduled index id publishAt
          (.began index scheduler (.reschedule id publishAt) :: events) last outcome := by
  refine ⟨?_, ?_, ?_⟩
  · intro index hand id worker now course copy claimed reaches
    obtain ⟨earlier, later, rfl⟩ := List.append_of_mem claimed
    obtain ⟨before, after, toClaim, step, since⟩ := reached.cut_around
    have sound : after.Sound := toClaim.sound.step step
    obtain ⟨_, _, _, _, _, answer, left⟩ := step.asked
    obtain ⟨_, _, granted, shown⟩ := Store.row_of_claimed answer
    have found : after.store.find id = some copy := by
      rw [left, Course.store, if_pos reaches, shown]
    exact sound.keeps since found (by simp [Job.running_of_claim granted])
  · intro index scheduler id events last outcome call
    apply Run.unscheduled reached.sound call.run
    rw [dialogue_of_began]
    exact call.gives
  · intro index scheduler id publishAt events last outcome call
    apply Run.rescheduled reached.sound call.run
    rw [dialogue_of_began]
    exact call.gives

/-- A job is claimed, and calls to remove and to move it come too late. -/
theorem Run.races_lost_to_claim :
    let scheduler : Scheduler := ⟨.standard, .ofSeconds 0⟩
    ∃ past present, Run .initial past present ∧
      (∃ index hand worker now course copy,
        Event.asked index hand (.claim ⟨1⟩ worker now) course (.ok (some copy)) ∈ past ∧
        ∃ row, present.store.find ⟨1⟩ = some row ∧ row.status ≠ .queued ∧ row.key = copy.key) ∧
      (∃ events last, present.Finishes 1 scheduler (.unschedule ⟨1⟩) events last
          (.error (.cannotCancel ⟨1⟩ .running)) ∧
        present.Silent 1 (.began 1 scheduler (.unschedule ⟨1⟩) :: events) last) ∧
      ∃ events last, present.Finishes 1 scheduler (.reschedule ⟨1⟩ .latest) events last
          (.error (.cannotReschedule ⟨1⟩ .running)) ∧
        present.Silent 1 (.began 1 scheduler (.reschedule ⟨1⟩ .latest) :: events) last := by
  intro scheduler
  let made : Job := .create ⟨1⟩ ⟨"post"⟩ .epoch .earliest
  let copy : Job := { made with state := .running ⟨"worker"⟩, updatedAt := .epoch }
  obtain ⟨past, issued, callers, run, idle, _⟩ := System.Run.exists_handingOut .standard
  obtain ⟨noted, reached⟩ := run.scene []
  let middle : System := ⟨(Store.empty.write made).withRow ⟨1⟩ copy, issued, [copy], callers⟩
  obtain ⟨claiming⟩ := @Run.claiming _ _ reached ⟨1⟩ copy rfl (by decide)
  have races := Run.races_lost reached
  have removes := (@Run.none ⟨middle, noted⟩).snoc (.usual
    (@System.Step.begin middle 1 scheduler (.unschedule ⟨1⟩) idle (by simp)))
  have removing := removes.snoc (.usual (@System.Step.ask _ 1 _ _ _ rfl rfl .regular))
  let refused : Caller :=
    ⟨scheduler, .unschedule ⟨1⟩, .fail (.cannotCancel ⟨1⟩ .running), .read copy⟩
  have removal : Finishes _ 1 scheduler (.unschedule ⟨1⟩) _ _
      (.error (.cannotCancel ⟨1⟩ .running)) :=
    ⟨⟨removing, by simp⟩, _, .usual (@System.Step.fail _ 1 refused _ rfl rfl)⟩
  have moves := (@Run.none ⟨middle, noted⟩).snoc (.usual
    (@System.Step.begin middle 1 scheduler (.reschedule ⟨1⟩ .latest) idle (by simp)))
  have moving := moves.snoc (.usual (@System.Step.ask _ 1 _ _ _ rfl rfl .regular))
  let late : Caller :=
    ⟨scheduler, .reschedule ⟨1⟩ .latest, .fail (.cannotReschedule ⟨1⟩ .running), .read copy⟩
  have move : Finishes _ 1 scheduler (.reschedule ⟨1⟩ .latest) _ _
      (.error (.cannotReschedule ⟨1⟩ .running)) :=
    ⟨⟨moving, by simp⟩, _, .usual (@System.Step.fail _ 1 late _ rfl rfl)⟩
  refine ⟨past, _, reached, ⟨_, _, _, _, _, _, claiming.mem,
    races.1 _ _ _ _ _ _ _ claiming.mem claiming.writes⟩, ⟨_, _, removal, ?_⟩, _, _, move, ?_⟩
  · exact (races.2.1 _ _ _ _ _ _ removal).1 (by simp [Reported])
  · exact (races.2.2 _ _ _ _ _ _ _ move).1 (by simp [Reported])

end Scene

end TimedPublishing
