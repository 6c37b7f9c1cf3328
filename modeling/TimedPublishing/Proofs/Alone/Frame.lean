import TimedPublishing.Proofs.Alone.Surroundings
import TimedPublishing.Proofs.Interleaving.Races

/-!
# What a call leaves alone

A request that the store does not grant leaves it as it is, rows and owners. One that is granted
touches the row that it is about and the owners of the intent that this row had and of the one
that it has then.

An operation makes one request at most that is granted, and gives a result when it is. So an
operation that fails, or that claims nothing, has left the whole store as it was, and one that
gives a result has touched the row of its own job only. The proofs go through the tables of the
ways of each operation; that a request was granted can be told from what it was answered.
-/

namespace TimedPublishing

/-- Two stores that differ in no row but that of one name. -/
def Store.AgreesBut (after before : Store) (id : JobId) : Prop :=
  ∀ other, other ≠ id → after.find other = before.find other

namespace Store

/-- A request that is not granted leaves the store as it is. -/
theorem answer_of_not_granted {store : Store} {call : StoreCall}
    (refused : ¬ call.Granted (store.answer call).1) : (store.answer call).2 = store := by
  rcases store.answer_cases call with ⟨_, kept, _⟩ | ⟨_, _, changed, granted, _⟩
  · rw [kept]
  · rw [changed] at refused
    exact absurd granted refused

/-- A request leaves every row alone but the one that it is about. -/
theorem answer_agreesBut (store : Store) {call : StoreCall} {id : JobId}
    (about : call.subject? = some id) : (store.answer call).2.AgreesBut store id := by
  intro other different
  apply store.find_answer_of_ne
  rw [about]
  exact fun same => different (Option.some.inj same).symm

/-- A request leaves every owner alone but that of the intents which the row that it is about had
before or has after it. -/
theorem owner_answer_of_ne (store : Store) {call : StoreCall} {id : JobId} {key : JobKey}
    (about : call.subject? = some id)
    (different : ∀ row, store.find id = some row ∨ (store.answer call).2.find id = some row →
      row.key ≠ key) :
    (store.answer call).2.owners.find? key = store.owners.find? key := by
  have written {job : Job} (own : job.id = id)
      (others : ∀ row, store.find id = some row ∨ (store.write job).find id = some row →
        row.key ≠ key) :
      (store.write job).owners.find? key = store.owners.find? key := by
    have taken : job.key ≠ key := others job (Or.inr (by rw [find_write, if_pos own]))
    have freed : (store.find job.id).any (fun previous => decide (previous.key = key)) = false := by
      cases found : store.find job.id with
      | none => rfl
      | some previous => simpa using others previous (Or.inl (own ▸ found))
    rw [owner_write, if_neg taken, freed]
    rfl
  rcases store.answer_cases call with ⟨_, kept, _⟩ | ⟨_, _, changed, _, grants⟩
  · rw [kept]
  · rw [changed] at different ⊢
    cases grants with
    | saved unended admits => exact written (Option.some.inj about) different
    | moved queued admits => exact written (Option.some.inj about) different
    | @deleted own row found queued =>
      obtain rfl := Option.some.inj about
      have removed : row.key ≠ key := different row (Or.inl found)
      change (store.owners.erase row.key).find? key = _
      rw [Table.find?_erase, if_neg removed]
    | claimed found granted => rfl

end Store

/-- The job whose row a request of an exchange may change. -/
def Exchange.subject? : Exchange → Option JobId
  | ⟨.store call, _⟩ => call.subject?
  | _ => none

/-- What a call that gives a result was granted is about the job that the result is about, by what
that job is. -/
def Dialogue.Concerns (said : Dialogue) (own : Option JobId) : Prop :=
  ∀ exchange ∈ said, exchange.Granted → ∃ id, own = some id ∧ exchange.subject? = some id

/-- How a call leaves a store alone: as it was if it failed or was about no job, and but for the
row of its own job otherwise. -/
def LeavesAlone {α : Type} (own : α → Option JobId) (before after : Store) :
    Except ScheduleError α → Prop
  | .error _ => after = before
  | .ok value =>
    match own value with
    | some id => after.AgreesBut before id
    | none => after = before

namespace Surroundings

variable {surroundings : Surroundings} {solo after : Solo} {said : Dialogue}

/-- A dialogue in which nothing was granted leaves the store as it was. -/
theorem Hears.store_of_refused (heard : surroundings.Hears solo said after)
    (refused : ∀ exchange ∈ said, ¬ exchange.Granted) : after.store = solo.store := by
  induction said generalizing solo with
  | nil =>
    obtain rfl : after = solo := heard
    rfl
  | cons exchange rest inductionHypothesis =>
    obtain ⟨call, reply⟩ := exchange
    obtain ⟨answered, heard⟩ := heard
    have first : ¬ Exchange.Granted ⟨call, reply⟩ := refused _ List.mem_cons_self
    rw [inductionHypothesis heard fun exchange member =>
      refused exchange (List.mem_cons_of_mem _ member)]
    cases call with
    | clock => rfl
    | freshId => rfl
    | publish content => rfl
    | store call =>
      apply Store.answer_of_not_granted
      change ¬ call.Granted reply at first
      rw [← answered] at first
      exact first

/-- A dialogue in which only requests about one job were granted leaves the other rows as they
were. -/
theorem Hears.agreesBut (heard : surroundings.Hears solo said after) {id : JobId}
    (about : ∀ exchange ∈ said, exchange.Granted → exchange.subject? = some id) :
    after.store.AgreesBut solo.store id := by
  induction said generalizing solo with
  | nil =>
    obtain rfl : after = solo := heard
    exact fun _ _ => rfl
  | cons exchange rest inductionHypothesis =>
    obtain ⟨call, reply⟩ := exchange
    obtain ⟨answered, heard⟩ := heard
    have onwards := inductionHypothesis heard fun exchange member =>
      about exchange (List.mem_cons_of_mem _ member)
    have first : Exchange.Granted ⟨call, reply⟩ → Exchange.subject? ⟨call, reply⟩ = some id :=
      about _ List.mem_cons_self
    intro other different
    rw [onwards other different]
    cases call with
    | clock => rfl
    | freshId => rfl
    | publish content => rfl
    | store call =>
      by_cases granted : call.Granted (solo.store.answer call).1
      · have subject : call.subject? = some id := first (answered ▸ granted)
        exact solo.store.answer_agreesBut subject other different
      · exact congrArg (fun store : Store => store.find other) (Store.answer_of_not_granted granted)

/-- A call that is granted nothing when it fails, and nothing but what its result is about
otherwise, leaves the store alone. -/
theorem leavesAlone {α : Type} {ways : Dialogue → Except ScheduleError α → Prop}
    {asks : Dialogue → Call → Prop} {program : Program α} {own : α → Option JobId} {store : Store}
    (obeys : program.Obeys ⟨asks, ways⟩ []) (surroundings : Surroundings)
    (refused : ∀ said cause, ways said (.error cause) → ∀ exchange ∈ said, ¬ exchange.Granted)
    (concerns : ∀ said value after, ways said (.ok value) →
      surroundings.Hears ⟨store, []⟩ said after → Dialogue.Concerns said (own value)) :
    ∃ outcome after, surroundings.Ends store program outcome after ∧ ways after.said outcome ∧
      LeavesAlone own store after.store outcome := by
  obtain ⟨outcome, after, ends, heard, way⟩ := ends_of_obeys obeys surroundings store
  refine ⟨outcome, after, ends, way, ?_⟩
  cases outcome with
  | error cause => exact heard.store_of_refused (refused after.said cause way)
  | ok value =>
    have about := concerns after.said value after way heard
    change match own value with
      | some id => after.store.AgreesBut store id
      | none => after.store = store
    cases ownId : own value with
    | none =>
      apply heard.store_of_refused
      intro exchange member granted
      obtain ⟨id, same, _⟩ := about exchange member granted
      cases ownId.symm.trans same
    | some id =>
      apply heard.agreesBut
      intro exchange member granted
      obtain ⟨other, same, subject⟩ := about exchange member granted
      cases ownId.symm.trans same
      exact subject

end Surroundings

namespace Scheduler

variable {surroundings : Surroundings} {solo after : Solo} {said : Dialogue} {scheduler : Scheduler}
  {content : ContentId} {publishAt : Instant} {id : JobId} {worker : WorkerId} {copy : Job}
  {cause : ScheduleError}

/-- Nothing was granted to a call that fails to make a job. -/
theorem Scheduling.refused (way : scheduler.Scheduling content publishAt said (.error cause)) :
    ∀ exchange ∈ said, ¬ exchange.Granted := by
  cases way <;> simp [Exchange.Granted, StoreCall.Granted]

/-- A call that gives a job has saved that one or nothing. -/
theorem Scheduling.concerns {job : Job}
    (way : scheduler.Scheduling content publishAt said (.ok job))
    (heard : surroundings.Hears solo said after) : Dialogue.Concerns said (some job.id) := by
  cases way with
  | existing future found =>
    simp [Dialogue.Concerns, Exchange.Granted, StoreCall.Granted]
  | lost future now id key winner =>
    simp [Dialogue.Concerns, Exchange.Granted, StoreCall.Granted]
  | saved future now id saved =>
    obtain ⟨rfl, _⟩ := Store.find_of_saved heard.2.2.2.2.1
    simp [Dialogue.Concerns, Exchange.Granted, StoreCall.Granted, Exchange.subject?,
      StoreCall.subject?]

/-- A call that says it has removed a job has removed that one. -/
theorem Unscheduling.concerns {removed : Bool} (way : Unscheduling id said (.ok removed)) :
    Dialogue.Concerns said (some id) := by
  cases way
  simp [Dialogue.Concerns, Exchange.Granted, StoreCall.Granted, Exchange.subject?,
    StoreCall.subject?]

/-- A call that gives a job has moved the one that it was asked to move, or nothing. -/
theorem Rescheduling.concerns (indexed : solo.store.Indexed) {job : Job}
    (way : scheduler.Rescheduling id publishAt said (.ok job))
    (heard : surroundings.Hears solo said after) : Dialogue.Concerns said (some id) := by
  cases way with
  | same queued future same => simp [Dialogue.Concerns, Exchange.Granted, StoreCall.Granted]
  | @moving former queued check future owner free more _ moving =>
    have own : former.id = id := indexed.named id former (Except.ok.inj heard.1)
    cases moving with
    | moved moves saved =>
      obtain ⟨_, rfl⟩ := Job.reschedule_eq_ok moves
      simp [Dialogue.Concerns, Exchange.Granted, StoreCall.Granted, Exchange.subject?,
        StoreCall.subject?, own]

/-- Nothing was granted to a claim that fails. -/
theorem Claiming.refused (way : Claiming worker said (.error cause)) :
    ∀ exchange ∈ said, ¬ exchange.Granted := by
  cases way <;> simp [Exchange.Granted, StoreCall.Granted]

/-- A claim was granted the copy that it gives, or nothing. -/
theorem Claiming.concerns (indexed : solo.store.Indexed) {claimed : Option Job}
    (way : Claiming worker said (.ok claimed)) (heard : surroundings.Hears solo said after) :
    Dialogue.Concerns said (claimed.map Job.id) := by
  cases way with
  | idle now => simp [Dialogue.Concerns, Exchange.Granted, StoreCall.Granted]
  | early now others early => simp [Dialogue.Concerns, Exchange.Granted, StoreCall.Granted]
  | @answered now candidate others again come =>
    cases claimed with
    | none => simp [Dialogue.Concerns, Exchange.Granted, StoreCall.Granted]
    | some copy =>
      obtain ⟨row, found, granted, _⟩ := Store.row_of_claimed heard.2.2.2.1
      have own : copy.id = candidate.id := by
        obtain ⟨_, rfl⟩ := Job.claim_eq_ok granted
        exact indexed.named candidate.id row found
      simp [Dialogue.Concerns, Exchange.Granted, StoreCall.Granted, Exchange.subject?,
        StoreCall.subject?, own]

/-- Nothing was granted to an execution that fails. -/
theorem Executing.refused (way : scheduler.Executing copy said (.error cause)) :
    ∀ exchange ∈ said, ¬ exchange.Granted := by
  cases way <;> simp [Exchange.Granted, StoreCall.Granted]

/-- An execution that gives a result has saved an outcome of its copy. -/
theorem Executing.concerns {execution : Execution}
    (way : scheduler.Executing copy said (.ok execution)) :
    Dialogue.Concerns said (some copy.id) := by
  cases way with
  | saved running come entered saved =>
    have own := (outcome_concludes entered).sameId
    simp [Dialogue.Concerns, Exchange.Granted, StoreCall.Granted, Exchange.subject?,
      StoreCall.subject?, own]

/-- An execution that is refused has not published. -/
theorem Executing.unpublished (way : scheduler.Executing copy said (.error cause))
    (refusal : (∃ id status, cause = .jobNotRunning id status) ∨
      ∃ id publishAt, cause = .notYetDue id publishAt) : Dialogue.publications said = [] := by
  cases way with
  | standing standing => rfl
  | early running early => rfl
  | unsaved running come entered cause => simp at refusal

/-- A call that makes a job leaves the others alone, and all of them when it fails. -/
theorem schedule_alone (surroundings : Surroundings) (scheduler : Scheduler) (store : Store)
    (content : ContentId) (publishAt : Instant) :
    ∃ outcome after,
      surroundings.Ends store (scheduler.schedule content publishAt) outcome after ∧
      LeavesAlone (fun job => some job.id) store after.store outcome := by
  obtain ⟨outcome, after, ends, _, alone⟩ := Surroundings.leavesAlone
    (schedule_obeys content publishAt) surroundings (fun _ _ way => Scheduling.refused way)
    fun _ _ _ way heard => Scheduling.concerns way heard
  exact ⟨outcome, after, ends, alone⟩

/-- A call that removes a job leaves the others alone, and all of them when it fails. -/
theorem unschedule_alone (surroundings : Surroundings) (scheduler : Scheduler) (store : Store)
    (id : JobId) :
    ∃ outcome after, surroundings.Ends store (unschedule id) outcome after ∧
      LeavesAlone (fun _ => some id) store after.store outcome := by
  have obeys : (unschedule id).Obeys ((Operation.unschedule id).protocol scheduler) [] :=
    unschedule_obeys id
  obtain ⟨outcome, after, ends, _, alone⟩ := Surroundings.leavesAlone obeys surroundings
    (fun _ _ way => Unscheduling.refused way) fun _ _ _ way _ => Unscheduling.concerns way
  exact ⟨outcome, after, ends, alone⟩

/-- A call that moves a job leaves the others alone, and all of them when it fails. -/
theorem reschedule_alone (surroundings : Surroundings) (scheduler : Scheduler) {store : Store}
    (indexed : store.Indexed) (id : JobId) (publishAt : Instant) :
    ∃ outcome after, surroundings.Ends store (scheduler.reschedule id publishAt) outcome after ∧
      LeavesAlone (fun _ => some id) store after.store outcome := by
  obtain ⟨outcome, after, ends, _, alone⟩ := Surroundings.leavesAlone
    (reschedule_obeys id publishAt) surroundings (fun _ _ way => Rescheduling.refused way)
    fun _ _ _ way heard => Rescheduling.concerns indexed way heard
  exact ⟨outcome, after, ends, alone⟩

/-- A claim leaves the jobs alone but for the one that it gives, and all of them when it gives
none. -/
theorem claimNext_alone (surroundings : Surroundings) (scheduler : Scheduler) {store : Store}
    (indexed : store.Indexed) (worker : WorkerId) :
    ∃ outcome after, surroundings.Ends store (claimNext worker) outcome after ∧
      LeavesAlone (fun claimed => claimed.map Job.id) store after.store outcome := by
  have obeys : (claimNext worker).Obeys
      ((Operation.claimNext worker).part scheduler [] (Claiming worker)) [] :=
    claimNext_obeys (.claimNext worker) worker []
  obtain ⟨outcome, after, ends, _, alone⟩ := Surroundings.leavesAlone
    (Operation.obeys_of_part obeys) surroundings (fun _ _ way => Claiming.refused way)
    fun _ _ _ way heard => Claiming.concerns indexed way heard
  exact ⟨outcome, after, ends, alone⟩

/-- An execution leaves the jobs alone but for its own, and all of them when it fails. It has not
published when the copy does not run or is not due. -/
theorem execute_alone (surroundings : Surroundings) (scheduler : Scheduler) (store : Store)
    (copy : Job) :
    ∃ outcome after, surroundings.Ends store (scheduler.execute copy) outcome after ∧
      LeavesAlone (fun _ => some copy.id) store after.store outcome ∧
      ∀ cause, outcome = .error cause →
        ((∃ id status, cause = .jobNotRunning id status) ∨
          ∃ id publishAt, cause = .notYetDue id publishAt) →
        Dialogue.publications after.said = [] := by
  have took : (Operation.execute copy).Took [] copy := ⟨rfl, rfl⟩
  obtain ⟨outcome, after, ends, way, alone⟩ := Surroundings.leavesAlone
    (Operation.obeys_of_part (execute_obeys took)) surroundings
    (fun _ _ way => Executing.refused way) fun _ _ _ way _ => Executing.concerns way
  refine ⟨outcome, after, ends, alone, ?_⟩
  rintro cause rfl refusal
  exact Executing.unpublished way refusal

end Scheduler

/-- In every store that requests can lead to, a request that is not granted changes nothing, and
one that is granted changes the row that it is about and the owners of the intents which that row
had before and has after it. So an operation that runs alone, whatever the clock, the names and the
publisher are, comes to an end, and

* leaves the store as it was when it fails, or when it is a claim that gives nothing;
* leaves every row as it was but that of its own job when it gives a result;
* has not published when it is an execution of a copy that does not run or is not due.

Proof: the dialogue of the call goes one of the ways of its operation, and each reply in it is that
of the store as it was then. Failing, no way has a request that was granted; giving a result, a way
has one at most, which is about the job of the result. -/
theorem refusals_leave_no_trace (calls : List StoreCall) :
    let store := Store.empty.afterCalls calls
    (∀ call, ¬ call.Granted (store.answer call).1 → (store.answer call).2 = store) ∧
    (∀ call id, call.subject? = some id →
      (store.answer call).2.AgreesBut store id ∧
      ∀ key, (∀ row, store.find id = some row ∨ (store.answer call).2.find id = some row →
          row.key ≠ key) →
        (store.answer call).2.owners.find? key = store.owners.find? key) ∧
    ∀ (surroundings : Surroundings) (scheduler : Scheduler),
      (∀ content publishAt, ∃ outcome after,
        surroundings.Ends store (scheduler.schedule content publishAt) outcome after ∧
        LeavesAlone (fun job => some job.id) store after.store outcome) ∧
      (∀ id, ∃ outcome after,
        surroundings.Ends store (Scheduler.unschedule id) outcome after ∧
        LeavesAlone (fun _ => some id) store after.store outcome) ∧
      (∀ id publishAt, ∃ outcome after,
        surroundings.Ends store (scheduler.reschedule id publishAt) outcome after ∧
        LeavesAlone (fun _ => some id) store after.store outcome) ∧
      (∀ worker, ∃ outcome after,
        surroundings.Ends store (Scheduler.claimNext worker) outcome after ∧
        LeavesAlone (fun claimed => claimed.map Job.id) store after.store outcome) ∧
      ∀ copy, ∃ outcome after,
        surroundings.Ends store (scheduler.execute copy) outcome after ∧
        LeavesAlone (fun _ => some copy.id) store after.store outcome ∧
        ∀ cause, outcome = .error cause →
          ((∃ id status, cause = .jobNotRunning id status) ∨
            ∃ id publishAt, cause = .notYetDue id publishAt) →
          Dialogue.publications after.said = [] := by
  intro store
  have indexed : store.Indexed := Store.Indexed.empty.afterCalls calls
  refine ⟨fun call => Store.answer_of_not_granted, ?_, ?_⟩
  · intro call id about
    exact ⟨store.answer_agreesBut about, fun key => store.owner_answer_of_ne about⟩
  intro surroundings scheduler
  exact ⟨Scheduler.schedule_alone surroundings scheduler store,
    Scheduler.unschedule_alone surroundings scheduler store,
    Scheduler.reschedule_alone surroundings scheduler indexed,
    Scheduler.claimNext_alone surroundings scheduler indexed,
    Scheduler.execute_alone surroundings scheduler store⟩

end TimedPublishing
