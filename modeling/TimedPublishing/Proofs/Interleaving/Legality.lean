import TimedPublishing.Proofs.Alone.Surroundings
import TimedPublishing.Proofs.Custody.Basic
import TimedPublishing.Proofs.Interleaving.Protocols

/-!
# No refused transition comes out of a call

A job refuses a change that its state does not allow, and the scheduler would hand such a refusal to
its caller. It never has to: before each change it has looked at the status of the very copy that it
changes. So whatever a store, a publisher and a clock reply, jobs of the wrong name or in the wrong
state included, no call ends with a refused transition. Its tables of ways show it call by call.

For an execution the table also shows that it publishes at most once, when exactly, and that a crash
of the publisher is a failed attempt like any other.
-/

namespace TimedPublishing

open Program (Obeys)

/-- The outcome of a call is not the refusal of a transition. -/
def Lawful {α : Type} (outcome : Except ScheduleError α) : Prop :=
  ∀ fault, outcome ≠ .error (.job fault)

/-- A lawful outcome is lawful whatever is made of its value. -/
theorem Lawful.map {α β : Type} {outcome : Except ScheduleError α} (lawful : Lawful outcome)
    (image : α → β) : Lawful (outcome.map image) := by
  intro fault
  cases outcome with
  | ok value => exact nofun
  | error cause =>
    intro same
    cases same
    exact lawful fault rfl

/-- The look-up of a job refuses no transition. -/
theorem Unloaded.lawful {α : Type} {id : JobId} {said : Dialogue} {cause : ScheduleError}
    (unloaded : Unloaded id said cause) : Lawful (.error cause : Except ScheduleError α) := by
  cases unloaded <;> exact nofun

namespace Scheduler

variable {scheduler : Scheduler} {said : Dialogue}

/-- Making a job refuses no transition. -/
theorem Scheduling.lawful {content : ContentId} {publishAt : Instant}
    {outcome : Except ScheduleError Job}
    (way : scheduler.Scheduling content publishAt said outcome) :
    Lawful outcome := by
  cases way <;> exact nofun

/-- Removing a job refuses no transition, and says that it has removed the job if it gives an
answer. -/
theorem Unscheduling.lawful {id : JobId} {outcome : Except ScheduleError Bool}
    (way : Unscheduling id said outcome) : Lawful outcome ∧ outcome ≠ .ok false := by
  cases way with
  | unloaded unloaded => exact ⟨unloaded.lawful, nofun⟩
  | vanished queued unloaded => exact ⟨unloaded.lawful, nofun⟩
  | _ => exact ⟨nofun, nofun⟩

/-- Moving a job that was found in the queue refuses no transition. -/
theorem Moving.lawful {id : JobId} {job : Job} {publishAt : Instant}
    {outcome : Except ScheduleError Job} (way : Moving id job publishAt said outcome) :
    Lawful outcome := by
  cases way with
  | vanished moves unloaded => exact unloaded.lawful
  | _ => exact nofun

/-- Moving a job refuses no transition. -/
theorem Rescheduling.lawful {id : JobId} {publishAt : Instant} {outcome : Except ScheduleError Job}
    (way : scheduler.Rescheduling id publishAt said outcome) : Lawful outcome := by
  cases way with
  | unloaded unloaded => exact unloaded.lawful
  | moving queued future free moving => exact moving.lawful
  | _ => exact nofun

/-- Claiming a job refuses no transition. -/
theorem Claiming.lawful {worker : WorkerId} {outcome : Except ScheduleError (Option Job)}
    (way : Claiming worker said outcome) : Lawful outcome := by
  cases way <;> exact nofun

/-- Executing a copy refuses no transition. -/
theorem Executing.lawful {copy : Job} {outcome : Except ScheduleError Execution}
    (way : scheduler.Executing copy said outcome) : Lawful outcome := by
  cases way <;> exact nofun

/-- A pass over the due jobs refuses no transition. -/
theorem Draining.lawful {worker : WorkerId} {remaining : Nat}
    {outcome : Except ScheduleError (List Execution)}
    (way : scheduler.Draining worker remaining said outcome) : Lawful outcome := by
  induction way with
  | full => exact nofun
  | idle claiming => exact nofun
  | unclaimed claiming => exact fun fault same => claiming.lawful fault (by cases same; rfl)
  | unexecuted claiming executing =>
    exact fun fault same => executing.lawful fault (by cases same; rfl)
  | onwards claiming executing draining inductionHypothesis => exact inductionHypothesis.map _

/-- A whole pass refuses no transition. -/
theorem Passing.lawful {worker : WorkerId} {maxJobs : Nat}
    {outcome : Except ScheduleError (List Execution)}
    (way : scheduler.Passing worker maxJobs said outcome) : Lawful outcome := by
  cases way with
  | drained draining => exact draining.lawful.map _

end Scheduler

/-- No operation refuses a transition, whatever it is replied. -/
theorem Operation.lawful (scheduler : Scheduler) (operation : Operation) :
    (operation.program scheduler).Obeys ⟨fun _ _ => True, fun _ outcome => Lawful outcome⟩ [] := by
  have asked {call : StoreCall} :
      (Program.request call).Obeys ⟨fun _ _ => True, fun _ outcome => Lawful outcome⟩ [] := by
    refine ⟨trivial, fun reply => ?_⟩
    cases reply with
    | ok answer => exact nofun
    | error cause => exact nofun
  cases operation with
  | schedule content publishAt =>
    exact (Scheduler.schedule_obeys content publishAt).mono (fun _ _ _ => trivial)
      fun _ _ way => way.lawful
  | unschedule id =>
    exact (@Scheduler.unschedule_obeys scheduler id).mono (fun _ _ _ => trivial)
      fun _ _ way => way.lawful.1
  | reschedule id publishAt =>
    exact (Scheduler.reschedule_obeys id publishAt).mono (fun _ _ _ => trivial)
      fun _ _ way => way.lawful
  | claimNext worker =>
    refine (@Scheduler.claimNext_obeys scheduler (.claimNext worker) worker []).mono
      (fun _ _ _ => trivial) ?_
    rintro _ outcome ⟨_, _, way⟩
    exact way.lawful
  | execute copy =>
    have took : (Operation.execute copy).Took [] copy := ⟨rfl, rfl⟩
    refine (Scheduler.execute_obeys took).mono (fun _ _ _ => trivial) ?_
    rintro _ outcome ⟨_, _, way⟩
    exact way.lawful
  | runDue worker maxJobs =>
    refine (Scheduler.runDue_obeys worker maxJobs []).mono (fun _ _ _ => trivial) ?_
    rintro _ outcome ⟨_, _, way⟩
    exact way.lawful
  | listRange start stop statuses => exact asked
  | tally => exact asked

namespace Scheduler

variable {scheduler : Scheduler}

/-- A claimed copy whose publish time has come by the reading of the clock that a call begins
with. -/
def Ripe (copy : Job) (said : Dialogue) : Prop :=
  copy.status = .running ∧ ∃ now more, said = .clock now :: more ∧ copy.publishAt ≤ now

/-- What comes of a failed attempt once it is saved: the job waits for its next attempt or is given
up, and the call reports that, or the error of the save. -/
inductive Conceded (concluded : Job) (reason : String) :
    Except StoreError Job → Except ScheduleError Execution → Prop
  | retried (waits : concluded.status = .retryWait) (saved : Job) :
    Conceded concluded reason (.ok saved) (.ok (.retryScheduled saved reason))
  | givenUp (ended : concluded.status = .failed) (saved : Job) :
    Conceded concluded reason (.ok saved) (.ok (.failed saved reason))
  | unsaved (settled : concluded.status = .retryWait ∨ concluded.status = .failed)
    (cause : StoreError) : Conceded concluded reason (.error cause) (.error (.store cause))

/-- An execution that is ended publishes a ripe copy once and no other. -/
theorem Executing.publications {copy : Job} {said : Dialogue}
    {outcome : Except ScheduleError Execution} (way : scheduler.Executing copy said outcome) :
    (∃ reply, said.publications = [(copy.content, reply)]) ∧ Ripe copy said ∨
      said.publications = [] ∧ ¬ Ripe copy said := by
  cases way with
  | standing standing => exact Or.inr ⟨rfl, fun ripe => standing ripe.1⟩
  | early running early =>
    refine Or.inr ⟨rfl, ?_⟩
    rintro ⟨_, now, more, same, come⟩
    cases same
    exact early come
  | unsaved running come entered cause =>
    exact Or.inl ⟨⟨_, rfl⟩, running, _, _, rfl, come⟩
  | saved running come entered saved =>
    exact Or.inl ⟨⟨_, rfl⟩, running, _, _, rfl, come⟩

/-- The outcome of a failed attempt has its reason and counts it, and the job waits or is given
up. -/
theorem outcome_of_failure {copy concluded : Job} {reply : PublishReply} {reason : String}
    {now : Instant} (failure : reply.failure? = some reason)
    (entered : copy.change (scheduler.outcome copy reply now) = .ok concluded) :
    concluded.errorMessage = some reason ∧ concluded.attempts = copy.attempts.next ∧
      (concluded.status = .retryWait ∧
          (∀ saved,
            (scheduler.outcome copy reply now).report saved = .retryScheduled saved reason) ∨
        concluded.status = .failed ∧
          ∀ saved, (scheduler.outcome copy reply now).report saved = .failed saved reason) := by
  unfold outcome at entered ⊢
  simp only [failure] at entered ⊢
  cases retries : scheduler.policy.nextRetry copy.attempts.next now with
  | some nextRetryAt =>
    simp only [retries] at entered ⊢
    obtain ⟨_, rfl⟩ := Job.conclude_eq_ok entered
    exact ⟨rfl, rfl, Or.inl ⟨rfl, fun _ => rfl⟩⟩
  | none =>
    simp only [retries] at entered ⊢
    obtain ⟨_, rfl⟩ := Job.conclude_eq_ok entered
    exact ⟨rfl, rfl, Or.inr ⟨rfl, fun _ => rfl⟩⟩

/-- A failed attempt is saved as one, with its reason, and counted. -/
theorem Executing.conceded {copy : Job} {said : Dialogue}
    {outcome : Except ScheduleError Execution} (way : scheduler.Executing copy said outcome)
    {content : ContentId} {publisherReply : PublishReply} {reason : String}
    (published : (content, publisherReply) ∈ said.publications)
    (failure : publisherReply.failure? = some reason) :
    ∃ earlier concluded reply, said = earlier ++ [.store (.save concluded) reply] ∧
      concluded.errorMessage = some reason ∧ concluded.attempts = copy.attempts.next ∧
      Conceded concluded reason reply outcome := by
  cases way with
  | standing standing => cases published
  | early running early => cases published
  | @unsaved _ check _ reply now concluded entered cause =>
    cases List.mem_singleton.mp published
    obtain ⟨message, counted, settled⟩ := outcome_of_failure failure entered
    refine ⟨[.clock check, .publish copy.content publisherReply, .clock now], concluded, _, rfl,
      message, counted, .unsaved ?_ cause⟩
    exact settled.imp And.left And.left
  | @saved _ check _ reply now concluded entered saved =>
    cases List.mem_singleton.mp published
    obtain ⟨message, counted, settled⟩ := outcome_of_failure failure entered
    refine ⟨[.clock check, .publish copy.content publisherReply, .clock now], concluded, _, rfl,
      message, counted, ?_⟩
    rcases settled with ⟨waits, report⟩ | ⟨ended, report⟩
    · rw [report]
      exact .retried waits saved
    · rw [report]
      exact .givenUp ended saved

/-- No operation ends with a refused transition, whatever the store, the publisher and the clock
reply to it and whatever it is called with. An execution makes one publication at most, and when it
is over it has made one, of its copy's content, exactly if it was given a running job that had come
due by its reading of the clock. A crash of the publisher is a failed attempt: it is saved as such
and reported as such, unless the save fails. And a removal that gives an answer has removed the job.

Proof: each change is made to the copy whose status was looked at, so the tables of ways know no
refusal. A dialogue that is not over can be brought to its end, and there the table counts the
publications. -/
theorem no_transition_refused (scheduler : Scheduler) :
    (∀ (operation : Operation) said fault,
        ¬ (operation.program scheduler).Leads said (.fail (.job fault))) ∧
      (∀ copy said rest, (scheduler.execute copy).Leads said rest → said.publications.length ≤ 1) ∧
      (∀ copy said outcome, (scheduler.execute copy).Leads said (.ended outcome) →
        ((∃ reply, said.publications = [(copy.content, reply)]) ↔ Ripe copy said) ∧
          (said.publications = [] ↔ ¬ Ripe copy said)) ∧
      (∀ copy said outcome content detail, (scheduler.execute copy).Leads said (.ended outcome) →
        (content, .crashed detail) ∈ said.publications →
        ∃ earlier concluded reply, said = earlier ++ [.store (.save concluded) reply] ∧
          concluded.errorMessage =
            some ("publisher panicked: " ++ detail.getD "unknown panic payload") ∧
          concluded.attempts = copy.attempts.next ∧
          Conceded concluded ("publisher panicked: " ++ detail.getD "unknown panic payload") reply
            outcome) ∧
      ∀ id said, ¬ (unschedule id).Leads said (.done false) := by
  have executing {copy : Job} {said : Dialogue} {outcome : Except ScheduleError Execution}
      (leads : (scheduler.execute copy).Leads said (.ended outcome)) :
      scheduler.Executing copy said outcome := by
    have took : (Operation.execute copy).Took [] copy := ⟨rfl, rfl⟩
    exact (Operation.obeys_of_part (execute_obeys took)).gives leads
  refine ⟨?lawful, ?once, ?exactly, ?crashed, ?removed⟩
  case lawful =>
    intro operation said fault leads
    exact (operation.lawful scheduler).leads leads fault rfl
  case once =>
    intro copy said rest leads
    -- The table speaks of whole executions, so this one is brought to its end.
    obtain ⟨more, outcome, onwards⟩ := rest.exists_ended
    have whole := (executing (leads.trans onwards)).publications
    rw [Dialogue.publications_append] at whole
    have counted : (said.publications ++ Dialogue.publications more).length ≤ 1 := by
      rcases whole with ⟨⟨reply, one⟩, _⟩ | ⟨none, _⟩
      · rw [one]
        exact Nat.le_refl 1
      · rw [none]
        exact Nat.zero_le 1
    rw [List.length_append] at counted
    omega
  case exactly =>
    intro copy said outcome leads
    rcases (executing leads).publications with ⟨⟨reply, one⟩, ripe⟩ | ⟨none, unripe⟩
    · simp [one, ripe]
    · simp [none, unripe]
  case crashed =>
    intro copy said outcome content detail leads published
    exact (executing leads).conceded published rfl
  case removed =>
    intro id said leads
    have ended : (unschedule id).Leads said (.ended (.ok false)) := leads
    have way : Unscheduling id said (.ok false) := (@unschedule_obeys scheduler id).gives ended
    exact way.lawful.2 rfl

end Scheduler

end TimedPublishing
