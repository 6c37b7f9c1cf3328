import TimedPublishing.Proofs.Interleaving.Conduct
import TimedPublishing.Proofs.Interleaving.Dialogue

/-!
# What the operations say

Each operation of the scheduler obeys a protocol. `Operation.Asks` gives the requests that it may
make with what must have been said right before: a job is published after a reading of the clock
that is not before its time, an outcome is saved after the publisher's reply and one reading of
the clock, a claim is made with the reading that the listing was made with. For the operations
that make, remove, move, claim and execute jobs there is also a table of the ways in which a whole
call may go, with what it gives its caller on each way. A pass over the due jobs is made of claims
and executions, and its table of theirs.

Every operation is walked once. What callers do to each other is read off the protocols later,
and so are the rule of conduct by hands and what a call does that runs alone.
-/

namespace TimedPublishing

/-- How an operation came by a copy: it was given the copy to execute, or its own claim was just
answered with it. -/
def Operation.Took : Operation → Dialogue → Job → Prop
  | .execute own, said, copy => said = [] ∧ own = copy
  | _, said, copy =>
    ∃ earlier id worker now, said = earlier ++ [.store (.claim id worker now) (.ok (some copy))]

/-- An operation that was not given a copy took the one that its last claim was answered with. -/
theorem Operation.took_of_claim {operation : Operation}
    (claims : ∀ given, operation ≠ .execute given) {earlier : Dialogue} {id : JobId}
    {worker : WorkerId} {now : Instant} {copy : Job} :
    operation.Took (earlier ++ [.store (.claim id worker now) (.ok (some copy))]) copy := by
  cases operation with
  | execute given => exact absurd rfl (claims given)
  | schedule content publishAt => exact ⟨earlier, id, worker, now, rfl⟩
  | unschedule own => exact ⟨earlier, id, worker, now, rfl⟩
  | reschedule own publishAt => exact ⟨earlier, id, worker, now, rfl⟩
  | claimNext other => exact ⟨earlier, id, worker, now, rfl⟩
  | runDue other maxJobs => exact ⟨earlier, id, worker, now, rfl⟩
  | listRange start stop statuses => exact ⟨earlier, id, worker, now, rfl⟩
  | tally => exact ⟨earlier, id, worker, now, rfl⟩

/-- The requests of an operation, by what was said before. Reading the clock, making up a name and
looking around are always allowed. -/
def Operation.Asks (scheduler : Scheduler) (operation : Operation) (said : Dialogue) : Call → Prop
  | .publish content =>
    ∃ earlier copy now, said = earlier ++ [.clock now] ∧ operation.Took earlier copy ∧
      copy.content = content ∧ copy.publishAt ≤ now
  | .store (.save job) =>
    (∃ content publishAt check now, operation = .schedule content publishAt ∧
      job = .create job.id content publishAt now ∧
      said = [.clock check, .store (.findByKey ⟨content, publishAt⟩) (.ok none), .clock now,
        .freshId job.id]) ∨
      ∃ earlier copy check reply now,
        said = earlier ++ [.clock check, .publish copy.content reply, .clock now] ∧
          operation.Took earlier copy ∧
          copy.change (scheduler.outcome copy reply now) = .ok job
  | .store (.updateIfQueued moved) =>
    ∃ id publishAt version check owner now, operation = .reschedule id publishAt ∧
      version.reschedule publishAt now = .ok moved ∧
      said = [.store (.find id) (.ok (some version)), .clock check,
        .store (.findByKey ⟨version.content, publishAt⟩) (.ok owner), .clock now]
  | .store (.delete id) => operation = .unschedule id
  | .store (.claim id _ now) =>
    ∃ earlier candidate others again,
      said = earlier ++
        [.clock now, .store (.listDue now 1) (.ok (candidate :: others)), .clock again] ∧
      candidate.id = id ∧ candidate.publishAt ≤ again
  | _ => True

/-- What an attempt is reported as, by its outcome and the job that was saved. -/
def Change.report (saved : Job) : Change → Execution
  | .retryLater error _ _ => .retryScheduled saved error
  | .fail error _ => .failed saved error
  | _ => .succeeded saved

/-- How the look-up of a job by name may fail a call. -/
inductive Unloaded (id : JobId) : Dialogue → ScheduleError → Prop
  | missing : Unloaded id [.store (.find id) (.ok none)] (.jobNotFound id)
  | unread (cause : StoreError) : Unloaded id [.store (.find id) (.error cause)] (.store cause)

namespace Scheduler

/-- The ways of a call that makes the job for an intent. -/
inductive Scheduling (scheduler : Scheduler) (content : ContentId) (publishAt : Instant) :
    Dialogue → Except ScheduleError Job → Prop
  | past {check : Instant} (past : publishAt.isFuture scheduler.grace check = false) :
    Scheduling scheduler content publishAt [.clock check] (.error (.publishTimePast publishAt))
  | unlooked {check : Instant} (future : publishAt.isFuture scheduler.grace check = true)
      (cause : StoreError) :
    Scheduling scheduler content publishAt
      [.clock check, .store (.findByKey ⟨content, publishAt⟩) (.error cause)]
      (.error (.store cause))
  | existing {check : Instant} (future : publishAt.isFuture scheduler.grace check = true)
      (job : Job) :
    Scheduling scheduler content publishAt
      [.clock check, .store (.findByKey ⟨content, publishAt⟩) (.ok (some job))] (.ok job)
  | saved {check : Instant} (future : publishAt.isFuture scheduler.grace check = true)
      (now : Instant) (id : JobId) (job : Job) :
    Scheduling scheduler content publishAt
      [.clock check, .store (.findByKey ⟨content, publishAt⟩) (.ok none), .clock now, .freshId id,
        .store (.save (.create id content publishAt now)) (.ok job)] (.ok job)
  | unsaved {check : Instant} (future : publishAt.isFuture scheduler.grace check = true)
      (now : Instant) (id : JobId) {cause : StoreError}
      (other : ∀ key, cause ≠ .duplicateKey key) :
    Scheduling scheduler content publishAt
      [.clock check, .store (.findByKey ⟨content, publishAt⟩) (.ok none), .clock now, .freshId id,
        .store (.save (.create id content publishAt now)) (.error cause)] (.error (.store cause))
  /-- Another call won the intent in between. -/
  | lost {check : Instant} (future : publishAt.isFuture scheduler.grace check = true)
      (now : Instant) (id : JobId) (key : JobKey) (winner : Job) :
    Scheduling scheduler content publishAt
      [.clock check, .store (.findByKey ⟨content, publishAt⟩) (.ok none), .clock now, .freshId id,
        .store (.save (.create id content publishAt now)) (.error (.duplicateKey key)),
        .store (.findByKey key) (.ok (some winner))] (.ok winner)
  | vanished {check : Instant} (future : publishAt.isFuture scheduler.grace check = true)
      (now : Instant) (id : JobId) (key : JobKey) :
    Scheduling scheduler content publishAt
      [.clock check, .store (.findByKey ⟨content, publishAt⟩) (.ok none), .clock now, .freshId id,
        .store (.save (.create id content publishAt now)) (.error (.duplicateKey key)),
        .store (.findByKey key) (.ok none)] (.error (.store (.duplicateKey key)))
  | unfound {check : Instant} (future : publishAt.isFuture scheduler.grace check = true)
      (now : Instant) (id : JobId) (key : JobKey) (cause : StoreError) :
    Scheduling scheduler content publishAt
      [.clock check, .store (.findByKey ⟨content, publishAt⟩) (.ok none), .clock now, .freshId id,
        .store (.save (.create id content publishAt now)) (.error (.duplicateKey key)),
        .store (.findByKey key) (.error cause)] (.error (.store cause))

/-- The ways of a call that removes a queued job. -/
inductive Unscheduling (id : JobId) : Dialogue → Except ScheduleError Bool → Prop
  | unloaded {said : Dialogue} {cause : ScheduleError} (unloaded : Unloaded id said cause) :
    Unscheduling id said (.error cause)
  | late {job : Job} (left : job.status ≠ .queued) :
    Unscheduling id [.store (.find id) (.ok (some job))] (.error (.cannotCancel id job.status))
  | removed {job : Job} (queued : job.status = .queued) :
    Unscheduling id [.store (.find id) (.ok (some job)), .store (.delete id) (.ok true)] (.ok true)
  | undeleted {job : Job} (queued : job.status = .queued) (cause : StoreError) :
    Unscheduling id [.store (.find id) (.ok (some job)), .store (.delete id) (.error cause)]
      (.error (.store cause))
  /-- The job left the queue in between. -/
  | lost {job : Job} (queued : job.status = .queued) (current : Job) :
    Unscheduling id
      [.store (.find id) (.ok (some job)), .store (.delete id) (.ok false),
        .store (.find id) (.ok (some current))] (.error (.cannotCancel id current.status))
  | vanished {job : Job} (queued : job.status = .queued) {more : Dialogue} {cause : ScheduleError}
      (unloaded : Unloaded id more cause) :
    Unscheduling id (.store (.find id) (.ok (some job)) :: .store (.delete id) (.ok false) :: more)
      (.error cause)

/-- The ways of a call that moves a job which it found in the queue, from where the intent to move
to was free or the job's own. -/
inductive Moving (id : JobId) (job : Job) (publishAt : Instant) :
    Dialogue → Except ScheduleError Job → Prop
  | moved {now : Instant} {moved : Job} (moves : job.reschedule publishAt now = .ok moved)
      (saved : Job) :
    Moving id job publishAt [.clock now, .store (.updateIfQueued moved) (.ok (some saved))]
      (.ok saved)
  /-- The job left the queue in between. -/
  | lost {now : Instant} {moved : Job} (moves : job.reschedule publishAt now = .ok moved)
      (current : Job) :
    Moving id job publishAt
      [.clock now, .store (.updateIfQueued moved) (.ok none),
        .store (.find id) (.ok (some current))] (.error (.cannotReschedule id current.status))
  | vanished {now : Instant} {moved : Job} (moves : job.reschedule publishAt now = .ok moved)
      {more : Dialogue} {cause : ScheduleError} (unloaded : Unloaded id more cause) :
    Moving id job publishAt
      (.clock now :: .store (.updateIfQueued moved) (.ok none) :: more) (.error cause)
  /-- Another job took the intent in between. -/
  | conflict {now : Instant} {moved : Job} (moves : job.reschedule publishAt now = .ok moved)
      (key : JobKey) (other : Option Job) :
    Moving id job publishAt
      [.clock now, .store (.updateIfQueued moved) (.error (.duplicateKey key)),
        .store (.findByKey ⟨job.content, publishAt⟩) (.ok other)]
      (.error (.scheduleConflict ⟨job.content, publishAt⟩ ((other.map Job.id).getD id)))
  | unfound {now : Instant} {moved : Job} (moves : job.reschedule publishAt now = .ok moved)
      (key : JobKey) (cause : StoreError) :
    Moving id job publishAt
      [.clock now, .store (.updateIfQueued moved) (.error (.duplicateKey key)),
        .store (.findByKey ⟨job.content, publishAt⟩) (.error cause)] (.error (.store cause))
  | unsaved {now : Instant} {moved : Job} (moves : job.reschedule publishAt now = .ok moved)
      {cause : StoreError} (other : ∀ key, cause ≠ .duplicateKey key) :
    Moving id job publishAt [.clock now, .store (.updateIfQueued moved) (.error cause)]
      (.error (.store cause))

/-- The ways of a call that moves a queued job to another publish time. -/
inductive Rescheduling (scheduler : Scheduler) (id : JobId) (publishAt : Instant) :
    Dialogue → Except ScheduleError Job → Prop
  | unloaded {said : Dialogue} {cause : ScheduleError} (unloaded : Unloaded id said cause) :
    Rescheduling scheduler id publishAt said (.error cause)
  | late {job : Job} (left : job.status ≠ .queued) :
    Rescheduling scheduler id publishAt [.store (.find id) (.ok (some job))]
      (.error (.cannotReschedule id job.status))
  | past {job : Job} (queued : job.status = .queued) {check : Instant}
      (past : publishAt.isFuture scheduler.grace check = false) :
    Rescheduling scheduler id publishAt [.store (.find id) (.ok (some job)), .clock check]
      (.error (.publishTimePast publishAt))
  | same {job : Job} (queued : job.status = .queued) {check : Instant}
      (future : publishAt.isFuture scheduler.grace check = true)
      (same : job.publishAt = publishAt) :
    Rescheduling scheduler id publishAt [.store (.find id) (.ok (some job)), .clock check] (.ok job)
  | unlooked {job : Job} (queued : job.status = .queued) {check : Instant}
      (future : publishAt.isFuture scheduler.grace check = true) (cause : StoreError) :
    Rescheduling scheduler id publishAt
      [.store (.find id) (.ok (some job)), .clock check,
        .store (.findByKey ⟨job.content, publishAt⟩) (.error cause)] (.error (.store cause))
  | taken {job : Job} (queued : job.status = .queued) {check : Instant}
      (future : publishAt.isFuture scheduler.grace check = true) {other : Job}
      (different : other.id ≠ id) :
    Rescheduling scheduler id publishAt
      [.store (.find id) (.ok (some job)), .clock check,
        .store (.findByKey ⟨job.content, publishAt⟩) (.ok (some other))]
      (.error (.scheduleConflict ⟨job.content, publishAt⟩ other.id))
  | moving {job : Job} (queued : job.status = .queued) {check : Instant}
      (future : publishAt.isFuture scheduler.grace check = true) {owner : Option Job}
      (free : ∀ other, owner = some other → other.id = id) {more : Dialogue}
      {outcome : Except ScheduleError Job} (moving : Moving id job publishAt more outcome)
      (elsewhere : job.publishAt ≠ publishAt) :
    Rescheduling scheduler id publishAt
      (.store (.find id) (.ok (some job)) :: .clock check ::
        .store (.findByKey ⟨job.content, publishAt⟩) (.ok owner) :: more) outcome

/-- The ways of a call that claims the next job. -/
inductive Claiming (worker : WorkerId) : Dialogue → Except ScheduleError (Option Job) → Prop
  | unlisted (now : Instant) (cause : StoreError) :
    Claiming worker [.clock now, .store (.listDue now 1) (.error cause)] (.error (.store cause))
  | idle (now : Instant) :
    Claiming worker [.clock now, .store (.listDue now 1) (.ok [])] (.ok none)
  /-- The store listed a job whose publish time has not come by the second reading. -/
  | early (now : Instant) {candidate : Job} (others : List Job) {again : Instant}
      (early : ¬ candidate.publishAt ≤ again) :
    Claiming worker
      [.clock now, .store (.listDue now 1) (.ok (candidate :: others)), .clock again] (.ok none)
  | unanswered (now : Instant) {candidate : Job} (others : List Job) {again : Instant}
      (come : candidate.publishAt ≤ again) (cause : StoreError) :
    Claiming worker
      [.clock now, .store (.listDue now 1) (.ok (candidate :: others)), .clock again,
        .store (.claim candidate.id worker now) (.error cause)] (.error (.store cause))
  | answered (now : Instant) {candidate : Job} (others : List Job) {again : Instant}
      (come : candidate.publishAt ≤ again) (claimed : Option Job) :
    Claiming worker
      [.clock now, .store (.listDue now 1) (.ok (candidate :: others)), .clock again,
        .store (.claim candidate.id worker now) (.ok claimed)] (.ok claimed)

/-- The ways of a call that executes a copy. -/
inductive Executing (scheduler : Scheduler) (copy : Job) :
    Dialogue → Except ScheduleError Execution → Prop
  | standing (standing : copy.status ≠ .running) :
    Executing scheduler copy [] (.error (.jobNotRunning copy.id copy.status))
  | early (running : copy.status = .running) {check : Instant} (early : ¬ copy.publishAt ≤ check) :
    Executing scheduler copy [.clock check] (.error (.notYetDue copy.id copy.publishAt))
  | unsaved (running : copy.status = .running) {check : Instant} (come : copy.publishAt ≤ check)
      {reply : PublishReply} {now : Instant} {concluded : Job}
      (entered : copy.change (scheduler.outcome copy reply now) = .ok concluded)
      (cause : StoreError) :
    Executing scheduler copy
      [.clock check, .publish copy.content reply, .clock now,
        .store (.save concluded) (.error cause)] (.error (.store cause))
  | saved (running : copy.status = .running) {check : Instant} (come : copy.publishAt ≤ check)
      {reply : PublishReply} {now : Instant} {concluded : Job}
      (entered : copy.change (scheduler.outcome copy reply now) = .ok concluded) (saved : Job) :
    Executing scheduler copy
      [.clock check, .publish copy.content reply, .clock now,
        .store (.save concluded) (.ok saved)]
      (.ok ((scheduler.outcome copy reply now).report saved))

/-- The ways of a pass over the due jobs, by the number of jobs it may still execute. -/
inductive Draining (scheduler : Scheduler) (worker : WorkerId) :
    Nat → Dialogue → Except ScheduleError (List Execution) → Prop
  | full : Draining scheduler worker 0 [] (.ok [])
  | idle {remaining : Nat} {said : Dialogue} (claiming : Claiming worker said (.ok none)) :
    Draining scheduler worker (remaining + 1) said (.ok [])
  | unclaimed {remaining : Nat} {said : Dialogue} {cause : ScheduleError}
      (claiming : Claiming worker said (.error cause)) :
    Draining scheduler worker (remaining + 1) said (.error cause)
  | unexecuted {remaining : Nat} {said more : Dialogue} {copy : Job} {cause : ScheduleError}
      (claiming : Claiming worker said (.ok (some copy)))
      (executing : Executing scheduler copy more (.error cause)) :
    Draining scheduler worker (remaining + 1) (said ++ more) (.error cause)
  | onwards {remaining : Nat} {said more rest : Dialogue} {copy : Job} {execution : Execution}
      {outcome : Except ScheduleError (List Execution)}
      (claiming : Claiming worker said (.ok (some copy)))
      (executing : Executing scheduler copy more (.ok execution))
      (draining : Draining scheduler worker remaining rest outcome) :
    Draining scheduler worker (remaining + 1) (said ++ more ++ rest)
      (outcome.map (execution :: ·))

/-- What a pass gives its caller for the executions in it. -/
def reported : List Execution → List Execution
  | [] => [.noJobs]
  | executions => executions

/-- The ways of a whole pass. -/
inductive Passing (scheduler : Scheduler) (worker : WorkerId) (maxJobs : Nat) :
    Dialogue → Except ScheduleError (List Execution) → Prop
  | drained {said : Dialogue} {outcome : Except ScheduleError (List Execution)}
      (draining : scheduler.Draining worker maxJobs said outcome) :
    Passing scheduler worker maxJobs said (outcome.map reported)

end Scheduler

namespace Operation

/-- The protocol of a part of an operation that begins after a dialogue. It asks what the operation
may ask, and goes one of its own ways from there on. -/
def part {α : Type} (operation : Operation) (scheduler : Scheduler) (earlier : Dialogue)
    (ways : Dialogue → Except ScheduleError α → Prop) : Protocol α :=
  ⟨operation.Asks scheduler, fun said outcome =>
    ∃ more, said = earlier ++ more ∧ ways more outcome⟩

/-- A part that begins with the operation goes one of its ways from the start. -/
theorem obeys_of_part {α : Type} {operation : Operation} {scheduler : Scheduler}
    {ways : Dialogue → Except ScheduleError α → Prop} {program : Program α}
    (obeys : program.Obeys (operation.part scheduler [] ways) []) :
    program.Obeys ⟨operation.Asks scheduler, ways⟩ [] := by
  refine obeys.mono (fun _ _ asks => asks) ?_
  rintro _ outcome ⟨more, rfl, way⟩
  exact way

/-- The most requests of a call that makes a job. -/
def scheduleLength : Nat := 6

/-- The protocol of an operation. -/
def protocol (scheduler : Scheduler) : (operation : Operation) → Protocol operation.Result
  | schedule content publishAt =>
    ⟨fun said call =>
      (schedule content publishAt).Asks scheduler said call ∧ said.length < scheduleLength,
      scheduler.Scheduling content publishAt⟩
  | unschedule id => ⟨(unschedule id).Asks scheduler, Scheduler.Unscheduling id⟩
  | reschedule id publishAt =>
    ⟨(reschedule id publishAt).Asks scheduler, scheduler.Rescheduling id publishAt⟩
  | claimNext worker =>
    ⟨(claimNext worker).Asks scheduler, fun said outcome =>
      ∀ copy, outcome = .ok (some copy) → (claimNext worker).Took said copy⟩
  | operation => ⟨operation.Asks scheduler, fun _ _ => True⟩

/-- Every protocol asks only what the operation may ask. -/
theorem asks_of_protocol {scheduler : Scheduler} {operation : Operation} {said : Dialogue}
    {call : Call} (asks : (operation.protocol scheduler).asks said call) :
    operation.Asks scheduler said call := by
  cases operation with
  | schedule content publishAt => exact asks.1
  | unschedule id => exact asks
  | reschedule id publishAt => exact asks
  | claimNext worker => exact asks
  | execute copy => exact asks
  | runDue worker maxJobs => exact asks
  | listRange start stop statuses => exact asks
  | tally => exact asks

end Operation

open Program (Obeys)

variable {scheduler : Scheduler}

/-- A look-up by name goes on with the job that was found, or fails the call. -/
theorem Program.Obeys.load {α : Type} {protocol : Protocol α} {said : Dialogue} {id : JobId}
    {next : Job → Program α} (allowed : protocol.asks said (.store (.find id)))
    (found : ∀ job, (next job).Obeys protocol (said ++ [.store (.find id) (.ok (some job))]))
    (unloaded : ∀ more cause,
      Unloaded id more cause → protocol.gives (said ++ more) (.error cause)) :
    (load id >>= next).Obeys protocol said := by
  apply Obeys.bind
  refine Obeys.request ?_ ?_ ?_
  · exact allowed
  · intro answer
    cases answer with
    | none => exact unloaded _ _ .missing
    | some job => exact found job
  · intro cause
    exact unloaded _ _ (.unread cause)

namespace Scheduler

/-- Every call that makes a job goes one of its ways. -/
theorem schedule_obeys (content : ContentId) (publishAt : Instant) :
    (scheduler.schedule content publishAt).Obeys
      ((Operation.schedule content publishAt).protocol scheduler) [] := by
  refine Obeys.clock ⟨trivial, by simp [Operation.scheduleLength]⟩ ?_
  intro check
  split
  · next future =>
    refine Obeys.request ⟨trivial, by simp [Operation.scheduleLength]⟩ ?_ (.unlooked future)
    intro existing
    cases existing with
    | some job => exact .existing future job
    | none =>
      refine Obeys.clock ⟨trivial, by simp [Operation.scheduleLength]⟩ ?_
      intro now
      refine Obeys.freshId ⟨trivial, by simp [Operation.scheduleLength]⟩ ?_
      intro id
      refine Obeys.attempt ⟨Or.inl ⟨content, publishAt, check, now, rfl, rfl, rfl⟩,
        by simp [Operation.scheduleLength]⟩ ?_
      intro reply
      match reply with
      | .ok saved => exact .saved future now id saved
      | .error (.duplicateKey key) =>
        refine Obeys.request ⟨trivial, by simp [Operation.scheduleLength]⟩ ?_
          (.unfound future now id key)
        intro winner
        cases winner with
        | some winner => exact .lost future now id key winner
        | none => exact .vanished future now id key
      | .error (.terminal other) => exact .unsaved future now id (by simp)
      | .error (.corrupt fault) => exact .unsaved future now id (by simp)
      | .error (.storage detail) => exact .unsaved future now id (by simp)
  · next past => exact .past (by simpa using past)

/-- Every call that removes a job goes one of its ways. -/
theorem unschedule_obeys (id : JobId) :
    (unschedule id).Obeys ((Operation.unschedule id).protocol scheduler) [] := by
  refine Obeys.load trivial ?_ fun _ _ => .unloaded
  intro job
  split
  · next queued =>
    refine Obeys.request rfl ?_ (.undeleted queued)
    intro removed
    cases removed with
    | true => exact .removed queued
    | false =>
      refine Obeys.load trivial ?_ fun _ _ => .vanished queued
      intro current
      exact .lost queued current
  · next left => exact .late left

/-- From a job that was found in the queue, and an intent that was free, a call goes one of the
ways of moving. -/
theorem moveTo_obeys {id : JobId} {job : Job} {publishAt check : Instant} {owner : Option Job}
    (queued : job.status = .queued) (future : publishAt.isFuture scheduler.grace check = true)
    (free : ∀ other, owner = some other → other.id = id) (elsewhere : job.publishAt ≠ publishAt) :
    (moveTo id job publishAt).Obeys ((Operation.reschedule id publishAt).protocol scheduler)
      [.store (.find id) (.ok (some job)), .clock check,
        .store (.findByKey ⟨job.content, publishAt⟩) (.ok owner)] := by
  refine Obeys.clock trivial ?_
  intro now
  apply Obeys.change
  · intro moved moves
    refine Obeys.attempt ⟨id, publishAt, job, check, owner, now, rfl, moves, rfl⟩ ?_
    intro reply
    match reply with
    | .ok (some saved) => exact .moving queued future free (.moved moves saved) elsewhere
    | .ok none =>
      refine Obeys.load trivial ?_ fun _ _ unloaded =>
        .moving queued future free (.vanished moves unloaded) elsewhere
      intro current
      exact .moving queued future free (.lost moves current) elsewhere
    | .error (.duplicateKey key) =>
      refine Obeys.request trivial ?_ fun cause =>
        .moving queued future free (.unfound moves key cause) elsewhere
      intro other
      exact .moving queued future free (.conflict moves key other) elsewhere
    | .error (.terminal other) =>
      exact .moving queued future free (.unsaved moves (by simp)) elsewhere
    | .error (.corrupt fault) =>
      exact .moving queued future free (.unsaved moves (by simp)) elsewhere
    | .error (.storage detail) =>
      exact .moving queued future free (.unsaved moves (by simp)) elsewhere
  · intro cause refused
    simp [Job.reschedule, Job.state_of_queued queued] at refused

/-- Every call that moves a job goes one of its ways. -/
theorem reschedule_obeys (id : JobId) (publishAt : Instant) :
    (scheduler.reschedule id publishAt).Obeys
      ((Operation.reschedule id publishAt).protocol scheduler) [] := by
  refine Obeys.load trivial ?_ fun _ _ => .unloaded
  intro job
  split
  · next left => exact .late left
  · next notLeft =>
    have queued : job.status = .queued := not_not.mp notLeft
    refine Obeys.clock trivial ?_
    intro check
    split
    · next past => exact .past queued (by simpa using past)
    · next notPast =>
      have future : publishAt.isFuture scheduler.grace check = true := not_not.mp notPast
      split
      · next same => exact .same queued future same
      · next elsewhere =>
        refine Obeys.request trivial ?_ (.unlooked queued future)
        intro owner
        cases owner with
        | none => exact moveTo_obeys queued future (by simp) elsewhere
        | some other =>
          dsimp only
          split
          · next different => exact .taken queued future different
          · next own =>
            refine moveTo_obeys queued future ?_ elsewhere
            rintro _ ⟨⟩
            exact not_not.mp own

/-- A copy that a claim of the next job ends with is the one that its request was answered with. -/
theorem Claiming.took {operation : Operation} (claims : ∀ given, operation ≠ .execute given)
    {worker : WorkerId} {more : Dialogue} {copy : Job}
    (way : Claiming worker more (.ok (some copy))) (said : Dialogue) :
    operation.Took (said ++ more) copy := by
  generalize ended : Except.ok (some copy) = outcome at way
  cases way with
  | unlisted now cause => cases ended
  | idle now => cases ended
  | early now others early => cases ended
  | unanswered now others come cause => cases ended
  | @answered now candidate others again come claimed =>
    cases ended
    have split : said ++ [.clock now, .store (.listDue now 1) (.ok (candidate :: others)),
          .clock again, .store (.claim candidate.id worker now) (.ok (some copy))] =
        said ++ [.clock now, .store (.listDue now 1) (.ok (candidate :: others)), .clock again] ++
          [.store (.claim candidate.id worker now) (.ok (some copy))] := by simp
    rw [split]
    exact Operation.took_of_claim claims

/-- Every claim of the next job goes one of its ways, and is made with the reading of the
listing. -/
theorem claimNext_obeys (operation : Operation) (worker : WorkerId) (said : Dialogue) :
    (claimNext worker).Obeys (operation.part scheduler said (Claiming worker)) said := by
  refine Obeys.clock trivial ?_
  intro now
  refine Obeys.request trivial ?_ fun cause => ⟨_, by simp, .unlisted now cause⟩
  intro due
  cases due with
  | nil => exact ⟨_, by simp, .idle now⟩
  | cons candidate others =>
    refine Obeys.clock trivial ?_
    intro again
    cases come : candidate.publishAt.hasCome again with
    | false => exact ⟨_, by simp, .early now others (of_decide_eq_false come)⟩
    | true =>
      have notEarly : candidate.publishAt ≤ again := of_decide_eq_true come
      refine ⟨⟨said, candidate, others, again, by simp, rfl, notEarly⟩, ?_⟩
      intro reply
      cases reply with
      | error cause => exact ⟨_, by simp, .unanswered now others notEarly cause⟩
      | ok claimed => exact ⟨_, by simp, .answered now others notEarly claimed⟩

/-- What a scheduler saves once the publisher has replied is the one outcome of that reply. -/
theorem settle_obeys {operation : Operation} {earlier : Dialogue} {copy : Job}
    (took : operation.Took earlier copy) (running : copy.status = .running) {check : Instant}
    (come : copy.publishAt ≤ check) (reply : PublishReply) (now : Instant) :
    (scheduler.settle copy reply now).Obeys
      (operation.part scheduler earlier (scheduler.Executing copy))
      (earlier ++ [.clock check, .publish copy.content reply, .clock now]) := by
  have granted (transition : Transition) (state : JobState) (error : Option String)
      (cause : JobError) : copy.conclude transition state error now ≠ .error cause := by
    obtain ⟨owner, standing⟩ := Job.state_of_running running
    simp [Job.conclude, standing]
  have saves {concluded : Job} {answer : Job → Execution}
      (entered : copy.change (scheduler.outcome copy reply now) = .ok concluded)
      (reports : answer = (scheduler.outcome copy reply now).report) :
      (Program.request (.save concluded) >>= fun saved => Program.done (answer saved)).Obeys
        (operation.part scheduler earlier (scheduler.Executing copy))
        (earlier ++ [.clock check, .publish copy.content reply, .clock now]) := by
    refine Obeys.request
      (Or.inr ⟨earlier, copy, check, reply, now, rfl, took, entered⟩) ?_
      fun cause => ⟨_, by simp, .unsaved running come entered cause⟩
    intro saved
    subst reports
    exact ⟨_, by simp, .saved running come entered saved⟩
  have failed (reason : String) (failure : reply.failure? = some reason) :
      (scheduler.settleFailure copy reason now).Obeys
        (operation.part scheduler earlier (scheduler.Executing copy))
        (earlier ++ [.clock check, .publish copy.content reply, .clock now]) := by
    unfold settleFailure
    split
    · next nextRetryAt retries =>
      have outcome : scheduler.outcome copy reply now = .retryLater reason nextRetryAt now := by
        simp only [Scheduler.outcome, failure, retries]
      refine Obeys.change ?_ fun cause refused => absurd refused (granted _ _ _ cause)
      intro waiting entered
      exact saves (outcome ▸ entered) (by rw [outcome]; rfl)
    · next exhausted =>
      have outcome : scheduler.outcome copy reply now = .fail reason now := by
        simp only [Scheduler.outcome, failure, exhausted]
      refine Obeys.change ?_ fun cause refused => absurd refused (granted _ _ _ cause)
      intro ended entered
      exact saves (outcome ▸ entered) (by rw [outcome]; rfl)
  cases reply with
  | published =>
    refine Obeys.change ?_ fun cause refused => absurd refused (granted _ _ _ cause)
    intro published entered
    exact saves entered rfl
  | rejected reason => exact failed reason rfl
  | failed reason => exact failed reason rfl
  | crashed detail => exact failed _ rfl

/-- Every execution goes one of its ways: it publishes the copy that it took, once and not before
its time, and saves its outcome. -/
theorem execute_obeys {operation : Operation} {said : Dialogue} {copy : Job}
    (took : operation.Took said copy) :
    (scheduler.execute copy).Obeys (operation.part scheduler said (scheduler.Executing copy))
      said := by
  unfold execute
  split
  · next left => exact ⟨_, by simp, .standing left⟩
  · next notLeft =>
    have running : copy.status = .running := not_not.mp notLeft
    refine Obeys.clock trivial ?_
    intro check
    split
    · next early => exact ⟨_, rfl, .early running fun come => early (decide_eq_true come)⟩
    · next notEarly =>
      have come : copy.publishAt ≤ check := of_decide_eq_true (not_not.mp notEarly)
      refine Obeys.publish ⟨said, copy, check, rfl, took, rfl, come⟩ ?_
      intro reply
      refine Obeys.clock trivial ?_
      intro now
      simpa using settle_obeys took running come reply now

/-- Every pass goes one of its ways: it executes each copy right after its claim was answered with
it, however many there are. -/
theorem drain_obeys {operation : Operation} (claims : ∀ given, operation ≠ .execute given)
    (worker : WorkerId) (remaining : Nat) (said : Dialogue) :
    (scheduler.drain worker remaining).Obeys
      (operation.part scheduler said (scheduler.Draining worker remaining)) said := by
  induction remaining generalizing said with
  | zero => exact ⟨_, by simp, .full⟩
  | succ remaining inductionHypothesis =>
    apply Obeys.bind
    refine (claimNext_obeys operation worker said).mono (fun _ _ asks => asks) ?_
    rintro _ outcome ⟨first, rfl, claiming⟩
    match outcome with
    | .error cause => exact ⟨_, rfl, .unclaimed claiming⟩
    | .ok none => exact ⟨_, rfl, .idle claiming⟩
    | .ok (some copy) =>
      apply Obeys.bind
      refine (execute_obeys (claiming.took claims said)).mono (fun _ _ asks => asks) ?_
      rintro _ executed ⟨second, rfl, executing⟩
      cases executed with
      | error cause => exact ⟨_, by simp, .unexecuted claiming executing⟩
      | ok execution =>
        apply Obeys.bind
        refine (inductionHypothesis _).mono (fun _ _ asks => asks) ?_
        rintro _ drained ⟨third, rfl, draining⟩
        cases drained with
        | error cause => exact ⟨_, by simp, .onwards claiming executing draining⟩
        | ok executions => exact ⟨_, by simp, .onwards claiming executing draining⟩

/-- Every whole pass goes one of its ways: it reports what it has executed, or that there was
nothing to execute. -/
theorem runDue_obeys (worker : WorkerId) (maxJobs : Nat) (said : Dialogue) :
    (scheduler.runDue worker maxJobs).Obeys
      ((Operation.runDue worker maxJobs).part scheduler said (scheduler.Passing worker maxJobs))
      said := by
  apply Obeys.bind
  refine (drain_obeys (by simp) worker maxJobs said).mono (fun _ _ asks => asks) ?_
  rintro _ outcome ⟨more, rfl, draining⟩
  match outcome with
  | .error cause => exact ⟨more, rfl, .drained draining⟩
  | .ok [] => exact ⟨more, rfl, .drained draining⟩
  | .ok (execution :: others) => exact ⟨more, rfl, .drained draining⟩

end Scheduler

namespace Operation

/-- Every operation obeys its protocol from its start, under any settings. -/
theorem obeys (scheduler : Scheduler) (operation : Operation) :
    (operation.program scheduler).Obeys (operation.protocol scheduler) [] := by
  cases operation with
  | schedule content publishAt => exact Scheduler.schedule_obeys content publishAt
  | unschedule id => exact Scheduler.unschedule_obeys id
  | reschedule id publishAt => exact Scheduler.reschedule_obeys id publishAt
  | claimNext worker =>
    refine (Scheduler.claimNext_obeys (.claimNext worker) worker []).mono (fun _ _ asks => asks) ?_
    rintro _ outcome ⟨more, rfl, claiming⟩ copy rfl
    exact claiming.took (by simp) []
  | execute copy =>
    have took : (Operation.execute copy).Took [] copy := ⟨rfl, rfl⟩
    exact (Scheduler.execute_obeys took).mono (fun _ _ asks => asks) fun _ _ _ => trivial
  | runDue worker maxJobs =>
    exact (Scheduler.runDue_obeys worker maxJobs []).mono (fun _ _ asks => asks)
      fun _ _ _ => trivial
  | listRange start stop statuses =>
    refine ⟨trivial, ?_⟩
    intro reply
    cases reply <;> trivial
  | tally =>
    refine ⟨trivial, ?_⟩
    intro reply
    cases reply <;> trivial

end Operation

/-- What a caller has in hand after a dialogue. -/
def Hand.after (hand : Hand) (said : Dialogue) : Hand :=
  said.foldl (fun current exchange => current.next exchange.call exchange.reply) hand

/-- The last exchange of a dialogue changes the hand last. -/
theorem Hand.after_snoc (hand : Hand) (said : Dialogue) (last : Exchange) :
    hand.after (said ++ [last]) = (hand.after said).next last.call last.reply := by
  simp [after, List.foldl_append]

namespace Operation

/-- A copy that was just taken is in hand. -/
theorem hand_of_took {operation : Operation} {said : Dialogue} {copy : Job}
    (took : operation.Took said copy) : (Hand.initial operation).after said = .copy copy := by
  have answered {hand : Hand} (claimed : ∃ earlier id worker now,
      said = earlier ++ [.store (.claim id worker now) (.ok (some copy))]) :
      hand.after said = .copy copy := by
    obtain ⟨earlier, id, worker, now, rfl⟩ := claimed
    exact hand.after_snoc earlier _
  cases operation with
  | execute own =>
    obtain ⟨rfl, rfl⟩ := took
    rfl
  | schedule content publishAt => exact answered took
  | unschedule id => exact answered took
  | reschedule id publishAt => exact answered took
  | claimNext worker => exact answered took
  | runDue worker maxJobs => exact answered took
  | listRange start stop statuses => exact answered took
  | tally => exact answered took

/-- A copy that was published after one reading of the clock is in hand with its reply, also after
another reading. -/
theorem hand_of_published {operation : Operation} {earlier : Dialogue} {copy : Job}
    (took : operation.Took earlier copy) (check : Instant) (reply : PublishReply) (now : Instant) :
    (Hand.initial operation).after
        (earlier ++ [.clock check, .publish copy.content reply, .clock now]) =
      .answered copy reply := by
  have inHand := hand_of_took took
  unfold Hand.after at inHand ⊢
  rw [List.foldl_append, inHand]
  rfl

/-- What an operation asks is right with what its caller has in hand. -/
theorem permitted_of_asks {operation : Operation} {said : Dialogue} {call : Call}
    (asks : operation.Asks scheduler said call) :
    ((Hand.initial operation).after said).Permits scheduler call := by
  cases call with
  | clock => trivial
  | freshId => trivial
  | publish content =>
    obtain ⟨earlier, copy, now, rfl, took, sameContent, _⟩ := asks
    exact ⟨copy, (Hand.after_snoc _ _ _).trans (hand_of_took took), sameContent⟩
  | store call =>
    cases call with
    | save job =>
      rcases asks with ⟨content, publishAt, check, now, rfl, created, rfl⟩ |
          ⟨earlier, copy, check, reply, now, rfl, took, entered⟩
      · exact Or.inl ⟨content, publishAt, now, rfl, created⟩
      · exact Or.inr ⟨copy, reply, now, hand_of_published took check reply now, entered⟩
    | updateIfQueued moved =>
      obtain ⟨id, publishAt, version, check, owner, now, rfl, moves, rfl⟩ := asks
      exact ⟨version, publishAt, now, rfl, moves⟩
    | findByKey key => trivial
    | find id => trivial
    | delete id => trivial
    | listDue now limit => trivial
    | claim id worker now => trivial
    | listRange start stop statuses => trivial
    | tally => trivial

end Operation

/-- An operation ends with what fits the hand that its caller then has. -/
theorem Operation.ends_of_gives {operation : Operation} {said : Dialogue}
    {value : operation.Result} (gives : (operation.protocol scheduler).gives said (.ok value)) :
    operation.Ends ((Hand.initial operation).after said) value := by
  cases operation with
  | claimNext worker =>
    rintro copy rfl
    exact hand_of_took (gives copy rfl)
  | schedule content publishAt => trivial
  | unschedule id => trivial
  | reschedule id publishAt => trivial
  | execute copy => trivial
  | runDue worker maxJobs => trivial
  | listRange start stop statuses => trivial
  | tally => trivial

/-- A program that obeys a protocol follows the rule of hands, if the protocol does. -/
theorem Program.Obeys.follows {α : Type} {protocol : Protocol α} {hand : Hand}
    {ends : Hand → α → Prop} {program : Program α} {said : Dialogue}
    (obeys : program.Obeys protocol said)
    (permits : ∀ after call, protocol.asks after call → (hand.after after).Permits scheduler call)
    (finishes : ∀ after value, protocol.gives after (.ok value) → ends (hand.after after) value) :
    program.Follows scheduler ends (hand.after said) := by
  induction program generalizing said with
  | done value => exact finishes said value obeys
  | fail cause => trivial
  | ask call resume inductionHypothesis =>
    refine ⟨permits said call obeys.1, ?_⟩
    intro reply
    rw [← hand.after_snoc said ⟨call, reply⟩]
    exact inductionHypothesis reply (obeys.2 reply)

/-- Every operation follows the rule of hands from its start, under any settings. -/
theorem Operation.follows (scheduler : Scheduler) (operation : Operation) :
    (operation.program scheduler).Follows scheduler operation.Ends (.initial operation) :=
  (operation.obeys scheduler).follows
    (fun _ _ asks => permitted_of_asks (asks_of_protocol asks)) fun _ _ gives => ends_of_gives gives

end TimedPublishing
