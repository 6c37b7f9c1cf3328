import TimedPublishing.Schedule.Execution
import TimedPublishing.Schedule.Program
import TimedPublishing.Schedule.Settings

/-!
# The operations of the scheduler

Each operation is a program over a store, a publisher and a clock. None keeps a lock or a
job between its requests: what it decides, it decides on what it has just read, and where
another worker may have come in between, the store's conditional requests tell it so.
Exclusion between workers rests on the store's `claim` alone.
-/

namespace TimedPublishing

/-- The job with a name, or the error that there is none. -/
def load (id : JobId) : Program Job := do
  match ← Program.request (.find id) with
  | some job => return job
  | none => .fail (.jobNotFound id)

namespace Scheduler

/-- Make the job for an intent, or find the one that has it already, whatever became of
that one. When another caller takes the intent between the look and the save, the job that
won is the answer. -/
def schedule (scheduler : Scheduler) (content : ContentId) (publishAt : Instant) :
    Program Job := do
  if publishAt.isFuture scheduler.grace (← Program.clock) then
    match ← Program.request (.findByKey ⟨content, publishAt⟩) with
    | some existing => return existing
    | none =>
      let now ← Program.clock
      let id ← Program.freshId
      match ← Program.attempt (.save (.create id content publishAt now)) with
      | .ok saved => return saved
      | .error (.duplicateKey key) =>
        match ← Program.request (.findByKey key) with
        | some winner => return winner
        | none => .fail (.store (.duplicateKey key))
      | .error cause => .fail (.store cause)
  else .fail (.publishTimePast publishAt)

/-- Remove a queued job. When it left the queue between the look and the removal, the
status it has by then is reported. -/
def unschedule (id : JobId) : Program Bool := do
  let job ← load id
  if job.status = .queued then
    match ← Program.request (.delete id) with
    | true => return true
    | false =>
      let current ← load id
      .fail (.cannotCancel id current.status)
  else .fail (.cannotCancel id job.status)

/-- Give the queued job that was found under a name its new publish time. The intent it
moves to was free, or its own, when it was last looked at. -/
def moveTo (id : JobId) (job : Job) (publishAt : Instant) : Program Job := do
  let now ← Program.clock
  let moved ← Program.ofChange (job.reschedule publishAt now)
  match ← Program.attempt (.updateIfQueued moved) with
  | .ok (some saved) => return saved
  | .ok none =>
    let current ← load id
    .fail (.cannotReschedule id current.status)
  | .error (.duplicateKey _) =>
    let other ← Program.request (.findByKey ⟨job.content, publishAt⟩)
    .fail (.scheduleConflict ⟨job.content, publishAt⟩ ((other.map Job.id).getD id))
  | .error cause => .fail (.store cause)

/-- Move a queued job to another publish time. -/
def reschedule (scheduler : Scheduler) (id : JobId) (publishAt : Instant) : Program Job := do
  let job ← load id
  if job.status ≠ .queued then .fail (.cannotReschedule id job.status)
  else if ¬ publishAt.isFuture scheduler.grace (← Program.clock) then
    .fail (.publishTimePast publishAt)
  else if job.publishAt = publishAt then return job
  else
    match ← Program.request (.findByKey ⟨job.content, publishAt⟩) with
    | some other =>
      if other.id ≠ id then .fail (.scheduleConflict ⟨job.content, publishAt⟩ other.id)
      else moveTo id job publishAt
    | none => moveTo id job publishAt

/-- Claim the oldest due job for a worker. The answer is none when nothing is due, when
the listed job's publish time has not come by a second reading of the clock, or when
another worker won the claim. -/
def claimNext (worker : WorkerId) : Program (Option Job) := do
  let now ← Program.clock
  match ← Program.request (.listDue now 1) with
  | [] => return none
  | candidate :: _ =>
    if candidate.publishAt.hasCome (← Program.clock) then
      Program.request (.claim candidate.id worker now)
    else return none

/-- Enter a failed attempt: the job waits for its next attempt, or is given up. -/
def settleFailure (scheduler : Scheduler) (job : Job) (reason : String) (now : Instant) :
    Program Execution := do
  match scheduler.policy.nextRetry job.attempts.next now with
  | some nextRetryAt =>
    let waiting ← Program.ofChange (job.retryLater reason nextRetryAt now)
    return .retryScheduled (← Program.request (.save waiting)) reason
  | none =>
    let ended ← Program.ofChange (job.fail reason now)
    return .failed (← Program.request (.save ended)) reason

/-- Enter what the publisher did, as of a reading of the clock after the call. A crash of
the publisher is a failed attempt like any other. -/
def settle (scheduler : Scheduler) (job : Job) (reply : PublishReply) (now : Instant) :
    Program Execution := do
  match reply with
  | .published =>
    let published ← Program.ofChange (job.succeed now)
    return .succeeded (← Program.request (.save published))
  | .rejected reason => scheduler.settleFailure job reason now
  | .failed reason => scheduler.settleFailure job reason now
  | .crashed detail =>
    scheduler.settleFailure job
      ("publisher panicked: " ++ detail.getD "unknown panic payload") now

/-- Publish a claimed job and enter the outcome. -/
def execute (scheduler : Scheduler) (job : Job) : Program Execution := do
  if job.status ≠ .running then .fail (.jobNotRunning job.id job.status)
  else if ¬ job.publishAt.hasCome (← Program.clock) then .fail (.notYetDue job.id job.publishAt)
  else
    let reply ← Program.publish job.content
    let now ← Program.clock
    scheduler.settle job reply now

/-- Claim and execute until nothing is claimed, at most a number of times. -/
def drain (scheduler : Scheduler) (worker : WorkerId) : Nat → Program (List Execution)
  | 0 => return []
  | remaining + 1 => do
    match ← claimNext worker with
    | none => return []
    | some job =>
      let execution ← scheduler.execute job
      return execution :: (← scheduler.drain worker remaining)

/-- Execute the due jobs, at most a number of them. A pass without an execution reports
the sentinel. -/
def runDue (scheduler : Scheduler) (worker : WorkerId) (maxJobs : Nat) :
    Program (List Execution) := do
  match ← scheduler.drain worker maxJobs with
  | [] => return [.noJobs]
  | executions => return executions

/-- The jobs with a publish time from `start` up to but not including `stop`. -/
def listRange (start stop : Instant) (statuses : Option (List JobStatus)) : Program (List Job) :=
  Program.request (.listRange start stop statuses)

/-- The number of jobs in each status. -/
def tally : Program Tally := Program.request .tally

end Scheduler

end TimedPublishing
