import TimedPublishing.Calendar.Instant
import TimedPublishing.Job.Error

/-!
# Publish jobs

A job is the intent to publish one content at one time. Its state carries what belongs to
its status and nothing else, so a job can hold no owner unless it runs and no retry time
unless it waits for one. The transitions take a job to its next version or are refused;
they never change the job's name, its content or the time of its making.
-/

namespace TimedPublishing

/-- A count of attempts, in a field of 32 bits. -/
structure Attempts where
  count : Nat
  inRange : count ≤ Text.maxWord32
deriving DecidableEq, Repr

namespace Attempts

/-- No attempt. -/
def zero : Attempts := ⟨0, by decide⟩

instance : Inhabited Attempts := ⟨zero⟩

/-- The full count. -/
def most : Attempts := ⟨Text.maxWord32, Nat.le_refl _⟩

/-- The count that a number stands for, if the field holds it. -/
def ofNat? (count : Nat) : Option Attempts :=
  if inRange : count ≤ Text.maxWord32 then some ⟨count, inRange⟩ else none

/-- One more attempt; a full count stays full. -/
def next (attempts : Attempts) : Attempts :=
  if room : attempts.count < Text.maxWord32 then ⟨attempts.count + 1, room⟩ else attempts

/-- Counting one more adds one up to the full count. -/
theorem next_count (attempts : Attempts) :
    attempts.next.count = min (attempts.count + 1) Text.maxWord32 := by
  have bound := attempts.inRange
  unfold next
  split
  · rw [Nat.min_eq_left (by omega)]
  · rw [Nat.min_eq_right (by omega)]
    omega

end Attempts

/-- Where a job stands, with what belongs to that standing. -/
inductive JobState
  | queued
  | running (owner : WorkerId)
  | retryWait (nextRetryAt : Instant)
  | succeeded (completedAt : Instant) (actualPublishAt : Instant)
  | failed (completedAt : Instant)
deriving DecidableEq, Repr

/-- The status of a state. -/
def JobState.status : JobState → JobStatus
  | .queued => .queued
  | .running _ => .running
  | .retryWait _ => .retryWait
  | .succeeded _ _ => .succeeded
  | .failed _ => .failed

/-- The intent of a job: which content, and when. -/
structure JobKey where
  content : ContentId
  publishAt : Instant
deriving DecidableEq, Repr

/-- The intent to publish one content at one time, and what came of it so far. -/
structure Job where
  id : JobId
  content : ContentId
  publishAt : Instant
  state : JobState
  attempts : Attempts
  lastAttemptAt : Option Instant
  errorMessage : Option String
  createdAt : Instant
  updatedAt : Instant
deriving DecidableEq, Repr

namespace Job

/-- A new job, queued and never attempted. -/
def create (id : JobId) (content : ContentId) (publishAt now : Instant) : Job :=
  ⟨id, content, publishAt, .queued, .zero, none, none, now, now⟩

/-- The intent of a job. -/
def key (job : Job) : JobKey := ⟨job.content, job.publishAt⟩

/-- The status of a job. -/
def status (job : Job) : JobStatus := job.state.status

/-- A queued job is in the one state of the queue. -/
theorem state_of_queued {job : Job} (queued : job.status = .queued) : job.state = .queued := by
  unfold status at queued
  cases standing : job.state <;> simp_all [JobState.status]

/-- A running job has an owner. -/
theorem state_of_running {job : Job} (running : job.status = .running) :
    ∃ owner, job.state = .running owner := by
  unfold status at running
  cases standing : job.state <;> simp_all [JobState.status]

/-- The owner, while the job runs. -/
def claimedBy (job : Job) : Option WorkerId :=
  match job.state with
  | .running owner => some owner
  | _ => none

/-- The time of the next attempt, while the job waits for it. -/
def nextRetryAt (job : Job) : Option Instant :=
  match job.state with
  | .retryWait nextRetryAt => some nextRetryAt
  | _ => none

/-- The time of the end, once the job has ended. -/
def completedAt (job : Job) : Option Instant :=
  match job.state with
  | .succeeded completedAt _ => some completedAt
  | .failed completedAt => some completedAt
  | _ => none

/-- The time of publication, once the job has succeeded. -/
def actualPublishAt (job : Job) : Option Instant :=
  match job.state with
  | .succeeded _ actualPublishAt => some actualPublishAt
  | _ => none

/-- Whether a worker may claim the job: never before its publish time, and while it waits
for a retry not before that either. -/
def isDue (job : Job) (now : Instant) : Bool :=
  decide (job.publishAt ≤ now) &&
    match job.state with
    | .queued => true
    | .retryWait nextRetryAt => decide (nextRetryAt ≤ now)
    | _ => false

/-- The refusal of a transition. -/
def refuse (job : Job) (transition : Transition) : JobError :=
  .invalidTransition job.status transition

/-- Hand a due job to a worker. -/
def claim (job : Job) (worker : WorkerId) (now : Instant) : Except JobError Job :=
  if job.isDue now then .ok { job with state := .running worker, updatedAt := now }
  else .error (job.refuse .claim)

/-- Count an attempt that ended at an instant and enter its outcome. -/
def conclude (job : Job) (transition : Transition) (state : JobState) (error : Option String)
    (now : Instant) : Except JobError Job :=
  match job.state with
  | .running _ =>
    .ok { job with
      state := state
      attempts := job.attempts.next
      lastAttemptAt := some now
      errorMessage := error <|> job.errorMessage
      updatedAt := now }
  | _ => .error (job.refuse transition)

/-- The running job was published. An earlier error message stays. -/
def succeed (job : Job) (now : Instant) : Except JobError Job :=
  job.conclude .succeed (.succeeded now now) none now

/-- The attempt failed and another will follow. -/
def retryLater (job : Job) (error : String) (nextRetryAt now : Instant) : Except JobError Job :=
  job.conclude .retryLater (.retryWait nextRetryAt) (some error) now

/-- The attempt failed and none will follow. -/
def fail (job : Job) (error : String) (now : Instant) : Except JobError Job :=
  job.conclude .fail (.failed now) (some error) now

/-- Move a queued job to another publish time. -/
def reschedule (job : Job) (publishAt now : Instant) : Except JobError Job :=
  match job.state with
  | .queued => .ok { job with publishAt := publishAt, updatedAt := now }
  | _ => .error (job.refuse .reschedule)

end Job

/-- A transition with what it is given. -/
inductive Change
  | claim (worker : WorkerId) (now : Instant)
  | succeed (now : Instant)
  | retryLater (error : String) (nextRetryAt now : Instant)
  | fail (error : String) (now : Instant)
  | reschedule (publishAt now : Instant)
deriving DecidableEq, Repr

/-- The job after a change, or the refusal. -/
def Job.change (job : Job) : Change → Except JobError Job
  | .claim worker now => job.claim worker now
  | .succeed now => job.succeed now
  | .retryLater error nextRetryAt now => job.retryLater error nextRetryAt now
  | .fail error now => job.fail error now
  | .reschedule publishAt now => job.reschedule publishAt now

end TimedPublishing
