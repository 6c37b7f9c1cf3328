import TimedPublishing.Calendar.Date
import TimedPublishing.Job.Basic

/-!
# What a job store is asked

The requests a store answers, what each is answered with, and the errors a store reports.
A store keeps at most one job for each intent, makes each request a single atomic step,
and overwrites no job that has ended; how it does so is its own affair. Requests are plain
data, so that a program that makes them can be run against any store, a faulty one
included.
-/

namespace TimedPublishing

/-- An error of a job store. -/
inductive StoreError
  /-- A different job already has this intent. -/
  | duplicateKey (key : JobKey)
  /-- The stored job has ended. -/
  | terminal (id : JobId)
  /-- A stored row is no job. -/
  | corrupt (fault : JobError)
  /-- The store itself failed. -/
  | storage (detail : String)
deriving DecidableEq, Repr

/-- The wording of an error. -/
def StoreError.message : StoreError → String
  | .duplicateKey key =>
    "duplicate idempotency key for content " ++ key.content.text ++ " at " ++ key.publishAt.text
  | .terminal id => "job " ++ id.text ++ " is terminal and cannot be overwritten"
  | .corrupt fault => "corrupt job record: " ++ fault.message
  | .storage detail => "storage error: " ++ detail

/-- The number of jobs in each status. The numbers have no bound. Words of 64 bits hold the same
numbers while all jobs together are no more than a word can count. An addition beyond that stops a
program that checks it, and wraps round in one that does not; `Store.tally_fits` says when no store
comes so far. -/
structure Tally where
  queued : Nat
  running : Nat
  retryWait : Nat
  succeeded : Nat
  failed : Nat
deriving DecidableEq, Repr

namespace Tally

/-- No job at all. -/
def zero : Tally := ⟨0, 0, 0, 0, 0⟩

/-- Count a number of jobs with a status. -/
def record (tally : Tally) (status : JobStatus) (count : Nat) : Tally :=
  match status with
  | .queued => { tally with queued := tally.queued + count }
  | .running => { tally with running := tally.running + count }
  | .retryWait => { tally with retryWait := tally.retryWait + count }
  | .succeeded => { tally with succeeded := tally.succeeded + count }
  | .failed => { tally with failed := tally.failed + count }

/-- The number of jobs with a status. -/
def count (tally : Tally) : JobStatus → Nat
  | .queued => tally.queued
  | .running => tally.running
  | .retryWait => tally.retryWait
  | .succeeded => tally.succeeded
  | .failed => tally.failed

/-- The number of all jobs. -/
def total (tally : Tally) : Nat :=
  tally.queued + tally.running + tally.retryWait + tally.succeeded + tally.failed

/-- Recording adds to the count of its status and to no other. -/
theorem count_record (tally : Tally) (status other : JobStatus) (amount : Nat) :
    (tally.record status amount).count other =
      tally.count other + if status = other then amount else 0 := by
  cases status <;> cases other <;> simp [record, count]

/-- Recording adds to the total. -/
theorem total_record (tally : Tally) (status : JobStatus) (amount : Nat) :
    (tally.record status amount).total = tally.total + amount := by
  cases status <;> simp only [record, total] <;> omega

end Tally

/-- A request to a job store. -/
inductive StoreCall
  /-- The job with an intent. -/
  | findByKey (key : JobKey)
  /-- The job with a name. -/
  | find (id : JobId)
  /-- Insert a job, or replace the one with its name unless that one has ended. -/
  | save (job : Job)
  /-- Replace the job with this name while it is still queued. -/
  | updateIfQueued (job : Job)
  /-- Remove a job while it is still queued. -/
  | delete (id : JobId)
  /-- The jobs due at an instant, the oldest publish time first, up to a number of them. -/
  | listDue (now : Instant) (limit : Nat)
  /-- Hand a due job to a worker. -/
  | claim (id : JobId) (worker : WorkerId) (now : Instant)
  /-- The jobs whose publish time lies from `start` up to but not including `stop`, of
  all statuses or of the given ones. -/
  | listRange (start stop : Instant) (statuses : Option (List JobStatus))
  /-- The number of jobs in each status. -/
  | tally
deriving DecidableEq, Repr

/-- What a request is answered with when it succeeds. A missing job is `none`; the
conditional requests answer `none` or `false` when their condition does not hold. -/
def StoreCall.Answer : StoreCall → Type
  | .findByKey _ => Option Job
  | .find _ => Option Job
  | .save _ => Job
  | .updateIfQueued _ => Option Job
  | .delete _ => Bool
  | .listDue _ _ => List Job
  | .claim _ _ _ => Option Job
  | .listRange _ _ _ => List Job
  | .tally => Tally

/-- The reply to a request: its answer or an error. -/
abbrev StoreCall.Reply (call : StoreCall) : Type := Except StoreError call.Answer

end TimedPublishing
