/-!
# Job statuses and transitions

A job waits in the queue, runs, waits for a retry, or has ended in success or failure.
The two ends are terminal; the two waits are the statuses a worker may claim from. Five
transitions move a job between statuses.
-/

namespace TimedPublishing

/-- Where a job stands in its life. -/
inductive JobStatus
  /-- Waiting for its publish time. -/
  | queued
  /-- Claimed by a worker and executing. -/
  | running
  /-- Failed at least once and waiting for the next attempt. -/
  | retryWait
  /-- Published. -/
  | succeeded
  /-- Given up. -/
  | failed
deriving DecidableEq, Repr

namespace JobStatus

/-- Every status, in the order of a job's life. -/
def all : List JobStatus := [.queued, .running, .retryWait, .succeeded, .failed]

/-- The word a status is stored and shown as. -/
def text : JobStatus → String
  | .queued => "queued"
  | .running => "running"
  | .retryWait => "retry_wait"
  | .succeeded => "succeeded"
  | .failed => "failed"

/-- The status that a word stands for. -/
def ofText? (word : String) : Option JobStatus := all.find? fun status => status.text == word

/-- A job that has ended. -/
def isTerminal : JobStatus → Bool
  | .succeeded | .failed => true
  | _ => false

/-- A job that a worker may claim once it is due. -/
def isClaimable : JobStatus → Bool
  | .queued | .retryWait => true
  | _ => false

/-- A job that a worker may claim has not ended. -/
theorem not_terminal_of_claimable {status : JobStatus} (claimable : status.isClaimable = true) :
    status.isTerminal = false := by
  cases status <;> simp_all [isClaimable, isTerminal]

/-- Reading a status back from its word. -/
theorem ofText?_text (status : JobStatus) : ofText? status.text = some status := by
  cases status <;> decide

/-- Different statuses have different words. -/
theorem text_injective {left right : JobStatus} (same : left.text = right.text) :
    left = right := by
  have found : some left = some right := by
    rw [← ofText?_text left, ← ofText?_text right, same]
  exact Option.some.inj found

end JobStatus

/-- A move of a job from one status to another. -/
inductive Transition
  | claim
  | succeed
  | retryLater
  | fail
  | reschedule
deriving DecidableEq, Repr

/-- The word for a transition in messages. -/
def Transition.text : Transition → String
  | .claim => "claim"
  | .succeed => "succeed"
  | .retryLater => "retry_later"
  | .fail => "fail"
  | .reschedule => "reschedule"

end TimedPublishing
