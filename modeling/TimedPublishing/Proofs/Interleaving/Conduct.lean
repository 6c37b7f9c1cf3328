import TimedPublishing.Proofs.Interleaving.System
import TimedPublishing.Proofs.Settings.Arithmetic

/-!
# How the operations conduct themselves

What a caller has in hand says which requests are right for it to make: to save a new job
under the name it just made up, to move a job from the version it read, to publish a copy it
claimed and was not answered for, and to save the one outcome that follows from the answer.
`Program.Follows` says that a program makes right requests only, on every branch, so for
every reply that the world may give. Where every operation follows this rule, what callers do
to each other is a matter of hands, not of programs.
-/

namespace TimedPublishing

/-- The next attempt follows the entry of the table for the count of failures, the last entry from
the end of the table on. -/
theorem RetryPolicy.nextRetry_eq_some {policy : RetryPolicy} {failures : Attempts}
    {now later : Instant} (retries : policy.nextRetry failures now = some later) :
    ∃ delay : Nat,
      policy.delays[min (failures.count - 1) (policy.delays.length - 1)]? = some delay ∧
      later.nanos = now.nanos + delay * nanosPerSecond :=
  ⟨policy.delayAfter failures.count, policy.getElem?_delays failures.count,
    (nextRetry_eq_some_iff.mp retries).2⟩

/-- The reason of an attempt that did not publish. -/
def PublishReply.failure? : PublishReply → Option String
  | published => none
  | rejected reason => some reason
  | failed reason => some reason
  | crashed detail => some ("publisher panicked: " ++ detail.getD "unknown panic payload")

/-- The outcome of an attempt with a claimed copy, by the publisher's reply and the reading of
the clock after it. -/
def Scheduler.outcome (scheduler : Scheduler) (copy : Job) (reply : PublishReply) (now : Instant) :
    Change :=
  match reply.failure? with
  | none => .succeed now
  | some reason =>
    match scheduler.policy.nextRetry copy.attempts.next now with
    | some nextRetryAt => .retryLater reason nextRetryAt now
    | none => .fail reason now

/-- Exactly a publication is no failed attempt. -/
theorem PublishReply.failure?_eq_none_iff (reply : PublishReply) :
    reply.failure? = none ↔ reply = .published := by
  cases reply <;> simp [failure?]

/-- A publication ends the job well. After a failed attempt the job waits for the instant of its
next attempt, or ends when there is none. -/
theorem Scheduler.outcome_cases {scheduler : Scheduler} {copy concluded : Job}
    {reply : PublishReply} {now : Instant}
    (entered : copy.change (scheduler.outcome copy reply now) = .ok concluded) :
    (reply = .published ∧ copy.succeed now = .ok concluded) ∨
      (reply ≠ .published ∧ ∃ reason nextRetryAt,
        scheduler.policy.nextRetry copy.attempts.next now = some nextRetryAt ∧
          copy.retryLater reason nextRetryAt now = .ok concluded) ∨
      (reply ≠ .published ∧ scheduler.policy.nextRetry copy.attempts.next now = none ∧
        ∃ reason, copy.fail reason now = .ok concluded) := by
  unfold outcome at entered
  split at entered
  · next published => exact Or.inl ⟨reply.failure?_eq_none_iff.mp published, entered⟩
  · next reason failure =>
    have unpublished : reply ≠ .published := by
      intro published
      rw [reply.failure?_eq_none_iff.mpr published] at failure
      cases failure
    split at entered
    · next nextRetryAt retries =>
      exact Or.inr (Or.inl ⟨unpublished, reason, nextRetryAt, retries, entered⟩)
    · next exhausted => exact Or.inr (Or.inr ⟨unpublished, exhausted, reason, entered⟩)

/-- The requests that are right with what a caller has in hand. Looking and claiming always
are. -/
def Hand.Permits (scheduler : Scheduler) (hand : Hand) : Call → Prop
  | .publish content => ∃ copy, hand = .copy copy ∧ copy.content = content
  | .store (.save job) =>
    (∃ content publishAt now, hand = .name job.id ∧ job = .create job.id content publishAt now) ∨
      ∃ copy reply now, hand = .answered copy reply ∧
        copy.change (scheduler.outcome copy reply now) = .ok job
  | .store (.updateIfQueued moved) =>
    ∃ version publishAt now, hand = .read version ∧ version.reschedule publishAt now = .ok moved
  | _ => True

namespace Program

variable {α : Type}

/-- A program makes right requests only, whatever it is replied, and ends with a value that
fits what is then in hand. -/
def Follows (scheduler : Scheduler) (ends : Hand → α → Prop) : Hand → Program α → Prop
  | hand, done value => ends hand value
  | _, fail _ => True
  | hand, ask call resume =>
    hand.Permits scheduler call ∧
      ∀ reply, Follows scheduler ends (hand.next call reply) (resume reply)

end Program

namespace Operation

/-- The hand with which an operation may end: a copy that it gives out is in hand. -/
def Ends : (operation : Operation) → Hand → operation.Result → Prop
  | claimNext _, hand, claimed => ∀ copy, claimed = some copy → hand = .copy copy
  | _, _, _ => True

end Operation

end TimedPublishing
