import TimedPublishing.Proofs.Alone.Drain

/-!
# What an attempt comes to

A running job that is executed has one attempt. The publisher is called once, and its reply, the
policy and the reading of the clock after the call settle the rest: the version of the job that is
written is the one that is reported, with the attempt counted. The policy is asked with the count
after the attempt, while that count is kept by a transition of its own and stops at the full count
of its field; `RetryPolicy.Follows` says in plain numbers when another attempt follows, and that
both ways of counting agree with it.

Where the job has ended in the meantime, the attempt is made all the same and its outcome is
refused.
-/

namespace TimedPublishing

/-- Another attempt follows the one that a job with some attempts has just failed: the budget is not
spent by it, and the delay of this attempt leads to an instant of the calendar. -/
def RetryPolicy.Follows (policy : RetryPolicy) (attempts : Attempts) (now retryAt : Instant) :
    Prop :=
  attempts.count + 1 < policy.budget.count ∧
    ∃ delay : Nat, policy.delays[min attempts.count (policy.delays.length - 1)]? = some delay ∧
      retryAt.nanos = now.nanos + delay * nanosPerSecond

/-- No attempt follows once the count is full, whatever the budget. -/
theorem RetryPolicy.not_follows_of_most (policy : RetryPolicy) (now retryAt : Instant) :
    ¬ policy.Follows .most now retryAt := by
  rintro ⟨left, _⟩
  have inRange := policy.budget.inRange
  change Text.maxWord32 + 1 < policy.budget.count at left
  omega

/-- The policy gives the instant of the next attempt exactly if one follows, although the count that
it is asked with may have stopped at the full count. -/
theorem RetryPolicy.nextRetry_next_eq_some_iff (policy : RetryPolicy) (attempts : Attempts)
    (now retryAt : Instant) :
    policy.nextRetry attempts.next now = some retryAt ↔ policy.Follows attempts now retryAt := by
  have inRange := policy.budget.inRange
  have counted := attempts.next_count
  have entry := policy.getElem?_delays attempts.next.count
  rw [nextRetry_eq_some_iff]
  constructor
  · rintro ⟨left, later⟩
    have exact : attempts.next.count = attempts.count + 1 := by omega
    rw [exact] at left later entry
    exact ⟨left, _, entry, later⟩
  · rintro ⟨left, delay, inTable, later⟩
    have exact : attempts.next.count = attempts.count + 1 := by omega
    rw [exact, Nat.add_sub_cancel, inTable] at entry
    rw [exact, ← Option.some.inj entry]
    exact ⟨left, later⟩

/-- A job after an attempt that ended at an instant, before the outcome is entered. -/
def Job.attempted (job : Job) (now : Instant) : Job :=
  { job with attempts := job.attempts.next, lastAttemptAt := some now, updatedAt := now }

/-- What the attempt with a running job comes to, by the publisher's reply and the reading of the
clock after it. A publication keeps the error message of an earlier attempt. -/
inductive RetryPolicy.Settles (policy : RetryPolicy) (job : Job) (now : Instant) :
    PublishReply → Execution → Prop
  | succeeded :
    Settles policy job now .published
      (.succeeded { job.attempted now with state := .succeeded now now })
  | retryScheduled {reply : PublishReply} {reason : String} {retryAt : Instant}
      (failure : reply.failure? = some reason) (follows : policy.Follows job.attempts now retryAt) :
    Settles policy job now reply
      (.retryScheduled
        { job.attempted now with state := .retryWait retryAt, errorMessage := some reason } reason)
  | failed {reply : PublishReply} {reason : String} (failure : reply.failure? = some reason)
      (last : ∀ retryAt, ¬ policy.Follows job.attempts now retryAt) :
    Settles policy job now reply
      (.failed { job.attempted now with state := .failed now, errorMessage := some reason } reason)

namespace Scheduler

variable {scheduler : Scheduler} {now : Instant} {copy version : Job} {reply : PublishReply}

/-- A verdict is what the attempt comes to. -/
theorem verdict_settles (scheduler : Scheduler) (now : Instant) (copy : Job)
    (reply : PublishReply) :
    scheduler.policy.Settles copy now reply (scheduler.verdict now copy reply) := by
  unfold verdict
  cases failure : reply.failure? with
  | none =>
    obtain rfl := reply.failure?_eq_none_iff.mp failure
    exact .succeeded
  | some reason =>
    cases retries : scheduler.policy.nextRetry copy.attempts.next now with
    | some retryAt =>
      exact .retryScheduled failure
        ((scheduler.policy.nextRetry_next_eq_some_iff _ _ _).mp retries)
    | none =>
      refine .failed failure fun retryAt follows => ?_
      rw [(scheduler.policy.nextRetry_next_eq_some_iff _ _ _).mpr follows] at retries
      cases retries

/-- A verdict counts the attempt, up to the full count. At the full count every failure is the last
one. -/
theorem verdict_counts (reports : (scheduler.verdict now copy reply).job? = some version) :
    version.attempts.count = min (copy.attempts.count + 1) Text.maxWord32 ∧
      (copy.attempts = .most → reply ≠ .published → version.status = .failed) := by
  have settles := scheduler.verdict_settles now copy reply
  generalize scheduler.verdict now copy reply = execution at settles reports
  cases settles with
  | succeeded =>
    cases reports
    exact ⟨copy.attempts.next_count, fun _ unpublished => absurd rfl unpublished⟩
  | @retryScheduled _ reason retryAt failure follows =>
    cases reports
    refine ⟨copy.attempts.next_count, fun full => ?_⟩
    rw [full] at follows
    exact absurd follows (scheduler.policy.not_follows_of_most now retryAt)
  | failed failure last =>
    cases reports
    exact ⟨copy.attempts.next_count, fun _ _ => rfl⟩

variable {surroundings : Surroundings} {solo after : Solo} {said : Dialogue}

/-- Alone, an execution of a copy whose job has ended is refused its outcome, and leaves the store
as it was. -/
theorem Executing.barred {outcome : Except ScheduleError Execution}
    (ended : solo.store.Ended copy.id) (running : copy.status = .running)
    (come : copy.publishAt ≤ surroundings.clock solo.said)
    (way : scheduler.Executing copy said outcome) (heard : surroundings.Hears solo said after) :
    outcome = .error (.store (.terminal copy.id)) ∧ after.store = solo.store := by
  rcases way.entered running heard with ⟨early, _⟩ | ⟨version, answer, _, _, entered, saves, given⟩
  · exact absurd come early
  · have sameId : version.id = copy.id := (outcome_concludes entered).sameId
    rw [← sameId] at ended
    rcases solo.store.save_cases version with ⟨_, refused⟩ | ⟨unended, _⟩ | ⟨unended, _⟩
    · rw [refused] at saves
      obtain ⟨rfl, kept⟩ := Prod.mk.inj saves
      rw [given, sameId]
      exact ⟨rfl, kept.symm⟩
    · exact absurd ended unended
    · exact absurd ended unended

/-- In every store that requests can lead to, take a running job whose publish time has come by the
reading of the clock that its execution begins with. Executed alone, it is published once, for its
own content. With the reading of the clock after the publisher's reply:

* where the job is stored as it is, the call gives what the attempt comes to by that reply and the
  policy. The version that it reports is the row from then on, and no other row changes. It has one
  attempt more, up to the full count, at which every failure is the last;
* where the stored job has ended, the call gives the error that says so, and nothing changes.

Proof: the dialogue of the call has one publication and one save. The save is granted because the
row is the running copy itself, and the verdict that it enters is the plain statement
`RetryPolicy.Settles` of the policy. -/
theorem execute_settles (calls : List StoreCall) (surroundings : Surroundings)
    (scheduler : Scheduler) {copy : Job} (running : copy.status = .running)
    (come : copy.publishAt ≤ surroundings.clock []) :
    let store := Store.empty.afterCalls calls
    let check := surroundings.clock []
    let reply := surroundings.publisher [.clock check] copy.content
    let now := surroundings.clock [.clock check, .publish copy.content reply]
    ∃ outcome after, surroundings.Ends store (scheduler.execute copy) outcome after ∧
      Dialogue.publications after.said = [(copy.content, reply)] ∧
      (store.find copy.id = some copy →
        ∃ execution version, outcome = .ok execution ∧
          scheduler.policy.Settles copy now reply execution ∧ execution.job? = some version ∧
          (∀ id, after.store.find id = if copy.id = id then some version else store.find id) ∧
          version.attempts.count = min (copy.attempts.count + 1) Text.maxWord32 ∧
          (copy.attempts = .most → reply ≠ .published → version.status = .failed)) ∧
      (store.Ended copy.id →
        outcome = .error (.store (.terminal copy.id)) ∧ after.store = store) := by
  intro store check reply now
  have indexed : store.Indexed := Store.Indexed.empty.afterCalls calls
  have took : (Operation.execute copy).Took [] copy := ⟨rfl, rfl⟩
  obtain ⟨outcome, after, ends, heard, way⟩ := Surroundings.ends_of_obeys
    (Operation.obeys_of_part (execute_obeys took)) surroundings store
  refine ⟨outcome, after, ends, ?published, ?stored,
    fun ended => way.barred ended running come heard⟩
  case published =>
    rcases way.entered running heard with ⟨early, _⟩ | ⟨_, _, _, published, _⟩
    · exact absurd come early
    · exact published
  case stored =>
    intro found
    rcases way.alone indexed found running heard with
      ⟨early, _⟩ | ⟨version, _, given, reports, renews⟩
    · exact absurd come early
    · have sameId : version.id = copy.id := (verdict_cases reports).1
      refine ⟨_, version, given, scheduler.verdict_settles now copy reply, reports, ?_,
        verdict_counts reports⟩
      intro id
      rw [renews id, sameId]

/-- A job is made and claimed, and its publisher rejects it. It waits five seconds for its second
attempt. Where a failure was entered for it in the meantime, the rejection is refused. -/
theorem execute_settles_rejection :
    let copy : Job := { Job.create ⟨1⟩ ⟨"post"⟩ .epoch .epoch with state := .running ⟨"worker"⟩ }
    let attempted : Job :=
      { copy with
        attempts := Attempts.zero.next
        lastAttemptAt := some .epoch
        errorMessage := some "down" }
    let retryAt : Instant := ⟨5 * nanosPerSecond, by decide⟩
    let waiting : Job := { attempted with state := .retryWait retryAt }
    let claimed : List StoreCall :=
      [.save (.create ⟨1⟩ ⟨"post"⟩ .epoch .epoch), .claim ⟨1⟩ ⟨"worker"⟩ .epoch]
    let ended := claimed ++ [.save { attempted with state := .failed .epoch }]
    let surroundings : Surroundings := ⟨fun _ => .epoch, fun _ => ⟨2⟩, fun _ _ => .rejected "down"⟩
    let scheduler : Scheduler := ⟨.standard, .ofSeconds 60⟩
    copy.status = .running ∧ copy.publishAt ≤ surroundings.clock [] ∧
      (Store.empty.afterCalls claimed).find ⟨1⟩ = some copy ∧
      (∃ after,
        surroundings.Ends (Store.empty.afterCalls claimed) (scheduler.execute copy)
          (.ok (.retryScheduled waiting "down")) after ∧
        Dialogue.publications after.said = [(⟨"post"⟩, .rejected "down")] ∧
        after.store.find ⟨1⟩ = some waiting) ∧
      (Store.empty.afterCalls ended).Ended ⟨1⟩ ∧
      ∃ after,
        surroundings.Ends (Store.empty.afterCalls ended) (scheduler.execute copy)
          (.error (.store (.terminal ⟨1⟩))) after ∧
        Dialogue.publications after.said = [(⟨"post"⟩, .rejected "down")] := by
  intro copy attempted retryAt waiting claimed ended surroundings scheduler
  have come : copy.publishAt ≤ surroundings.clock [] := by decide
  have found : (Store.empty.afterCalls claimed).find ⟨1⟩ = some copy := by decide
  have stopped : (Store.empty.afterCalls ended).Ended ⟨1⟩ := ⟨_, rfl, rfl⟩
  have follows : scheduler.policy.Follows copy.attempts .epoch retryAt :=
    ⟨by decide, 5, rfl, by decide⟩
  refine ⟨rfl, come, found, ?_, stopped, ?_⟩
  · obtain ⟨outcome, after, ends, published, stored, _⟩ :=
      execute_settles claimed surroundings scheduler rfl come
    obtain ⟨execution, version, rfl, settles, reports, rows, _⟩ := stored found
    have reported : execution = .retryScheduled waiting "down" := by
      generalize replied : surroundings.publisher _ copy.content = reply at settles
      cases settles with
      | succeeded => cases replied
      | @retryScheduled _ reason later failure again =>
        subst replied
        obtain rfl : "down" = reason := Option.some.inj failure
        obtain ⟨_, _, entry, inFive⟩ := again
        cases entry
        obtain rfl : later = retryAt := Instant.eq_of_nanos inFive
        rfl
      | failed failure last => exact absurd follows (last retryAt)
    subst reported
    obtain rfl : waiting = version := Option.some.inj reports
    exact ⟨after, ends, published, rows ⟨1⟩⟩
  · obtain ⟨outcome, after, ends, published, _, barred⟩ :=
      execute_settles ended surroundings scheduler rfl come
    obtain ⟨rfl, _⟩ := barred stopped
    exact ⟨after, ends, published⟩

end Scheduler

end TimedPublishing
