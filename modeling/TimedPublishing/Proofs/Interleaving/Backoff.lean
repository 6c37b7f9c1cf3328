import TimedPublishing.Proofs.Interleaving.Attempts
import TimedPublishing.Proofs.Interleaving.Versions

/-!
# Backoff is honoured

The instant of the next attempt is computed by the worker whose attempt failed, from its own
reading of the clock and the count of attempts, and it is checked by whichever worker claims the
job next, with a reading of its own. Nothing ties these readings together but the row. That the
row stays as it is in the meantime is due to the exclusive claims of callers: only whoever has a
copy of the job may save an outcome of it, and while the row waits nobody has one.
-/

open TimedPublishing.System (Event)

namespace TimedPublishing

/-- A job that is saved to wait for a retry follows from a failed attempt with a copy in hand. -/
theorem Scheduler.outcome_retryWait {scheduler : Scheduler} {copy waiting : Job}
    {reply : PublishReply} {now retryAt : Instant}
    (entered : copy.change (scheduler.outcome copy reply now) = .ok waiting)
    (waits : waiting.state = .retryWait retryAt) :
    reply ≠ .published ∧ waiting.attempts = copy.attempts.next ∧
      scheduler.policy.nextRetry waiting.attempts now = some retryAt := by
  rcases outcome_cases entered with
    ⟨_, succeeds⟩ | ⟨unpublished, reason, nextRetryAt, retries, later⟩ | ⟨_, _, reason, fails⟩
  · obtain ⟨_, rfl⟩ := Job.conclude_eq_ok succeeds
    cases waits
  · obtain ⟨_, rfl⟩ := Job.conclude_eq_ok later
    cases waits
    exact ⟨unpublished, rfl, retries⟩
  · obtain ⟨_, rfl⟩ := Job.conclude_eq_ok fails
    cases waits

namespace System

variable {events : List Event} {present : System}

/-- A call of the publisher is of a caller that has in hand what is noted. -/
theorem Step.published {after : System} {index : Nat} {hand : Hand} {content : ContentId}
    {reply : PublishReply} (step : present.Step (.published index hand content reply) after) :
    present.Has hand := by
  cases step with
  | publish found _ _ => exact ⟨_, _, found, rfl⟩

/-- The claims of a job that were granted in some events, reported or not. -/
def Event.Claims (id : JobId) : Event → Prop
  | .asked _ _ (.claim own _ _) course (.ok (some _)) => own = id ∧ course.writes = true
  | _ => False

/-- What a caller does right before it saves that a job waits for a retry: it publishes a copy in
vain, between two readings of the clock. The instant of the retry is the second of them and the
delay for the count of attempts. -/
structure FailedAttempt (scheduler : Scheduler) (events : List Event) (index : Nat) (hand : Hand)
    (waiting : Job) (retryAt : Instant) where
  {ahead during : List Event}
  {operation : Operation}
  {said : Dialogue}
  {copy : Job}
  {reply : PublishReply}
  {check failedAt : Instant}
  {delay : Nat}
  began : events = ahead ++ .began index scheduler operation :: during
  unended : ∀ own outcome, Event.ended index own outcome ∉ during
  spoken : dialogue index during =
    said ++ [.clock check, .publish copy.content reply, .clock failedAt]
  inHand : hand = .answered copy reply
  sameId : copy.id = waiting.id
  unpublished : reply ≠ .published
  entry : scheduler.policy.delays[min (waiting.attempts.count - 1)
    (scheduler.policy.delays.length - 1)]? = some delay
  later : retryAt.nanos = failedAt.nanos + delay * nanosPerSecond

/-- What a caller does right before it claims a job: it lists what is due at one reading of the
clock, and reads it again. -/
structure Listing (events : List Event) (index : Nat) (now : Instant) where
  {ahead during : List Event}
  {scheduler : Scheduler}
  {operation : Operation}
  {said : Dialogue}
  {candidate : Job}
  {others : List Job}
  {again : Instant}
  began : events = ahead ++ .began index scheduler operation :: during
  unended : ∀ own outcome, Event.ended index own outcome ∉ during
  spoken : dialogue index during =
    said ++ [.clock now, .store (.listDue now 1) (.ok (candidate :: others)), .clock again]

/-- A job is left alone while it waits for a retry. -/
structure LeftAlone (events : List Event) (present : System) (waiting : Job) (retryAt : Instant) :
    Prop where
  stored : present.store.find waiting.id = some waiting
  unlisted : ∀ now, now < retryAt ∨ now < waiting.publishAt →
    ∀ limit, ∀ listed ∈ present.store.listDue now limit, listed.id ≠ waiting.id
  ungranted : ∀ now, now < retryAt ∨ now < waiting.publishAt →
    ∀ worker, present.store.claim waiting.id worker now = (Option.none, present.store)
  unpublished : ∀ {index hand content reply after},
    present.Step (.published index hand content reply) after →
      ∃ copy, hand = .copy copy ∧ copy.content = content ∧ copy.id ≠ waiting.id
  ungiven : ∀ {index worker copy after},
    present.Step (.ended index (.claimNext worker) (.ok (some copy))) after → copy.id ≠ waiting.id
  /-- A claim that is granted is made in time, with the reading that its caller listed with. -/
  claimed : ∀ {index hand worker now course copy after},
    present.Step (.asked index hand (.claim waiting.id worker now) course (.ok (some copy))) after →
      retryAt ≤ now ∧ waiting.publishAt ≤ now ∧ Nonempty (Listing events index now)

namespace Run

/-- Nobody has a copy of a job whose row does not run, be it unpublished or answered. -/
theorem no_copy (run : Run .initial events present) {id : JobId} {row : Job}
    (found : present.store.find id = some row) (waits : row.status ≠ .running) :
    (∀ copy, present.Unspent copy → copy.id ≠ id) ∧
      ∀ copy reply, present.Has (.answered copy reply) → copy.id ≠ id := by
  obtain ⟨stage, life, fits⟩ := run.anyLife id
  obtain rfl := life.resting_of_row (fits.row.symm.trans found) waits
  constructor
  · intro copy unspent own
    cases fits.copies copy own unspent
  · intro copy reply has own
    cases fits.answers copy reply own has

/-- A row that waits for a retry stays as it is until the job is claimed. -/
theorem waits_step (run : Run .initial events present) {event : Event} {after : System}
    (step : present.Step event after) {id : JobId} {waiting : Job}
    (found : present.store.find id = some waiting) (waits : waiting.status = .retryWait)
    (unclaimed : ¬ event.Claims id) : after.store.find id = some waiting := by
  obtain ⟨noted, sound⟩ := run.sound
  rcases sound.row_step (.usual step) id with
    same | ⟨index, hand, call, course, reply, rfl, reaches, about, turn⟩
  · exact same.trans found
  · change Scene.Turn hand call reply (present.store.find id) (after.store.find id) at turn
    rw [found] at turn
    generalize after.store.find id = left at turn ⊢
    cases turn with
    | claimed granted => exact absurd ⟨Option.some.inj about, reaches⟩ unclaimed
    | moved queued moves => cases queued.symm.trans waits
    | deleted queued => cases queued.symm.trans waits
    | @concluded _ copy concluded answer _ _ concludes =>
      -- An outcome is saved by somebody who has a copy, and nobody has one.
      obtain ⟨caller, _, here, _, inHand, _⟩ := step.asked
      have none := (run.no_copy found (by simp [waits])).2 copy answer ⟨index, caller, here, inHand⟩
      exact absurd (concludes.sameId.symm.trans (Option.some.inj about)) none

/-- A row that waits for a retry stays as it is through a run in which the job is not claimed. -/
theorem waits {middle : System} {wait : List Event} (run : Run .initial events present)
    (since : Run present wait middle) {id : JobId} {waiting : Job}
    (found : present.store.find id = some waiting) (waits : waiting.status = .retryWait)
    (unclaimed : ∀ event ∈ wait, ¬ event.Claims id) : middle.store.find id = some waiting := by
  induction since with
  | none => exact found
  | snoc before step inductionHypothesis =>
    have stored := inductionHypothesis fun event member =>
      unclaimed event (List.mem_append_left _ member)
    exact (run.append before).waits_step step stored waits
      (unclaimed _ (List.mem_append_right _ List.mem_cons_self))

/-- A claim is made with the reading of the clock that the listing before it was made with. -/
theorem listing (run : Run .initial events present) {after : System} {index : Nat} {hand : Hand}
    {id : JobId} {worker : WorkerId} {now : Instant} {course : Course}
    {reply : (StoreCall.claim id worker now).Reply}
    (step : present.Step (.asked index hand (.claim id worker now) course reply) after) :
    Nonempty (Listing events index now) := by
  obtain ⟨caller, resume, found, asks, _⟩ := step.asked
  obtain ⟨ahead, during, began, unended, speaks⟩ := run.said found
  obtain ⟨said, candidate, others, again, spoken, _⟩ :=
    Operation.asks_of_protocol (speaks.asks asks)
  exact ⟨⟨began, unended, spoken⟩⟩

/-- A job that is saved to wait for a retry was just published in vain, and waits for the delay of
that attempt from the reading of the clock after the publisher's reply. -/
theorem failed_attempt {scheduler : Scheduler} (run : Run .initial events present)
    (shared : ∀ settings ∈ settingsInUse events, settings = scheduler) {after : System}
    {index : Nat} {hand : Hand} {waiting : Job} {course : Course}
    {reply : (StoreCall.save waiting).Reply} {retryAt : Instant}
    (step : present.Step (.asked index hand (.save waiting) course reply) after)
    (waits : waiting.state = .retryWait retryAt) :
    Nonempty (FailedAttempt scheduler events index hand waiting retryAt) := by
  obtain ⟨caller, resume, found, asks, rfl, _⟩ := step.asked
  obtain ⟨ahead, during, began, unended, speaks⟩ := run.said found
  rcases Operation.asks_of_protocol (speaks.asks asks) with
    ⟨_, _, _, _, _, created, _⟩ | ⟨said, copy, check, reply, failedAt, spoken, took, entered⟩
  · rw [created] at waits
    cases waits
  · obtain ⟨unpublished, _, retries⟩ := Scheduler.outcome_retryWait entered waits
    rw [run.uses shared index caller found] at retries began
    obtain ⟨delay, entry, later⟩ := RetryPolicy.nextRetry_eq_some retries
    have inHand : caller.hand = .answered copy reply := by
      rw [speaks.holds, spoken]
      exact Operation.hand_of_published took check reply failedAt
    have sameId : copy.id = waiting.id := (Scheduler.outcome_concludes entered).sameId.symm
    exact ⟨⟨began, unended, spoken, inHand, sameId, unpublished, entry, later⟩⟩

/-- A job whose row waits for a retry is left alone. -/
theorem leftAlone (run : Run .initial events present) {waiting : Job} {retryAt : Instant}
    (found : present.store.find waiting.id = some waiting)
    (waits : waiting.state = .retryWait retryAt) : LeftAlone events present waiting retryAt := by
  obtain ⟨noted, sound⟩ := run.sound
  have indexed : present.store.Indexed := sound.indexed
  have undue (now : Instant) (early : now < retryAt ∨ now < waiting.publishAt) :
      waiting.isDue now = false := by
    refine Bool.eq_false_iff.mpr fun due => ?_
    obtain ⟨published, retried⟩ := (Job.isDue_of_retryWait waits).mp due
    rcases early with before | before
    · exact Int.not_lt.mpr retried before
    · exact Int.not_lt.mpr published before
  have unspent : ∀ copy, present.Unspent copy → copy.id ≠ waiting.id :=
    (run.no_copy found (by simp [Job.status, waits, JobState.status])).1
  refine
    { stored := found
      unlisted := fun now early => (indexed.undue found (undue now early)).1
      ungranted := fun now early => (indexed.undue found (undue now early)).2
      unpublished := ?_
      ungiven := ?_
      claimed := ?_ }
  · intro index hand content reply after step
    obtain ⟨copy, rfl, sameContent⟩ :=
      (run.snoc step).published_hand (List.mem_append_right _ List.mem_cons_self)
    exact ⟨copy, rfl, sameContent, unspent copy (Or.inr step.published)⟩
  · intro index worker copy after step
    obtain ⟨scheduler, left, hand, here, ⟨value, given, done⟩ | ⟨cause, impossible, _⟩⟩ :=
      step.ended
    · cases given
      obtain ⟨_, _, _, _, speaks⟩ := run.said here
      have inHand : hand = .copy copy := speaks.ends done copy rfl
      exact unspent copy (Or.inr ⟨index, _, here, inHand⟩)
    · cases impossible
  · intro index hand worker now course copy after step
    obtain ⟨_, _, _, _, _, answer, _⟩ := step.asked
    obtain ⟨row, stored, granted, _⟩ := Store.row_of_claimed answer
    obtain rfl : waiting = row := Option.some.inj (found.symm.trans stored)
    obtain ⟨published, retried⟩ :=
      (Job.isDue_of_retryWait waits).mp (Job.claim_eq_ok granted).1
    exact ⟨retried, published, run.listing step⟩

/-- Backoff is honoured between attempts, in every interleaving of callers over one configuration,
whatever clocks and publishers reply and whichever requests to the store fail, and whether they
wrote. When a job was saved to wait for a retry:

* the call that saved it had just read the clock, published its copy in vain and read the clock
  again. The instant of the retry is that last reading and the delay which the table has for this
  attempt, as the number of outcomes that were written counts it, and which is the last delay past
  the end of the table;
* until a claim of the job is granted, its row stays as it is and the job is left alone. No
  listing of due jobs shows it and no claim gives it before that instant or its publish time, no
  caller calls the publisher for it, and none is given a copy of it. The claim that is granted
  next is made at or after both, with the reading of the clock that its caller listed the due jobs
  with.

Proof: the row can only change by a claim or by an outcome, and an outcome is saved by somebody
who has a copy. While the row does not run there is none. -/
theorem backoff_honoured {scheduler : Scheduler} {earlier : List Event} {before after : System}
    (past : Run .initial earlier before)
    (shared : ∀ settings ∈ settingsInUse earlier, settings = scheduler) {index : Nat} {hand : Hand}
    {waiting : Job} {course : Course} {retryAt : Instant}
    (step : before.Step (.asked index hand (.save waiting) course (.ok waiting)) after)
    (written : course.writes = true) (waits : waiting.state = .retryWait retryAt) :
    (Nonempty (FailedAttempt scheduler earlier index hand waiting retryAt) ∧
      waiting.attempts.count =
        (outcomes (earlier ++ [.asked index hand (.save waiting) course (.ok waiting)])).countP
          (fun outcome => outcome.id = waiting.id)) ∧
    ∀ wait middle, Run after wait middle → (∀ event ∈ wait, ¬ event.Claims waiting.id) →
      LeftAlone (earlier ++ [.asked index hand (.save waiting) course (.ok waiting)] ++ wait) middle
        waiting retryAt := by
  have saved := past.snoc step
  have stored : after.store.find waiting.id = some waiting := by
    obtain ⟨_, _, _, _, _, answer, left⟩ := step.asked
    rw [left, Course.store, if_pos written]
    exact (Store.find_of_saved answer).2
  refine ⟨⟨past.failed_attempt shared step waits, ?_⟩, ?_⟩
  · apply saved.attempts_eq_outcomes _ stored
    show ∀ settings ∈ settingsInUse _, settings = scheduler
    rw [settingsInUse_append]
    simpa [settingsInUse, Event.settings?] using shared
  · intro wait middle since unclaimed
    have status : waiting.status = .retryWait := by simp [Job.status, waits, JobState.status]
    exact (saved.append since).leftAlone (saved.waits since stored status unclaimed) waits

end Run

/-- A job is claimed, its first attempt fails, and no worker claims it before five seconds are
over. -/
theorem Run.backoff_honoured_after_failure :
    ∃ events present row retryAt, Run .initial events present ∧
      present.store.find ⟨1⟩ = some row ∧ row.state = .retryWait retryAt ∧
      retryAt.nanos = Instant.epoch.nanos + 5 * nanosPerSecond ∧
      ∀ worker, present.store.claim ⟨1⟩ worker .epoch = (Option.none, present.store) := by
  let made : Job := .create ⟨1⟩ ⟨"post"⟩ .epoch .earliest
  let copy : Job := { made with state := .running ⟨"worker"⟩, updatedAt := .epoch }
  -- The policy is named, or its table would be computed at each of the steps.
  obtain ⟨policy, retryAt, retries, inFive, notYet⟩ : ∃ policy : RetryPolicy, ∃ retryAt : Instant,
      policy.nextRetry copy.attempts.next .epoch = some retryAt ∧
      retryAt.nanos = Instant.epoch.nanos + 5 * nanosPerSecond ∧ Instant.epoch < retryAt :=
    ⟨.standard, ⟨5 * nanosPerSecond, by decide⟩, by decide, by decide, by decide⟩
  let scheduler : Scheduler := ⟨policy, .ofSeconds 0⟩
  let waiting : Job :=
    { copy with
      state := .retryWait retryAt
      attempts := copy.attempts.next
      lastAttemptAt := some .epoch
      errorMessage := some "too long" }
  let settling : Caller :=
    ⟨scheduler, .execute copy, scheduler.settle copy (.rejected "too long") .epoch,
      .answered copy (.rejected "too long")⟩
  obtain ⟨resume, saves⟩ : ∃ resume, settling.left = .ask (.store (.save waiting)) resume := by
    simp only [settling, scheduler, Scheduler.settle, Scheduler.settleFailure, retries]
    exact ⟨_, rfl⟩
  obtain ⟨earlier, issued, callers, claimed, idle, before⟩ := Run.exists_handingOut policy
  let middle : System := ⟨(Store.empty.write made).withRow ⟨1⟩ copy, issued, [copy], callers⟩
  have handedOut : ∀ taken, Operation.execute copy = .execute taken → taken ∈ [copy] := by
    rintro _ ⟨⟩
    exact List.mem_cons_self
  have executes := claimed.snoc (@Step.begin middle 1 scheduler (.execute copy) idle handedOut)
  have checked := executes.snoc (@Step.look _ 1 _ _ rfl rfl .epoch)
  have rejected := checked.snoc (@Step.publish _ 1 _ _ _ rfl rfl (.rejected "too long"))
  have dated := rejected.snoc (@Step.look _ 1 _ _ rfl rfl .epoch)
  have saved := dated.snoc
    (@Step.answered _ 1 settling (.save waiting) resume rfl saves .regular (.ok waiting) rfl)
  have shared : ∀ later, settingsInUse later = [scheduler] →
      ∀ settings ∈ settingsInUse (earlier ++ later), settings = scheduler := by
    intro later one settings used
    rw [settingsInUse_append, before, one] at used
    change settings ∈ [scheduler, scheduler, scheduler] at used
    simpa using used
  have backoff := dated.backoff_honoured (by simpa using shared _ rfl)
    (@Step.answered _ 1 settling (.save waiting) resume rfl saves .regular (.ok waiting) rfl)
    rfl rfl
  have leftAlone := backoff.2 [] _ .none (by simp)
  exact ⟨_, _, waiting, retryAt, saved, leftAlone.stored, rfl, inFive,
    leftAlone.ungranted .epoch (Or.inl notYet)⟩

end System

end TimedPublishing
