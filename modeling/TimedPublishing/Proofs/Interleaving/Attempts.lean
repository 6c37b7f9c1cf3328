import TimedPublishing.Proofs.Interleaving.Publication

/-!
# Attempts are counted and bounded

The count of attempts is advanced when an outcome is entered, from the copy that was claimed and
not from the row, and it is compared with the budget before that. Copies travel, and an execution
whose save failed was published without being counted. Over one configuration the accounts are
right all the same: the row's count is the number of outcomes that were written, and the
publisher is called once more at most than that.

The count of calls is no row's field. A life tells it from its stage: as many as were counted,
and one more while an answer waits to be entered.
-/

namespace TimedPublishing

/-- The most attempts that a job is given: a first one is made under every budget. -/
def RetryPolicy.limit (policy : RetryPolicy) : Nat := max 1 policy.budget.count

/-- The outcome that a mark says was written. -/
def Mark.outcome? : Mark → Option Job
  | concluded _ after => some after
  | _ => none

/-- The copy that a mark says the publisher was called for. -/
def Mark.call? : Mark → Option Job
  | published copy _ => some copy
  | _ => none

/-- The outcomes that a run wrote. -/
def outcomes (events : List System.Event) : List Job := (history events).filterMap Mark.outcome?

/-- The copies that a run called the publisher for. -/
def calls (events : List System.Event) : List Job := (history events).filterMap Mark.call?

/-- A job was given up for its last attempt, which failed: the budget was spent by it, or there
is no instant for the next one. -/
def GivenUp (scheduler : Scheduler) (marks : List Mark) (row : Job) : Prop :=
  ∃ copy reply now, .published copy reply ∈ marks ∧ reply ≠ .published ∧
    .concluded copy row ∈ marks ∧ row.state = .failed now ∧ row.lastAttemptAt = some now ∧
    row.attempts.count = copy.attempts.count + 1 ∧
    (row.attempts.count = scheduler.policy.limit ∨
      now.add? (.ofSeconds (scheduler.policy.delayAfter row.attempts.count)) = none)

/-- What was remembered once is remembered later. -/
theorem GivenUp.mono {scheduler : Scheduler} {marks : List Mark} {row : Job}
    (givenUp : GivenUp scheduler marks row) (later : List Mark) :
    GivenUp scheduler (marks ++ later) row := by
  obtain ⟨copy, reply, now, published, unpublished, concluded, rest⟩ := givenUp
  exact ⟨copy, reply, now, List.mem_append_left _ published, unpublished,
    List.mem_append_left _ concluded, rest⟩

/-- Every limit fits the field that attempts are counted in. -/
theorem RetryPolicy.limit_le (policy : RetryPolicy) : policy.limit ≤ Text.maxWord32 := by
  have inRange := policy.budget.inRange
  have one : 1 ≤ Text.maxWord32 := by decide
  unfold limit
  omega

/-- No retry follows when the budget is spent, or when its instant would pass the end of the
calendar. -/
theorem RetryPolicy.nextRetry_eq_none {policy : RetryPolicy} {failures : Attempts} {now : Instant}
    (none : policy.nextRetry failures now = none) :
    policy.budget.count ≤ failures.count ∨
      now.add? (.ofSeconds (policy.delayAfter failures.count)) = .none := by
  unfold nextRetry at none
  split at none
  · next spent => exact Or.inl spent
  · exact Or.inr none

/-- Below the limit of a policy one more attempt is counted exactly. -/
theorem Attempts.next_of_lt_limit {attempts : Attempts} {policy : RetryPolicy}
    (below : attempts.count < policy.limit) : attempts.next.count = attempts.count + 1 := by
  have fits := policy.limit_le
  rw [next_count]
  omega

namespace Stage

/-- How many attempts were counted by the time a job is at a stage. -/
def attempts (stage : Stage) : Nat := (stage.row.map fun row => row.attempts.count).getD 0

/-- The calls of the publisher whose outcome was not entered. -/
def pending : Stage → Nat
  | answered _ _ => 1
  | _ => 0

/-- How often the publisher was called by the time a job is at a stage. -/
def calls (stage : Stage) : Nat := stage.attempts + stage.pending

/-- A call is pending until its outcome is written. -/
theorem Next.pending_count {inUse : Scheduler → Prop} {stage after : Stage} {mark : Mark}
    (next : stage.Next inUse mark after) :
    after.pending + mark.outcome?.toList.length = stage.pending + mark.call?.toList.length := by
  cases next <;> rfl

end Stage

/-- A job has had no more attempts than a limit, and fewer unless it has ended. -/
def Job.Within (limit : Nat) (row : Job) : Prop :=
  row.attempts.count ≤ limit ∧ (row.status.isTerminal = false → row.attempts.count < limit)

/-- A job without attempts is within every limit of a policy. -/
theorem Job.within_of_unattempted {row : Job} (policy : RetryPolicy)
    (unattempted : row.attempts = .zero) : row.Within policy.limit := by
  have none : row.attempts.count = 0 := congrArg Attempts.count unattempted
  have one : 1 ≤ policy.limit := Nat.le_max_left 1 _
  exact ⟨by omega, fun _ => by omega⟩

/-- An outcome of a copy with attempts left is within the limit, also when it asks for another
attempt. -/
theorem Scheduler.outcome_within {scheduler : Scheduler} {copy concluded : Job}
    {reply : PublishReply} {now : Instant} (below : copy.attempts.count < scheduler.policy.limit)
    (entered : copy.change (scheduler.outcome copy reply now) = .ok concluded) :
    concluded.attempts.count = copy.attempts.count + 1 ∧
      concluded.Within scheduler.policy.limit := by
  have counts : concluded.attempts.count = copy.attempts.count + 1 := by
    rw [(outcome_concludes entered).counts]
    exact Attempts.next_of_lt_limit below
  refine ⟨counts, by omega, ?_⟩
  intro continues
  rcases outcome_cases entered with
    ⟨_, succeeds⟩ | ⟨_, reason, nextRetryAt, retries, waits⟩ | ⟨_, _, reason, fails⟩
  · obtain ⟨_, rfl⟩ := Job.conclude_eq_ok succeeds
    cases continues
  · have room : ¬ scheduler.policy.budget.count ≤ copy.attempts.next.count := by
      intro spent
      simp [RetryPolicy.nextRetry, spent] at retries
    have withinBudget : scheduler.policy.budget.count ≤ scheduler.policy.limit :=
      Nat.le_max_right 1 _
    have counted := Attempts.next_of_lt_limit below
    omega
  · obtain ⟨_, rfl⟩ := Job.conclude_eq_ok fails
    cases continues

namespace Life

variable {scheduler : Scheduler} {id : JobId} {past : List Mark} {stage : Stage}

/-- Over one configuration a job is within the limit at every stage.

Proof: a new or moved job is unattempted. A claim and a publication change no count. An outcome
adds one to a count below the limit, and asks for another attempt only below the budget. -/
theorem within (life : Life (fun settings => settings = scheduler) id past stage) :
    ∀ row, stage.row = some row → row.Within scheduler.policy.limit := by
  induction life with
  | unborn =>
    intro row absent
    cases absent
  | elsewhere _ _ inductionHypothesis => exact inductionHypothesis
  | next life _ next inductionHypothesis =>
    intro row stored
    cases next with
    | enlisted new =>
      cases stored
      obtain ⟨content, publishAt, now, created⟩ := new
      exact row.within_of_unattempted _ (congrArg Job.attempts created)
    | moved queued publishAt now moves unattempted =>
      cases stored
      obtain ⟨_, rfl⟩ := Job.reschedule_eq_ok moves
      exact Job.within_of_unattempted _ unattempted
    | removed queued => cases stored
    | @claimed former copy worker now granted =>
      cases stored
      have below := (inductionHypothesis former rfl).2 (Job.not_terminal_of_claim granted)
      obtain ⟨_, rfl⟩ := Job.claim_eq_ok granted
      exact ⟨Nat.le_of_lt below, fun _ => below⟩
    | published copy reply => exact inductionHypothesis row stored
    | @concluded settings copy concluded reply now used entered =>
      cases stored
      subst used
      have running : copy.status = .running := life.proper
      have below := (inductionHypothesis copy rfl).2 (by rw [running]; rfl)
      exact (Scheduler.outcome_within below entered).2

/-- An outcome of an answered copy counts one attempt exactly. -/
theorem outcome_counts {copy concluded : Job} {reply : PublishReply} {now : Instant}
    (life : Life (fun settings => settings = scheduler) id past (.answered copy reply))
    (entered : copy.change (scheduler.outcome copy reply now) = .ok concluded) :
    concluded.attempts.count = copy.attempts.count + 1 := by
  have running : copy.status = .running := life.proper
  have below := (life.within copy rfl).2 (by rw [running]; rfl)
  exact (Scheduler.outcome_within below entered).1

/-- The row's count is advanced by the outcomes that are written, and by nothing else. -/
theorem attempts_after (life : Life (fun settings => settings = scheduler) id past stage)
    {mark : Mark} {after : Stage}
    (next : stage.Next (fun settings => settings = scheduler) mark after) :
    after.attempts = stage.attempts + mark.outcome?.toList.length := by
  cases next with
  | enlisted new =>
    obtain ⟨content, publishAt, now, created⟩ := new
    rw [created]
    rfl
  | @moved row version _ queued publishAt now moves unattempted =>
    obtain ⟨_, rfl⟩ := Job.reschedule_eq_ok moves
    have before : row.attempts = .zero := life.unattempted rfl queued
    exact congrArg Attempts.count (unattempted.trans before.symm)
  | @removed row _ queued =>
    have before : row.attempts = .zero := life.unattempted rfl queued
    exact (congrArg Attempts.count before).symm
  | claimed granted =>
    obtain ⟨_, rfl⟩ := Job.claim_eq_ok granted
    rfl
  | published copy reply => rfl
  | concluded used entered =>
    subst used
    exact life.outcome_counts entered

/-- The row's count is the number of outcomes that were written. -/
theorem outcomes_count (life : Life (fun settings => settings = scheduler) id past stage) :
    (past.filterMap Mark.outcome?).countP (fun row => row.id = id) = stage.attempts := by
  apply life.count
  · intro mark row writes
    cases mark with
    | concluded copy concluded =>
      cases writes
      rfl
    | enlisted job => cases writes
    | moved job => cases writes
    | removed id => cases writes
    | claimed copy => cases writes
    | published copy reply => cases writes
  · rfl
  · intro past stage mark after life next
    exact life.attempts_after next

/-- The publisher was called as often as outcomes were written, and for the pending call. -/
theorem calls_count (life : Life (fun settings => settings = scheduler) id past stage) :
    (past.filterMap Mark.call?).countP (fun copy => copy.id = id) = stage.calls := by
  apply life.count
  · intro mark copy called
    cases mark with
    | published copy reply =>
      cases called
      rfl
    | enlisted job => cases called
    | moved job => cases called
    | removed id => cases called
    | claimed copy => cases called
    | concluded copy concluded => cases called
  · rfl
  · intro past stage mark after life next
    have counted := life.attempts_after next
    have pending := next.pending_count
    unfold Stage.calls
    omega

/-- The publisher was called no more often than the limit allows. -/
theorem calls_le_limit (life : Life (fun settings => settings = scheduler) id past stage) :
    stage.calls ≤ scheduler.policy.limit := by
  cases stage with
  | absent => exact Nat.zero_le _
  | resting row => exact (life.within row rfl).1
  | claimed copy => exact (life.within copy rfl).1
  | answered copy reply =>
    have running : copy.status = .running := life.proper
    exact (life.within copy rfl).2 (by rw [running]; rfl)

/-- A failed row was given up for a reason. -/
theorem givenUp (life : Life (fun settings => settings = scheduler) id past stage) {row : Job}
    (stored : stage.row = some row) (failed : row.status = .failed) :
    GivenUp scheduler past row := by
  induction life with
  | unborn => cases stored
  | elsewhere _ _ inductionHypothesis => exact (inductionHypothesis stored).mono _
  | @next past stage after mark life _ next inductionHypothesis =>
    cases next with
    | enlisted new =>
      cases stored
      obtain ⟨content, publishAt, now, created⟩ := new
      rw [created] at failed
      cases failed
    | moved queued publishAt now moves unattempted =>
      cases stored
      cases (Job.queued_of_reschedule moves).symm.trans failed
    | removed queued => cases stored
    | claimed granted =>
      cases stored
      cases (Job.running_of_claim granted).symm.trans failed
    | published copy reply => exact (inductionHypothesis stored).mono _
    | @concluded settings copy concluded reply now used entered =>
      cases stored
      subst used
      have counts := life.outcome_counts entered
      have running : copy.status = .running := life.proper
      have below := (life.within copy rfl).2 (by rw [running]; rfl)
      rcases Scheduler.outcome_cases entered with
        ⟨_, succeeds⟩ | ⟨_, reason, nextRetryAt, _, waits⟩ | ⟨unpublished, exhausted, reason, fails⟩
      · obtain ⟨_, rfl⟩ := Job.conclude_eq_ok succeeds
        cases failed
      · obtain ⟨_, rfl⟩ := Job.conclude_eq_ok waits
        cases failed
      · have called : .published copy reply ∈ past := life.opened rfl
        have last := RetryPolicy.nextRetry_eq_none exhausted
        rw [Attempts.next_of_lt_limit below, ← counts] at last
        obtain ⟨_, rfl⟩ := Job.conclude_eq_ok fails
        refine ⟨copy, reply, now, List.mem_append_left _ called, unpublished,
          List.mem_append_right _ List.mem_cons_self, rfl, rfl, counts, ?_⟩
        rcases last with spent | late
        · left
          unfold RetryPolicy.limit at below ⊢
          omega
        · exact Or.inr late

end Life

namespace System

/-- The count of a stored row is the number of outcomes that were written for it. -/
theorem Run.attempts_eq_outcomes {scheduler : Scheduler} {events : List System.Event}
    {present : System} (run : Run .initial events present)
    (shared : ∀ settings ∈ settingsInUse events, settings = scheduler) {id : JobId} {row : Job}
    (found : present.store.find id = some row) :
    row.attempts.count = (outcomes events).countP (fun outcome => outcome.id = id) := by
  obtain ⟨stage, life, fits⟩ := run.life shared id
  have stored : stage.row = some row := fits.row.symm.trans found
  have tells := life.outcomes_count
  simp only [Stage.attempts, stored, Option.map_some, Option.getD_some] at tells
  exact tells.symm

/-- Outcomes that were written stay counted. -/
theorem outcomes_append (earlier later : List System.Event) :
    outcomes (earlier ++ later) = outcomes earlier ++ outcomes later := by
  simp only [outcomes, history, List.filterMap_append]

/-- In every interleaving of callers over one configuration, whatever clocks and publishers reply
and whichever requests to the store fail, and whether they wrote, for every job:

* a row that has not ended has attempts left, so one more is counted exactly;
* the count of a row never sinks, and is the number of outcomes that were written for the job;
* a failed row was given up after a failed attempt, with the budget spent or without an instant
  for the next one;
* the publisher is called for it no more often than the limit allows, every call of the publisher
  being for a copy in hand and so counted.

Proof: a life is within the limit at every stage, and its stage tells what the marks of the job
count to. Marks only grow, so counts do. -/
theorem Run.attempts_accounted {scheduler : Scheduler} {earlier later : List System.Event}
    {middle present : System} (past : Run .initial earlier middle)
    (since : Run middle later present)
    (shared : ∀ settings ∈ settingsInUse (earlier ++ later), settings = scheduler) (id : JobId) :
    (∀ row, present.store.find id = some row →
      (row.status.isTerminal = false →
        row.attempts.count < scheduler.policy.limit ∧
          row.attempts.next.count = row.attempts.count + 1) ∧
      (∀ former, middle.store.find id = some former →
        former.attempts.count ≤ row.attempts.count) ∧
      row.attempts.count =
        (outcomes (earlier ++ later)).countP (fun outcome => outcome.id = id) ∧
      (row.status = .failed → GivenUp scheduler (history (earlier ++ later)) row)) ∧
    (calls (earlier ++ later)).countP (fun copy => copy.id = id) ≤ scheduler.policy.limit ∧
    ∀ index hand content reply, .published index hand content reply ∈ earlier ++ later →
      ∃ copy, hand = .copy copy ∧ copy.content = content := by
  have run : Run .initial (earlier ++ later) present := past.append since
  obtain ⟨stage, life, fits⟩ := run.life shared id
  refine ⟨?_, ?_, fun index hand content reply called => run.published_hand called⟩
  · intro row found
    have stored : stage.row = some row := fits.row.symm.trans found
    have counted := run.attempts_eq_outcomes shared found
    refine ⟨?_, ?_, counted, life.givenUp stored⟩
    · intro continues
      have below := (life.within row stored).2 continues
      exact ⟨below, Attempts.next_of_lt_limit below⟩
    · intro former before
      have sharedBefore : ∀ settings ∈ settingsInUse earlier, settings = scheduler := by
        intro settings used
        apply shared
        rw [settingsInUse_append]
        exact List.mem_append_left _ used
      rw [past.attempts_eq_outcomes sharedBefore before, counted, outcomes_append,
        List.countP_append]
      exact Nat.le_add_right _ _
  · calc (calls (earlier ++ later)).countP (fun copy => copy.id = id)
        = stage.calls := life.calls_count
      _ ≤ scheduler.policy.limit := life.calls_le_limit

/-- A job with a budget of one attempt is claimed, its attempt fails, and it is given up. -/
theorem Run.attempts_accounted_after_failure :
    let policy : RetryPolicy := ⟨[5], ⟨1, by decide⟩, by decide, by decide⟩
    let scheduler : Scheduler := ⟨policy, .ofSeconds 0⟩
    ∃ events present row, Run .initial events present ∧ present.store.find ⟨1⟩ = some row ∧
      row.status = .failed ∧ row.attempts.count = 1 ∧ GivenUp scheduler (history events) row := by
  intro policy scheduler
  let made : Job := .create ⟨1⟩ ⟨"post"⟩ .epoch .earliest
  let copy : Job := { made with state := .running ⟨"worker"⟩, updatedAt := .epoch }
  obtain ⟨earlier, issued, callers, claimed, idle, before⟩ := Run.exists_handingOut policy
  let middle : System := ⟨(Store.empty.write made).withRow ⟨1⟩ copy, issued, [copy], callers⟩
  have handedOut : ∀ taken, Operation.execute copy = .execute taken → taken ∈ [copy] := by
    rintro _ ⟨⟩
    exact List.mem_cons_self
  have executes := Run.none.snoc (@Step.begin middle 1 scheduler (.execute copy) idle handedOut)
  have checked := executes.snoc (@Step.look _ 1 _ _ rfl rfl .epoch)
  have rejected := checked.snoc (@Step.publish _ 1 _ _ _ rfl rfl (.rejected "too long"))
  have dated := rejected.snoc (@Step.look _ 1 _ _ rfl rfl .epoch)
  have since := dated.snoc (@Step.ask _ 1 _ _ _ rfl rfl .regular)
  have shared : ∀ later, settingsInUse later = [scheduler] →
      ∀ settings ∈ settingsInUse (earlier ++ later), settings = scheduler := by
    intro later one settings used
    rw [settingsInUse_append, before, one] at used
    change settings ∈ [scheduler, scheduler, scheduler] at used
    simpa using used
  have accounts := (claimed.attempts_accounted since (shared _ rfl) ⟨1⟩).1 _ rfl
  exact ⟨_, _, _, claimed.append since, rfl, rfl, rfl, accounts.2.2.2 rfl⟩

end System

end TimedPublishing
