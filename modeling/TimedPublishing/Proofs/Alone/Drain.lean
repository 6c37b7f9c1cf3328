import TimedPublishing.Proofs.Alone.Surroundings
import TimedPublishing.Proofs.Interleaving.Hands
import TimedPublishing.Proofs.Interleaving.Protocols
import TimedPublishing.Proofs.Store.DueOrder
import TimedPublishing.Proofs.Store.Index

/-!
# What a pass executes

A pass over the due jobs walks no list of them. Before each execution it asks the store anew for the
first job that is due, and what it finds depends on what the executions before it have left. Alone,
and while the clock stands still, a pass takes the first of the due jobs each time and leaves a
version of it with the outcome of the attempt. Where every delay is positive, no such version is
due: the due jobs lose their first one and nothing else, and the rows that a pass executes are
those that were due first when it began.
-/

namespace TimedPublishing

/-- What an attempt with a due row is reported as, by the publisher's reply: the row with the
attempt counted, in the state that the reply and the table of delays lead to. -/
def Scheduler.verdict (scheduler : Scheduler) (now : Instant) (row : Job) (reply : PublishReply) :
    Execution :=
  let attempted : Job :=
    { row with attempts := row.attempts.next, lastAttemptAt := some now, updatedAt := now }
  match reply.failure? with
  | none => .succeeded { attempted with state := .succeeded now now }
  | some reason =>
    match scheduler.policy.nextRetry row.attempts.next now with
    | some retryAt =>
      .retryScheduled { attempted with state := .retryWait retryAt, errorMessage := some reason }
        reason
    | none => .failed { attempted with state := .failed now, errorMessage := some reason } reason

/-- A row that a pass executes, with the publisher's reply. -/
structure Trial where
  row : Job
  reply : PublishReply

namespace Trial

/-- The call of the publisher for a row. -/
def publication (trial : Trial) : ContentId × PublishReply := (trial.row.content, trial.reply)

/-- What a row is reported as. -/
def execution (scheduler : Scheduler) (now : Instant) (trial : Trial) : Execution :=
  scheduler.verdict now trial.row trial.reply

end Trial

namespace Scheduler

/-- A pass, told by what it does to the rows: each time, the first of the due rows makes room for
the version that its execution reports. -/
inductive Pass (scheduler : Scheduler) (now : Instant) : Nat → Store → List Trial → Store → Prop
  | full (store : Store) : Pass scheduler now 0 store [] store
  | idle {remaining : Nat} {store : Store} (nothing : store.due now = []) :
    Pass scheduler now (remaining + 1) store [] store
  | onwards {remaining : Nat} {store next after : Store} {row version : Job} {rest : List Job}
      {reply : PublishReply} {trials : List Trial} (first : store.due now = row :: rest)
      (reports : (scheduler.verdict now row reply).job? = some version)
      (renews : store.Renews next version)
      (further : Pass scheduler now remaining next trials after) :
    Pass scheduler now (remaining + 1) store (⟨row, reply⟩ :: trials) after

variable {scheduler : Scheduler} {now : Instant} {row copy version : Job} {reply : PublishReply}

/-- A claimed copy is judged like the row that it is of. -/
theorem verdict_of_claim {worker : WorkerId} {claimedAt : Instant}
    (granted : row.claim worker claimedAt = .ok copy) :
    scheduler.verdict now copy reply = scheduler.verdict now row reply := by
  obtain ⟨_, rfl⟩ := Job.claim_eq_ok granted
  rfl

/-- What is saved for a reply and reported is the verdict. -/
theorem verdict_of_entered
    (entered : copy.change (scheduler.outcome copy reply now) = .ok version) :
    (scheduler.outcome copy reply now).report version = scheduler.verdict now copy reply ∧
      (scheduler.verdict now copy reply).job? = some version := by
  unfold outcome at entered
  unfold outcome verdict
  cases failure : reply.failure? with
  | none =>
    simp only [failure] at entered ⊢
    obtain ⟨_, rfl⟩ := Job.conclude_eq_ok entered
    exact ⟨rfl, rfl⟩
  | some reason =>
    simp only [failure] at entered ⊢
    cases retries : scheduler.policy.nextRetry copy.attempts.next now with
    | none =>
      simp only [retries] at entered ⊢
      obtain ⟨_, rfl⟩ := Job.conclude_eq_ok entered
      exact ⟨rfl, rfl⟩
    | some retryAt =>
      simp only [retries] at entered ⊢
      obtain ⟨_, rfl⟩ := Job.conclude_eq_ok entered
      exact ⟨rfl, rfl⟩

/-- A verdict reports a version of the same job, which has ended or waits for its next attempt. -/
theorem verdict_cases (reports : (scheduler.verdict now row reply).job? = some version) :
    version.id = row.id ∧
      (version.state = .succeeded now now ∨ version.state = .failed now ∨
        ∃ retryAt, scheduler.policy.nextRetry row.attempts.next now = some retryAt ∧
          version.state = .retryWait retryAt) := by
  unfold verdict at reports
  split at reports
  · obtain rfl := Option.some.inj reports
    exact ⟨rfl, Or.inl rfl⟩
  · split at reports
    · next retryAt retries =>
      obtain rfl := Option.some.inj reports
      exact ⟨rfl, Or.inr (Or.inr ⟨retryAt, retries, rfl⟩)⟩
    · obtain rfl := Option.some.inj reports
      exact ⟨rfl, Or.inr (Or.inl rfl)⟩

/-- Where every delay is positive, no job is due right after an attempt. -/
theorem undue_of_verdict (positive : ∀ delay ∈ scheduler.policy.delays, 0 < delay)
    (reports : (scheduler.verdict now row reply).job? = some version) :
    version.isDue now = false := by
  rcases (verdict_cases reports).2 with succeeded | failed | ⟨retryAt, retries, waiting⟩
  · simp [Job.isDue, succeeded]
  · simp [Job.isDue, failed]
  · obtain ⟨delay, entry, later⟩ := RetryPolicy.nextRetry_eq_some retries
    have waits : 0 < delay := positive delay (List.mem_of_getElem? entry)
    have notCome : ¬ retryAt ≤ now := by
      intro come
      change retryAt.nanos ≤ now.nanos at come
      unfold nanosPerSecond at later
      omega
    simp [Job.isDue, waiting, notCome]

namespace Pass

variable {remaining : Nat} {store after : Store} {trials : List Trial}

/-- A pass ends when it has executed as many rows as it may or when no row is due. -/
theorem full_or_idle (pass : scheduler.Pass now remaining store trials after) :
    trials.length = remaining ∨ after.due now = [] := by
  induction pass with
  | full store => exact Or.inl rfl
  | idle nothing => exact Or.inr nothing
  | onwards first reports renews further inductionHypothesis =>
    rcases inductionHypothesis with full | idle
    · exact Or.inl (congrArg Nat.succ full)
    · exact Or.inr idle

/-- A pass leaves every row alone but those that it executes. -/
theorem find_of_ne (pass : scheduler.Pass now remaining store trials after) {id : JobId}
    (others : ∀ trial ∈ trials, trial.row.id ≠ id) : after.find id = store.find id := by
  induction pass with
  | full store => rfl
  | idle nothing => rfl
  | onwards first reports renews further inductionHypothesis =>
    rw [inductionHypothesis fun trial member => others trial (List.mem_cons_of_mem _ member),
      renews id, (verdict_cases reports).1, if_neg (others _ List.mem_cons_self)]

/-- The rows stand under their names after a pass if they did before. -/
theorem named (pass : scheduler.Pass now remaining store trials after) (named : store.Named) :
    after.Named := by
  induction pass with
  | full store => exact named
  | idle nothing => exact named
  | onwards first reports renews further inductionHypothesis =>
    exact inductionHypothesis (renews.named named)

/-- Where every delay is positive, a pass executes the rows that were due first when it began. -/
theorem rows (pass : scheduler.Pass now remaining store trials after) (named : store.Named)
    (positive : ∀ delay ∈ scheduler.policy.delays, 0 < delay) :
    trials.map Trial.row = (store.due now).take remaining := by
  induction pass with
  | full store => rfl
  | idle nothing =>
    rw [nothing]
    rfl
  | onwards first reports renews further inductionHypothesis =>
    have rest := renews.due_rest named first (verdict_cases reports).1
      (undue_of_verdict positive reports)
    rw [List.map_cons, inductionHypothesis (renews.named named), rest, first, List.take_succ_cons]

end Pass

variable {surroundings : Surroundings} {solo after : Solo} {said : Dialogue} {worker : WorkerId}

/-- Alone, a claim takes the first of the rows that are due when it begins. It gives nothing where
there is none, or where the publish time of that row has not come by another reading of the
clock. -/
theorem Claiming.alone {outcome : Except ScheduleError (Option Job)} (named : solo.store.Named)
    (way : Claiming worker said outcome) (heard : surroundings.Hears solo said after) :
    let now := surroundings.clock solo.said
    Dialogue.publications said = [] ∧
      ((outcome = .ok none ∧ after.store = solo.store ∧
          ∀ row rest, solo.store.due now = row :: rest →
            ∃ since, ¬ row.publishAt ≤ surroundings.clock since) ∨
        ∃ row rest copy, solo.store.due now = row :: rest ∧ row.claim worker now = .ok copy ∧
          outcome = .ok (some copy) ∧ solo.store.Renews after.store copy) := by
  intro now
  cases way with
  | unlisted reading cause => cases (heard.2.1 : Except.ok _ = Except.error cause)
  | idle reading =>
    obtain rfl : now = reading := heard.1
    have listed : (solo.store.due now).take 1 = [] := Except.ok.inj heard.2.1
    have nothing : solo.store.due now = [] := by simpa using listed
    obtain rfl := heard.2.2
    refine ⟨rfl, Or.inl ⟨rfl, rfl, fun row rest due => ?_⟩⟩
    cases nothing.symm.trans due
  | @early reading candidate others again early =>
    obtain rfl : now = reading := heard.1
    obtain rfl : surroundings.clock _ = again := heard.2.2.1
    obtain ⟨rest, listed⟩ := Store.due_of_listDue (Except.ok.inj heard.2.1)
    obtain rfl := heard.2.2.2
    refine ⟨rfl, Or.inl ⟨rfl, rfl, fun row rest due => ?_⟩⟩
    cases listed.symm.trans due
    exact ⟨_, early⟩
  | unanswered reading others come cause => cases (heard.2.2.2.1 : Except.ok _ = Except.error cause)
  | @answered reading candidate others again come claimed =>
    obtain rfl : now = reading := heard.1
    obtain ⟨rest, due⟩ := Store.due_of_listDue (Except.ok.inj heard.2.1)
    obtain ⟨found, isDue⟩ := named.first_due due
    obtain ⟨answered, rfl⟩ := heard.2.2.2
    rcases solo.store.claim_cases candidate.id worker now with
      ⟨undue, _⟩ | ⟨row, copy, present, granted, handed⟩
    · cases isDue.symm.trans (undue candidate found)
    · obtain rfl : candidate = row := Option.some.inj (found.symm.trans present)
      have given : claimed = some copy := by
        change Except.ok (solo.store.claim candidate.id worker now).1 = _ at answered
        rw [handed] at answered
        exact (Except.ok.inj answered).symm
      refine ⟨rfl, Or.inr ⟨candidate, rest, copy, due, granted, congrArg _ given, ?_⟩⟩
      change solo.store.Renews (solo.store.claim candidate.id worker now).2 copy
      rw [handed]
      obtain ⟨_, rfl⟩ := Job.claim_eq_ok granted
      exact fun id => solo.store.find_withRow candidate.id id _

/-- Alone, no claim fails. -/
theorem Claiming.unfailing {cause : ScheduleError} (named : solo.store.Named)
    (way : Claiming worker said (.error cause)) : ¬ surroundings.Hears solo said after := by
  intro heard
  rcases (way.alone named heard).2 with ⟨ended, _⟩ | ⟨_, _, _, _, _, given, _⟩
  · cases ended
  · cases given

/-- An execution of a running copy comes before its time, by its first reading of the clock, and is
refused. Or else it publishes the copy, and asks to save what the reply and the second reading lead
to; what is answered to that is what it gives. -/
theorem Executing.entered {outcome : Except ScheduleError Execution}
    (running : copy.status = .running) (way : scheduler.Executing copy said outcome)
    (heard : surroundings.Hears solo said after) :
    let check := surroundings.clock solo.said
    let reply := surroundings.publisher (solo.said ++ [.clock check]) copy.content
    let now := surroundings.clock (solo.said ++ [.clock check] ++ [.publish copy.content reply])
    (¬ copy.publishAt ≤ check ∧ Dialogue.publications said = [] ∧
        outcome = .error (.notYetDue copy.id copy.publishAt) ∧ after.store = solo.store) ∨
      ∃ version answer, copy.publishAt ≤ check ∧
        Dialogue.publications said = [(copy.content, reply)] ∧
        copy.change (scheduler.outcome copy reply now) = .ok version ∧
        solo.store.save version = (answer, after.store) ∧
        outcome = (answer.mapError .store).map (scheduler.outcome copy reply now).report := by
  intro check reply now
  cases way with
  | standing standing => exact absurd running standing
  | early _ early =>
    obtain ⟨rfl, rfl⟩ := heard
    exact Or.inl ⟨early, rfl, rfl, rfl⟩
  | unsaved _ come entered cause =>
    obtain ⟨rfl, rfl, rfl, answered, rfl⟩ := heard
    exact Or.inr ⟨_, .error cause, come, rfl, entered, Prod.ext answered rfl, rfl⟩
  | saved _ come entered saved =>
    obtain ⟨rfl, rfl, rfl, answered, rfl⟩ := heard
    exact Or.inr ⟨_, .ok saved, come, rfl, entered, Prod.ext answered rfl, rfl⟩

/-- Alone, an execution of a row that runs comes before its time and is refused, or publishes the
row once, and writes and reports the verdict. -/
theorem Executing.alone {outcome : Except ScheduleError Execution} (indexed : solo.store.Indexed)
    (found : solo.store.find copy.id = some copy) (running : copy.status = .running)
    (way : scheduler.Executing copy said outcome) (heard : surroundings.Hears solo said after) :
    let check := surroundings.clock solo.said
    let reply := surroundings.publisher (solo.said ++ [.clock check]) copy.content
    let now := surroundings.clock (solo.said ++ [.clock check] ++ [.publish copy.content reply])
    (¬ copy.publishAt ≤ check ∧ Dialogue.publications said = [] ∧
        outcome = .error (.notYetDue copy.id copy.publishAt) ∧ after.store = solo.store) ∨
      ∃ version, Dialogue.publications said = [(copy.content, reply)] ∧
        outcome = .ok (scheduler.verdict now copy reply) ∧
        (scheduler.verdict now copy reply).job? = some version ∧
        solo.store.Renews after.store version := by
  intro check reply now
  rcases way.entered running heard with
    early | ⟨version, answer, _, published, entered, saves, ended⟩
  · exact Or.inl early
  · rw [indexed.save_concluded found (outcome_concludes entered)] at saves
    obtain ⟨rfl, written⟩ := Prod.mk.inj saves
    obtain ⟨reported, reports⟩ := verdict_of_entered entered
    refine Or.inr ⟨version, published, ended.trans (congrArg _ reported), reports, ?_⟩
    rw [← written]
    exact solo.store.find_write version

/-- Alone, a claim that gives a copy and the execution of that copy take the first of the rows that
are due when the claim begins. They publish it once and leave the version that is reported, or stop
at a reading of the clock by which its publish time has not come. -/
theorem Claiming.executed {more : Dialogue} {outcome : Except ScheduleError Execution}
    (indexed : solo.store.Indexed) (claiming : Claiming worker said (.ok (some copy)))
    (executing : scheduler.Executing copy more outcome)
    (heard : surroundings.Hears solo (said ++ more) after) :
    ∃ row rest, solo.store.due (surroundings.clock solo.said) = row :: rest ∧
      ((Dialogue.publications (said ++ more) = [] ∧ (∃ cause, outcome = .error cause) ∧
          (∃ since, ¬ row.publishAt ≤ surroundings.clock since) ∧
          copy.status = .running ∧ copy.id = row.id ∧ solo.store.Renews after.store copy) ∨
        ∃ reply since version,
          let now := surroundings.clock since
          Dialogue.publications (said ++ more) = [(row.content, reply)] ∧
          outcome = .ok (scheduler.verdict now row reply) ∧
          (scheduler.verdict now row reply).job? = some version ∧
          solo.store.Renews after.store version) := by
  obtain ⟨middle, first, second⟩ := Surroundings.hears_append.mp heard
  obtain ⟨silent, ⟨ended, _⟩ | ⟨row, rest, claimed, due, granted, given, renewed⟩⟩ :=
    claiming.alone indexed.named first
  · cases ended
  cases given
  have found : middle.store.find copy.id = some copy := by rw [renewed, if_pos rfl]
  have running : copy.status = .running := Job.running_of_claim granted
  refine ⟨row, rest, due, ?_⟩
  rw [Dialogue.publications_append, silent, List.nil_append]
  rcases executing.alone (first.indexed indexed) found running second with
    ⟨early, unpublished, refused, kept⟩ | ⟨version, published, ended, reports, renews⟩
  · obtain ⟨_, rfl⟩ := Job.claim_eq_ok granted
    exact Or.inl ⟨unpublished, ⟨_, refused⟩, ⟨_, early⟩, running, rfl, kept ▸ renewed⟩
  · have sameId : copy.id = version.id := (verdict_cases reports).1.symm
    rw [verdict_of_claim granted] at ended reports
    refine Or.inr ⟨_, _, version, ?_, ended, reports, renewed.trans renews sameId⟩
    obtain ⟨_, rfl⟩ := Job.claim_eq_ok granted
    exact published

/-- At a clock that stands still every due row has come to its publish time. -/
theorem come_of_due {store : Store} {now : Instant} {row : Job} {rest : List Job}
    (named : store.Named) (due : store.due now = row :: rest) : row.publishAt ≤ now :=
  (Job.due_cases (named.first_due due).2).1

/-- Alone and at a clock that stands still, a drain is a pass. -/
theorem Draining.pass {remaining : Nat} {outcome : Except ScheduleError (List Execution)}
    (indexed : solo.store.Indexed) (way : scheduler.Draining worker remaining said outcome)
    (heard : (surroundings.still now).Hears solo said after) :
    ∃ trials, scheduler.Pass now remaining solo.store trials after.store ∧
      Dialogue.publications said = trials.map Trial.publication ∧
      outcome = .ok (trials.map (Trial.execution scheduler now)) := by
  induction way generalizing solo with
  | full =>
    obtain rfl := heard
    exact ⟨[], .full _, rfl, rfl⟩
  | idle claiming =>
    obtain ⟨silent, ⟨_, same, early⟩ | ⟨_, _, _, _, _, given, _⟩⟩ :=
      claiming.alone indexed.named heard
    · have nothing : solo.store.due now = [] := by
        cases due : solo.store.due now with
        | nil => rfl
        | cons row rest =>
          obtain ⟨_, notCome⟩ := early row rest due
          exact absurd (come_of_due indexed.named due) notCome
      exact ⟨[], same.symm ▸ .idle nothing, silent, rfl⟩
    · cases given
  | unclaimed claiming => exact absurd heard (claiming.unfailing indexed.named)
  | unexecuted claiming executing =>
    obtain ⟨row, rest, due, ⟨_, _, ⟨_, notCome⟩, _⟩ | ⟨_, _, _, _, ended, _⟩⟩ :=
      claiming.executed indexed executing heard
    · exact absurd (come_of_due indexed.named due) notCome
    · cases ended
  | onwards claiming executing draining inductionHypothesis =>
    obtain ⟨middle, first, second⟩ := Surroundings.hears_append.mp heard
    obtain ⟨row, rest, due, ⟨_, ⟨_, ended⟩, _⟩ |
        ⟨reply, _, version, published, ended, reports, renews⟩⟩ :=
      claiming.executed indexed executing first
    · cases ended
    obtain ⟨trials, pass, publications, drained⟩ :=
      inductionHypothesis (first.indexed indexed) second
    cases ended
    subst drained
    refine ⟨⟨row, reply⟩ :: trials, .onwards due reports renews pass, ?_, rfl⟩
    rw [Dialogue.publications_append, published, publications]
    rfl

/-- In every store that requests can lead to, a pass that runs alone at one instant ends, whatever
the publisher replies. It executes some rows, one after the other. Each is published once, and
nothing else is; what the pass gives are the outcomes of these rows in their order, or the sentinel
when there was none; and all other rows stay as they were. Where every delay is positive, the rows
are those that were due first when the pass began, by publish time and then by name, as many as the
pass may execute. In any case it has executed as many as it may, or left no row that is due.

Proof: the dialogue of the pass is one of claims and executions, in which the store refuses nothing
and the clock changes nothing, so the pass does to the rows what `Scheduler.Pass` tells. The rest is
an induction over the rows that it executes: each leaves behind the due rows without the first. -/
theorem runDue_executes_first_due (calls : List StoreCall) (surroundings : Surroundings)
    (now : Instant) (scheduler : Scheduler) (worker : WorkerId) (maxJobs : Nat) :
    let store := Store.empty.afterCalls calls
    (∀ row, row ∈ store.due now ↔ (∃ id, store.find id = some row) ∧ row.isDue now = true) ∧
    (store.due now).Pairwise Job.Before ∧
    ∃ results after, ∃ trials : List Trial,
      (surroundings.still now).Ends store (scheduler.runDue worker maxJobs) (.ok results) after ∧
      Dialogue.publications after.said = trials.map Trial.publication ∧
      results = Scheduler.reported (trials.map (Trial.execution scheduler now)) ∧
      (∀ id, (∀ trial ∈ trials, trial.row.id ≠ id) → after.store.find id = store.find id) ∧
      ((∀ delay ∈ scheduler.policy.delays, 0 < delay) →
        trials.map Trial.row = (store.due now).take maxJobs) ∧
      (trials.length = maxJobs ∨
        ∀ id row, after.store.find id = some row → row.isDue now = false) := by
  intro store
  have indexed : store.Indexed := Store.Indexed.empty.afterCalls calls
  have named : store.Named := indexed.named
  obtain ⟨outcome, after, ends, heard, way⟩ := Surroundings.ends_of_obeys
    (Operation.obeys_of_part (Scheduler.runDue_obeys worker maxJobs [])) (surroundings.still now)
    store
  obtain ⟨draining⟩ := way
  obtain ⟨trials, pass, published, rfl⟩ := draining.pass indexed heard
  refine ⟨?_, named.due_sorted now, _, after, trials, ends, published, rfl,
    fun id => pass.find_of_ne, pass.rows named, ?_⟩
  · intro row
    rw [named.mem_due, named.stored_iff]
  · rcases pass.full_or_idle with full | idle
    · exact Or.inl full
    · right
      intro id row found
      have namedAfter : after.store.Named := pass.named named
      have stored := (namedAfter.stored_iff row).mp ⟨id, found⟩
      cases isDue : row.isDue now with
      | false => rfl
      | true =>
        have member := (namedAfter.mem_due now row).mpr ⟨stored, isDue⟩
        rw [idle] at member
        cases member

end Scheduler

end TimedPublishing
