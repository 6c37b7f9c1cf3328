import TimedPublishing.Proofs.Alone.Attempt
import TimedPublishing.Proofs.Store.Listing

/-!
# A pass runs out of attempts

A failed job whose delay is zero is due again at once, and so is one whose delay passes while the
pass goes on. So the number of due rows bounds no pass, and neither does the clock. What does is the
budget: the rows that may be claimed have a number of attempts to come between them, and each
execution uses up one of them at least, whatever it ends in. A row that was saved at or past its
budget has one attempt to come all the same, for the budget is asked only after a failure.

The full count of attempts does no harm: it is never below a budget, so no failure at it is followed
by another attempt.
-/

namespace TimedPublishing

/-- The attempts that a job has to come under a budget. -/
def Job.prospect (budget : Nat) (job : Job) : Nat :=
  if job.status.isClaimable then max 1 (budget - job.attempts.count) else 0

/-- A job that may not be claimed has no attempt to come. -/
theorem Job.prospect_eq_zero {job : Job} (budget : Nat)
    (standing : job.status.isClaimable = false) : job.prospect budget = 0 := by
  rw [prospect, standing]
  rfl

namespace Store

/-- The attempts that the rows of a store have to come under a budget: for each row that is queued
or waits for a retry, as many as its count leaves of the budget, and one at least. -/
def prospects (budget : Nat) (store : Store) : Nat :=
  (store.rows.values.map (Job.prospect budget)).sum

/-- Only the rows that may be claimed have attempts to come. -/
theorem prospects_eq_claimable (budget : Nat) (store : Store) :
    store.prospects budget =
      ((store.rows.values.filter fun row => row.status.isClaimable).map
        fun row => max 1 (budget - row.attempts.count)).sum := by
  unfold prospects
  induction store.rows.values with
  | nil => rfl
  | cons row rows inductionHypothesis =>
    rw [List.map_cons, List.sum_cons, inductionHypothesis, Job.prospect]
    by_cases claimable : row.status.isClaimable = true
    · simp [claimable]
    · simp [claimable]

/-- Jobs of other names are not replaced. -/
theorem replaced_of_absent {jobs : List Job} {version : Job}
    (absent : version.id ∉ jobs.map Job.id) : replaced jobs version = jobs := by
  refine (List.map_congr_left fun job member => if_neg fun same => ?_).trans (List.map_id _)
  exact absent (same ▸ List.mem_map_of_mem member)

/-- Where one version of a job takes the place of another in a list, a sum over the list changes by
what the two versions add to it. -/
theorem sum_replaced (share : Job → Nat) {jobs : List Job} (names : (jobs.map Job.id).Nodup)
    {row version : Job} (member : row ∈ jobs) (sameId : version.id = row.id) :
    ((replaced jobs version).map share).sum + share row = (jobs.map share).sum + share version := by
  obtain ⟨earlier, later, rfl⟩ := List.append_of_mem member
  rw [List.map_append, List.map_cons, ← sameId] at names
  obtain ⟨absentEarlier, absentLater⟩ : version.id ∉ earlier.map Job.id ∧
      version.id ∉ later.map Job.id := by
    rw [List.nodup_middle, List.nodup_cons, List.mem_append] at names
    exact not_or.mp names.1
  have taken : replaced (earlier ++ row :: later) version = earlier ++ version :: later := by
    rw [replaced, List.map_append, List.map_cons, if_pos sameId.symm]
    exact congrArg₂ (fun front back => front ++ version :: back)
      (replaced_of_absent absentEarlier) (replaced_of_absent absentLater)
  rw [taken]
  simp only [List.map_append, List.map_cons, List.sum_append, List.sum_cons]
  omega

/-- Where one row makes room for another version of its job, the attempts to come change by what the
two versions have to come. -/
theorem Renews.prospects {store next : Store} {row version : Job} (budget : Nat)
    (renews : store.Renews next version) (named : store.Named)
    (found : store.find row.id = some row) (sameId : version.id = row.id) :
    next.prospects budget + row.prospect budget =
      store.prospects budget + version.prospect budget := by
  have lists : Lists store.rows.values store := (Lists.iff_perm named).mpr (List.Perm.refl _)
  have present : store.find version.id = some row := sameId ▸ found
  have rows : (replaced store.rows.values version).Perm next.rows.values :=
    (Lists.iff_perm (renews.named named)).mp (lists.replaced present renews)
  have member : row ∈ store.rows.values := (lists.mem_iff row).mpr found
  unfold Store.prospects
  rw [← (rows.map (Job.prospect budget)).sum_nat]
  exact sum_replaced (Job.prospect budget) lists.names member sameId

end Store

namespace Scheduler

variable {scheduler : Scheduler} {row version copy : Job} {reply : PublishReply} {now : Instant}

/-- An attempt with a row that may be claimed uses up one of the attempts that the row has to come,
whatever it ends in. -/
theorem prospect_of_verdict (claimable : row.status.isClaimable = true)
    (reports : (scheduler.verdict now row reply).job? = some version) :
    version.prospect scheduler.policy.budget.count + 1 ≤
      row.prospect scheduler.policy.budget.count := by
  have ends (ended : version.status.isClaimable = false) :
      version.prospect scheduler.policy.budget.count + 1 ≤
        row.prospect scheduler.policy.budget.count := by
    rw [Job.prospect_eq_zero _ ended, Job.prospect, if_pos claimable]
    omega
  rcases (verdict_cases reports).2 with succeeded | failed | ⟨retryAt, retries, waiting⟩
  · exact ends (by simp [Job.status, succeeded, JobState.status, JobStatus.isClaimable])
  · exact ends (by simp [Job.status, failed, JobState.status, JobStatus.isClaimable])
  · have again : version.status.isClaimable = true := by
      simp [Job.status, waiting, JobState.status, JobStatus.isClaimable]
    have left := ((scheduler.policy.nextRetry_next_eq_some_iff _ _ _).mp retries).1
    have inRange := scheduler.policy.budget.inRange
    have counts := (verdict_counts reports).1
    rw [Job.prospect, Job.prospect, if_pos again, if_pos claimable]
    omega

variable {surroundings : Surroundings} {solo after : Solo} {said : Dialogue} {worker : WorkerId}

/-- A pass publishes once for each claim and execution, but for the claim that it ends with, and
says eight things at most for the two of them. -/
theorem Draining.length_le {remaining : Nat} {outcome : Except ScheduleError (List Execution)}
    (way : scheduler.Draining worker remaining said outcome) :
    said.length ≤ 8 * (Dialogue.publications said).length + 8 := by
  have claims {said : Dialogue} {outcome : Except ScheduleError (Option Job)}
      (claiming : Claiming worker said outcome) : said.length ≤ 4 := by
    cases claiming <;> simp
  have executes {copy : Job} {said : Dialogue} {outcome : Except ScheduleError Execution}
      (executing : scheduler.Executing copy said outcome) : said.length ≤ 4 := by
    cases executing <;> simp
  have publishes {copy : Job} {said : Dialogue} {execution : Execution}
      (executing : scheduler.Executing copy said (.ok execution)) :
      (Dialogue.publications said).length = 1 := by
    cases executing
    rfl
  induction way with
  | full => simp
  | idle claiming => exact Nat.le_add_left_of_le ((claims claiming).trans (by decide))
  | unclaimed claiming => exact Nat.le_add_left_of_le ((claims claiming).trans (by decide))
  | unexecuted claiming executing =>
    rw [List.length_append]
    exact Nat.le_add_left_of_le (Nat.add_le_add (claims claiming) (executes executing))
  | onwards claiming executing draining inductionHypothesis =>
    have claimed := claims claiming
    have executed := executes executing
    have published := publishes executing
    simp only [Dialogue.publications_append, List.length_append]
    omega

/-- Alone, what a pass publishes and what is still to come after it does not exceed what was to
come before it. -/
theorem Draining.exhausts {remaining : Nat} {outcome : Except ScheduleError (List Execution)}
    (indexed : solo.store.Indexed) (way : scheduler.Draining worker remaining said outcome)
    (heard : surroundings.Hears solo said after) :
    (Dialogue.publications said).length + after.store.prospects scheduler.policy.budget.count ≤
      solo.store.prospects scheduler.policy.budget.count := by
  induction way generalizing solo with
  | full =>
    obtain rfl := heard
    simp [Dialogue.publications]
  | idle claiming =>
    obtain ⟨silent, ⟨_, same, _⟩ | ⟨_, _, _, _, _, given, _⟩⟩ :=
      claiming.alone indexed.named heard
    · simp [silent, same]
    · cases given
  | unclaimed claiming => exact absurd heard (claiming.unfailing indexed.named)
  | @unexecuted _ _ _ copy _ claiming executing =>
    obtain ⟨row, rest, due, ⟨silent, _, _, running, sameId, renews⟩ | ⟨_, _, _, _, ended, _⟩⟩ :=
      claiming.executed indexed executing heard
    · -- The copy that was claimed and not executed runs for good: its attempts are lost.
      have named : solo.store.Named := indexed.named
      have found := (named.first_due due).1
      have change := renews.prospects scheduler.policy.budget.count indexed.named found sameId
      have lost : copy.prospect scheduler.policy.budget.count = 0 :=
        Job.prospect_eq_zero _ (by rw [running]; rfl)
      rw [silent, List.length_nil]
      omega
    · cases ended
  | onwards claiming executing draining inductionHypothesis =>
    obtain ⟨middle, first, second⟩ := Surroundings.hears_append.mp heard
    obtain ⟨row, rest, due, ⟨_, ⟨_, ended⟩, _⟩ |
        ⟨reply, _, version, published, _, reports, renews⟩⟩ :=
      claiming.executed indexed executing first
    · cases ended
    have named : solo.store.Named := indexed.named
    obtain ⟨found, isDue⟩ := named.first_due due
    have used := prospect_of_verdict (Job.claimable_of_isDue isDue) reports
    have change := renews.prospects scheduler.policy.budget.count indexed.named found
      (verdict_cases reports).1
    have onwards := inductionHypothesis (first.indexed indexed) second
    rw [Dialogue.publications_append, List.length_append, published, List.length_singleton]
    omega

/-- In every store that requests can lead to, a pass that runs alone ends by itself, however many
jobs it may execute, whatever the clock reads from one request to the next and whatever the
publisher replies. It publishes no more often than the rows that were queued or waiting for a retry
had attempts to come: as many as the count of each left of the budget, and one at least. Together
with the attempts that the rows have to come after it, it is still no more than that. The whole pass
makes eight requests at most for each publication, and eight more.

Proof: each turn of the pass claims the first row that is due and executes it. That row had an
attempt to come, and its new version has one less at least. A turn that publishes nothing is the
last one. The rest is an induction over the turns. -/
theorem runDue_exhausts (calls : List StoreCall) (surroundings : Surroundings)
    (scheduler : Scheduler) (worker : WorkerId) (maxJobs : Nat) :
    let store := Store.empty.afterCalls calls
    let budget := scheduler.policy.budget.count
    ∃ outcome after, surroundings.Ends store (scheduler.runDue worker maxJobs) outcome after ∧
      (Dialogue.publications after.said).length + after.store.prospects budget ≤
        ((store.rows.values.filter fun row => row.status.isClaimable).map
          fun row => max 1 (budget - row.attempts.count)).sum ∧
      after.said.length ≤ 8 * (Dialogue.publications after.said).length + 8 := by
  intro store budget
  have indexed : store.Indexed := Store.Indexed.empty.afterCalls calls
  obtain ⟨outcome, after, ends, heard, way⟩ := Surroundings.ends_of_obeys
    (Operation.obeys_of_part (Scheduler.runDue_obeys worker maxJobs [])) surroundings store
  obtain ⟨draining⟩ := way
  rw [← Store.prospects_eq_claimable]
  exact ⟨_, after, ends, draining.exhausts indexed heard, draining.length_le⟩

end Scheduler

end TimedPublishing
