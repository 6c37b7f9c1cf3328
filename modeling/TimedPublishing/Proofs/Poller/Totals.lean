import TimedPublishing.Proofs.Poller.Accounts

/-!
# Totals of passes

The executions of a pass are counted twice: in the summary of the pass, and in the counters of the
poller, which add up the summaries of all passes. Both are sums over the executions, so it does not
matter where one pass ends and the next one begins: what the counters say of jobs is the summary of
all passes put together.

The sentinel of an idle pass is no execution. A pass is idle when there is nothing else in it, and
the counters count the passes of which this is true.
-/

namespace TimedPublishing

namespace Execution

/-- The sentinel is told by its test. -/
theorem isNoJobs_iff {execution : Execution} :
    execution.isNoJobs = true ↔ execution = .noJobs := by
  cases execution <;> simp [isNoJobs]

/-- An attempt to be made again is told by its test. -/
theorem isRetry_iff {execution : Execution} :
    execution.isRetry = true ↔ ∃ job error, execution = .retryScheduled job error := by
  cases execution <;> simp [isRetry]

/-- A last attempt that failed is told by its test. -/
theorem isFailure_iff {execution : Execution} :
    execution.isFailure = true ↔ ∃ job error, execution = .failed job error := by
  cases execution <;> simp [isFailure]

end Execution

namespace Summary

/-- What was processed succeeded, is to be made again, or failed. -/
theorem processed_ofExecutions (executions : List Execution) :
    (ofExecutions executions).processed =
      (ofExecutions executions).succeeded + (ofExecutions executions).retried +
        (ofExecutions executions).failed := by
  rw [ofExecutions_eq]
  dsimp only
  induction executions with
  | nil => rfl
  | cons execution rest inductionHypothesis =>
    simp only [List.countP_cons, inductionHypothesis]
    cases execution <;>
      simp only [Execution.isNoJobs, Execution.isSuccess, Execution.isRetry, Execution.isFailure,
        Bool.not_false, Bool.not_true, Bool.false_eq_true, if_true, if_false] <;>
      omega

/-- A pass is idle when there is only the sentinel in it. -/
theorem isIdle_ofExecutions (executions : List Execution) :
    (ofExecutions executions).isIdle = true ↔ ∀ execution ∈ executions, execution = .noJobs := by
  rw [isIdle, beq_iff_eq, ofExecutions_eq]
  dsimp only
  rw [List.countP_eq_zero]
  simp only [Bool.not_eq_true', Bool.not_eq_false, Execution.isNoJobs_iff]

/-- A pass is degraded when some attempt in it failed. -/
theorem isDegraded_ofExecutions (executions : List Execution) :
    (ofExecutions executions).isDegraded = true ↔ ∃ execution ∈ executions,
      (∃ job error, execution = .retryScheduled job error) ∨
        ∃ job error, execution = .failed job error := by
  rw [isDegraded, decide_eq_true_iff, ofExecutions_eq]
  dsimp only
  simp only [← Execution.isRetry_iff, ← Execution.isFailure_iff, and_or_left, exists_or]
  rw [Nat.add_pos_iff_pos_or_pos, List.countP_pos_iff, List.countP_pos_iff]

end Summary

namespace Counters

/-- The counters of a poller after passes that came to their end, one after the other. -/
def ofPasses (passes : List (List Execution)) : Counters :=
  (passes.map Run.finished).foldl enter zero

/-- A pass that came to its end adds its summary and is counted itself, also as an idle one if it
was. -/
theorem enter_finished (counters : Counters) (pass : List Execution) :
    (counters.enter (.finished pass)).jobs = counters.jobs + .ofExecutions pass ∧
      (counters.enter (.finished pass)).cycles = counters.cycles + 1 ∧
      (counters.enter (.finished pass)).idleCycles = counters.idleCycles +
        (if ∀ execution ∈ pass, execution = .noJobs then 1 else 0) ∧
      (counters.enter (.finished pass)).errors = counters.errors := by
  refine ⟨rfl, rfl, ?_, rfl⟩
  change counters.idleCycles + (if (Summary.ofExecutions pass).isIdle then 1 else 0) = _
  simp only [Summary.isIdle_ofExecutions]

/-- Passes that came to their end add the summary of all of them together. -/
theorem foldl_enter_finished (counters : Counters) (passes : List (List Execution)) :
    let present := (passes.map Run.finished).foldl enter counters
    present.jobs = counters.jobs + .ofExecutions passes.flatten ∧
      present.cycles = counters.cycles + passes.length ∧
      present.idleCycles = counters.idleCycles +
        passes.countP (fun pass => ∀ execution ∈ pass, execution = .noJobs) ∧
      present.errors = counters.errors := by
  induction passes generalizing counters with
  | nil => exact ⟨(add_zero _).symm, rfl, rfl, rfl⟩
  | cons pass rest inductionHypothesis =>
    obtain ⟨jobs, cycles, idle, errors⟩ := inductionHypothesis (counters.enter (.finished pass))
    obtain ⟨ownJobs, ownCycle, ownIdle, ownErrors⟩ := counters.enter_finished pass
    refine ⟨?_, ?_, ?_, ?_⟩
    · rw [List.map_cons, List.foldl_cons, jobs, ownJobs, List.flatten_cons,
        Summary.ofExecutions_append, add_assoc]
    · rw [List.map_cons, List.foldl_cons, cycles, ownCycle, List.length_cons]
      omega
    · rw [List.map_cons, List.foldl_cons, idle, ownIdle, List.countP_cons]
      simp only [decide_eq_true_eq]
      omega
    · rw [List.map_cons, List.foldl_cons, errors, ownErrors]

/-- Summaries and counters add up. The summary of one list of executions after another is the sum of
theirs, count by count. What is processed is what succeeded, what is to be made again and what
failed. A list is idle exactly when it holds nothing but the sentinel, and degraded exactly when an
attempt in it is to be made again or failed. After any passes that came to their end, the counters
of jobs are the summary of all the passes put together, the idle cycles are the passes without an
execution, and the cycles are the passes.

Proof: a summary counts the executions of each kind, so it is a sum over them. The counters are then
a sum over the passes, by induction on these. -/
theorem summaries_and_counters_add_up :
    (∀ earlier later : List Execution,
        let first := Summary.ofExecutions earlier
        let second := Summary.ofExecutions later
        Summary.ofExecutions (earlier ++ later) =
          ⟨first.processed + second.processed, first.succeeded + second.succeeded,
            first.retried + second.retried, first.failed + second.failed⟩) ∧
      (∀ executions : List Execution,
        let summary := Summary.ofExecutions executions
        summary.processed = summary.succeeded + summary.retried + summary.failed ∧
          (summary.isIdle = true ↔ ∀ execution ∈ executions, execution = .noJobs) ∧
          (summary.isDegraded = true ↔ ∃ execution ∈ executions,
            (∃ job error, execution = .retryScheduled job error) ∨
              ∃ job error, execution = .failed job error)) ∧
      ∀ passes : List (List Execution),
        let counters := ofPasses passes
        let summary := Summary.ofExecutions passes.flatten
        counters.processed = summary.processed ∧ counters.succeeded = summary.succeeded ∧
          counters.retried = summary.retried ∧ counters.failed = summary.failed ∧
          counters.idleCycles =
            passes.countP (fun pass => ∀ execution ∈ pass, execution = .noJobs) ∧
          counters.cycles = passes.length ∧ counters.errors = 0 := by
  refine ⟨Summary.ofExecutions_append, fun executions => ?_, fun passes => ?_⟩
  · exact ⟨Summary.processed_ofExecutions executions, Summary.isIdle_ofExecutions executions,
      Summary.isDegraded_ofExecutions executions⟩
  · obtain ⟨jobs, cycles, idle, errors⟩ := foldl_enter_finished zero passes
    have same : (ofPasses passes).jobs = Summary.ofExecutions passes.flatten :=
      jobs.trans (zero_add _)
    exact ⟨congrArg Summary.processed same, congrArg Summary.succeeded same,
      congrArg Summary.retried same, congrArg Summary.failed same, idle.trans (Nat.zero_add _),
      cycles.trans (Nat.zero_add _), errors⟩

end Counters

end TimedPublishing
