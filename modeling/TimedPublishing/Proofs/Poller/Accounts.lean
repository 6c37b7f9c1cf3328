import Mathlib.Algebra.Group.Basic
import TimedPublishing.Poller.Cycle
import TimedPublishing.Proofs.Alone.Surroundings
import TimedPublishing.Proofs.Interleaving.Protocols

/-!
# What the counters of a poller leave out

A cycle executes one job after the other, and an error of the store in the middle of it ends it. The
counters then learn of the error alone. A pass that keeps account of itself says what is missing:
`Scheduler.drainAccounted` asks the same requests as the pass, catches the error that ends it, and
comes to its executions and that error together. The pass is the accounted one with the executions
thrown away in the end if there was an error.

So what the counters lack is exactly what was executed in the cycles that ended in an error, and
they are right only as long as there was nothing.
-/

namespace TimedPublishing

/-- What a pass over the due jobs comes to: the executions in it, and the error that ended it, if
one did. -/
structure Account where
  executions : List Execution
  error? : Option ScheduleError

namespace Account

/-- What the pass gives if it is part of another: its executions, or the error. -/
def close (account : Account) : Except ScheduleError (List Execution) :=
  match account.error? with
  | none => .ok account.executions
  | some cause => .error cause

/-- What the pass gives its caller. -/
def outcome (account : Account) : Except ScheduleError (List Execution) :=
  account.close.map Scheduler.reported

/-- The executions that the caller does not learn of. -/
def lost (account : Account) : List Execution :=
  if account.error?.isSome then account.executions else []

/-- The same pass with an execution before it. -/
def cons (execution : Execution) (account : Account) : Account :=
  { account with executions := execution :: account.executions }

end Account

namespace Scheduler

/-- Claim and execute until nothing is claimed, at most a number of times, and keep account. -/
def drainAccounted (scheduler : Scheduler) (worker : WorkerId) : Nat → Program Account
  | 0 => return ⟨[], none⟩
  | remaining + 1 => do
    match ← (claimNext worker).caught with
    | .error cause => return ⟨[], some cause⟩
    | .ok none => return ⟨[], none⟩
    | .ok (some job) =>
      match ← (scheduler.execute job).caught with
      | .error cause => return ⟨[], some cause⟩
      | .ok execution => return (← scheduler.drainAccounted worker remaining).cons execution

/-- The pass is the one that keeps account, with the account closed. -/
theorem drain_eq_accounted (scheduler : Scheduler) (worker : WorkerId) (remaining : Nat) :
    scheduler.drain worker remaining =
      (scheduler.drainAccounted worker remaining).bind fun account => .ended account.close := by
  -- Both sides are brought to one claim, one execution and the rest of the pass.
  induction remaining with
  | zero => rfl
  | succ remaining inductionHypothesis =>
    change (claimNext worker).bind _ = ((claimNext worker).caught.bind _).bind _
    rw [Program.bind_eq_caught_bind, Program.bind_assoc]
    congr
    funext claimed
    match claimed with
    | .error cause => rfl
    | .ok none => rfl
    | .ok (some job) =>
      change (scheduler.execute job).bind _ = ((scheduler.execute job).caught.bind _).bind _
      rw [Program.bind_eq_caught_bind, Program.bind_assoc]
      congr
      funext executed
      cases executed with
      | error cause => rfl
      | ok execution =>
        change (scheduler.drain worker remaining).bind _ =
          ((scheduler.drainAccounted worker remaining).bind _).bind _
        rw [inductionHypothesis, Program.bind_assoc, Program.bind_assoc]
        congr
        funext account
        obtain ⟨executions, error?⟩ := account
        cases error? <;> rfl

/-- A whole pass is the one that keeps account, with its outcome read off the account. -/
theorem runDue_eq_accounted (scheduler : Scheduler) (worker : WorkerId) (maxJobs : Nat) :
    scheduler.runDue worker maxJobs =
      (scheduler.drainAccounted worker maxJobs).bind fun account => .ended account.outcome := by
  change (scheduler.drain worker maxJobs).bind _ = _
  rw [drain_eq_accounted, Program.bind_assoc]
  congr
  funext account
  obtain ⟨executions, error?⟩ := account
  cases error? with
  | some cause => rfl
  | none => cases executions <;> rfl

/-- An execution is an attempt, never the sentinel of an idle pass. -/
theorem Executing.attempted {scheduler : Scheduler} {copy : Job} {said : Dialogue}
    {execution : Execution} (executing : scheduler.Executing copy said (.ok execution)) :
    execution.isNoJobs = false := by
  generalize result : Except.ok execution = outcome at executing
  cases executing with
  | standing standing => cases result
  | early running early => cases result
  | unsaved running come entered cause => cases result
  | @saved running check come reply now concluded entered saved =>
    cases result
    cases scheduler.outcome copy reply now <;> rfl

/-- A pass that keeps account comes to an account of attempts, and asks what a pass may ask. -/
theorem drainAccounted_obeys (scheduler : Scheduler) {operation : Operation}
    (claims : ∀ given, operation ≠ .execute given) (worker : WorkerId) (remaining : Nat)
    (said : Dialogue) :
    (scheduler.drainAccounted worker remaining).Obeys
      ⟨operation.Asks scheduler, fun _ result => ∃ account, result = .ok account ∧
        ∀ execution ∈ account.executions, execution.isNoJobs = false⟩ said := by
  induction remaining generalizing said with
  | zero => exact ⟨⟨[], none⟩, rfl, by simp⟩
  | succ remaining inductionHypothesis =>
    apply Program.Obeys.bind
    refine (claimNext_obeys operation worker said).caught.mono (fun _ _ asks => asks) ?_
    rintro _ _ ⟨outcome, rfl, first, rfl, claiming⟩
    match outcome with
    | .error cause => exact ⟨⟨[], some cause⟩, rfl, by simp⟩
    | .ok none => exact ⟨⟨[], none⟩, rfl, by simp⟩
    | .ok (some copy) =>
      apply Program.Obeys.bind
      refine (execute_obeys (claiming.took claims said)).caught.mono (fun _ _ asks => asks) ?_
      rintro _ _ ⟨executed, rfl, second, rfl, executing⟩
      cases executed with
      | error cause => exact ⟨⟨[], some cause⟩, rfl, by simp⟩
      | ok execution =>
        apply Program.Obeys.bind
        refine (inductionHypothesis _).mono (fun _ _ asks => asks) ?_
        rintro _ _ ⟨account, rfl, attempted⟩
        exact ⟨account.cons execution, rfl,
          List.forall_mem_cons.mpr ⟨executing.attempted, attempted⟩⟩

end Scheduler

namespace Execution

/-- The attempt failed and is to be made again. -/
def isRetry : Execution → Bool
  | retryScheduled _ _ => true
  | _ => false

/-- The attempt failed and was the last one. -/
def isFailure : Execution → Bool
  | failed _ _ => true
  | _ => false

end Execution

namespace Summary

instance : Zero Summary := ⟨zero⟩

/-- Summaries are added count by count. -/
instance : Add Summary :=
  ⟨fun first second =>
    ⟨first.processed + second.processed, first.succeeded + second.succeeded,
      first.retried + second.retried, first.failed + second.failed⟩⟩

/-- A sum of summaries, count by count. -/
theorem add_eq (first second : Summary) :
    first + second =
      ⟨first.processed + second.processed, first.succeeded + second.succeeded,
        first.retried + second.retried, first.failed + second.failed⟩ :=
  rfl

/-- The summary of nothing is neutral. -/
theorem zero_eq : (0 : Summary) = ⟨0, 0, 0, 0⟩ :=
  rfl

instance : AddCommMonoid Summary where
  add_assoc first second third := by simp [add_eq, Nat.add_assoc]
  zero_add summary := by simp [add_eq, zero_eq]
  add_zero summary := by simp [add_eq, zero_eq]
  add_comm first second := by simp [add_eq, Nat.add_comm]
  nsmul := nsmulRec

/-- What a summary counts of each kind. -/
theorem ofExecutions_eq (executions : List Execution) :
    ofExecutions executions =
      ⟨executions.countP fun execution => !execution.isNoJobs,
        executions.countP Execution.isSuccess, executions.countP Execution.isRetry,
        executions.countP Execution.isFailure⟩ := by
  have folded (start : Summary) : executions.foldl record start =
      ⟨start.processed + executions.countP fun execution => !execution.isNoJobs,
        start.succeeded + executions.countP Execution.isSuccess,
        start.retried + executions.countP Execution.isRetry,
        start.failed + executions.countP Execution.isFailure⟩ := by
    induction executions generalizing start with
    | nil => rfl
    | cons execution rest inductionHypothesis =>
      rw [List.foldl_cons, inductionHypothesis]
      cases execution <;>
        simp [record, List.countP_cons, Execution.isNoJobs, Execution.isSuccess, Execution.isRetry,
          Execution.isFailure, Nat.add_assoc, Nat.add_comm 1]
  unfold ofExecutions
  rw [folded]
  simp [zero]

/-- The summary of one list of executions after another is the sum of theirs. -/
theorem ofExecutions_append (earlier later : List Execution) :
    ofExecutions (earlier ++ later) = ofExecutions earlier + ofExecutions later := by
  simp only [ofExecutions_eq, List.countP_append]
  rfl

/-- The sentinel of an idle pass counts for nothing. -/
theorem ofExecutions_reported (executions : List Execution) :
    ofExecutions (Scheduler.reported executions) = ofExecutions executions := by
  cases executions <;> rfl

end Summary

/-- What the counters say of jobs. -/
def Counters.jobs (counters : Counters) : Summary :=
  ⟨counters.processed, counters.succeeded, counters.retried, counters.failed⟩

namespace Cycle

variable {cycle : Cycle}

/-- A cycle that keeps account. -/
def accounted (cycle : Cycle) : Program Account :=
  cycle.scheduler.drainAccounted cycle.worker cycle.maxJobs

/-- A cycle that came to its end, in whatever world: what was said in it, and its account. -/
structure Course (cycle : Cycle) where
  said : Dialogue
  account : Account
  went : cycle.accounted.Leads said (.done account)

namespace Course

/-- What the poller enters into its counters at the end of the cycle. -/
def result (course : cycle.Course) : Run (List Execution) := .ended course.account.outcome

/-- What a cycle that keeps account is led to. -/
theorem accounts {said : Dialogue} {rest : Program Account}
    (leads : cycle.accounted.Leads said rest) :
    rest.Obeys
      ⟨(Operation.runDue cycle.worker cycle.maxJobs).Asks cycle.scheduler, fun _ result =>
        ∃ account, result = .ok account ∧
          ∀ execution ∈ account.executions, execution.isNoJobs = false⟩ said :=
  (cycle.scheduler.drainAccounted_obeys (by simp) cycle.worker cycle.maxJobs []).leads leads

/-- Every execution in an account is an attempt. -/
theorem attempted (course : cycle.Course) :
    ∀ execution ∈ course.account.executions, execution.isNoJobs = false := by
  obtain ⟨_, same, attempted⟩ := accounts course.went
  cases same
  exact attempted

end Course

/-- The cycles that come to their end are those that have an account, with the outcome of that. -/
theorem ended_iff_course {said : Dialogue} {outcome : Except ScheduleError (List Execution)} :
    cycle.program.Leads said (.ended outcome) ↔
      ∃ course : cycle.Course, course.said = said ∧ course.account.outcome = outcome := by
  unfold program
  rw [Scheduler.runDue_eq_accounted]
  constructor
  · intro leads
    obtain ⟨rest, went, same⟩ := leads.of_bind_ended
    cases rest with
    | done account =>
      refine ⟨⟨said, account, went⟩, rfl, ?_⟩
      change Program.ended outcome = .ended account.outcome at same
      cases outcome <;> cases given : account.outcome <;> rw [given] at same <;> cases same <;> rfl
    | fail cause =>
      obtain ⟨_, never, _⟩ := Course.accounts went
      cases never
    | ask call resume => cases outcome <;> cases same
  · rintro ⟨course, rfl, rfl⟩
    exact course.went.bind _

namespace Course

/-- One cycle more is counted, and one error more if it ended in one. -/
theorem enter (course : cycle.Course) (counters : Counters) :
    (counters.enter course.result).cycles = counters.cycles + 1 ∧
      (counters.enter course.result).errors =
        counters.errors + if course.account.error?.isSome then 1 else 0 := by
  obtain ⟨said, ⟨executions, error?⟩, went⟩ := course
  cases error? <;> exact ⟨rfl, rfl⟩

/-- The executions of a cycle are counted or lost. -/
theorem jobs_enter (course : cycle.Course) (counters : Counters) :
    (counters.enter course.result).jobs + .ofExecutions course.account.lost =
      counters.jobs + .ofExecutions course.account.executions := by
  obtain ⟨said, ⟨executions, error?⟩, went⟩ := course
  cases error? with
  | none =>
    have recorded : (counters.enter (.finished (Scheduler.reported executions))).jobs =
        counters.jobs + .ofExecutions (Scheduler.reported executions) := rfl
    change (counters.enter (.finished (Scheduler.reported executions))).jobs + 0 = _
    rw [recorded, Summary.ofExecutions_reported, add_zero]
  | some cause => rfl

end Course

/-- The counters of a poller after cycles that came to their end, one after the other. -/
def counted (courses : List cycle.Course) : Counters :=
  (courses.map Course.result).foldl Counters.enter .zero

/-- What was executed in cycles. -/
def executions (courses : List cycle.Course) : List Execution :=
  courses.flatMap fun course => course.account.executions

/-- What was executed in the cycles that ended in an error. -/
def lost (courses : List cycle.Course) : List Execution :=
  courses.flatMap fun course => course.account.lost

/-- The counters grow by what happens in the cycles and is not lost. -/
theorem enter_all (courses : List cycle.Course) (counters : Counters) :
    let present := (courses.map Course.result).foldl Counters.enter counters
    present.cycles = counters.cycles + courses.length ∧
      present.errors =
        counters.errors + courses.countP (fun course => course.account.error?.isSome) ∧
      present.jobs + .ofExecutions (lost courses) =
        counters.jobs + .ofExecutions (executions courses) := by
  induction courses generalizing counters with
  | nil => exact ⟨rfl, rfl, rfl⟩
  | cons course rest inductionHypothesis =>
    obtain ⟨cycles, errors, jobs⟩ := inductionHypothesis (counters.enter course.result)
    obtain ⟨oneCycle, oneError⟩ := course.enter counters
    refine ⟨?_, ?_, ?_⟩
    · rw [List.map_cons, List.foldl_cons, cycles, oneCycle, List.length_cons]
      omega
    · rw [List.map_cons, List.foldl_cons, errors, oneError, List.countP_cons]
      omega
    · let entered := counters.enter course.result
      let present := (rest.map Course.result).foldl Counters.enter entered
      change present.jobs + .ofExecutions (course.account.lost ++ lost rest) =
        counters.jobs + .ofExecutions (course.account.executions ++ executions rest)
      rw [Summary.ofExecutions_append, Summary.ofExecutions_append]
      calc present.jobs + (.ofExecutions course.account.lost + .ofExecutions (lost rest))
          = .ofExecutions course.account.lost + (present.jobs + .ofExecutions (lost rest)) :=
            add_left_comm _ _ _
        _ = .ofExecutions course.account.lost + (entered.jobs + .ofExecutions (executions rest)) :=
            congrArg _ jobs
        _ = entered.jobs + .ofExecutions course.account.lost + .ofExecutions (executions rest) := by
            rw [← add_assoc, add_comm entered.jobs]
        _ = counters.jobs + .ofExecutions course.account.executions +
              .ofExecutions (executions rest) := by rw [course.jobs_enter]
        _ = counters.jobs + (.ofExecutions course.account.executions +
              .ofExecutions (executions rest)) := add_assoc _ _ _

/-- In executed jobs the sentinel does not occur. -/
theorem attempted (courses : List cycle.Course) :
    ∀ execution ∈ executions courses, execution.isNoJobs = false := by
  intro execution member
  obtain ⟨course, _, own⟩ := List.mem_flatMap.mp member
  exact course.attempted execution own

/-- Nothing is lost where no cycle that ended in an error had executed anything. -/
theorem lost_eq_nil_iff (courses : List cycle.Course) :
    lost courses = [] ↔
      ∀ course ∈ courses, course.account.error?.isSome → course.account.executions = [] := by
  simp [lost, Account.lost, List.flatMap_eq_nil_iff]

/-- What is lost was executed. -/
theorem lost_subset (courses : List cycle.Course) : lost courses ⊆ executions courses := by
  intro execution member
  obtain ⟨course, among, own⟩ := List.mem_flatMap.mp member
  refine List.mem_flatMap.mpr ⟨course, among, ?_⟩
  unfold Account.lost at own
  split at own
  · exact own
  · cases own

/-- Whatever the store and the publisher reply in them, the cycles of a poller are counted, and so
are those that end in an error. Of the jobs, what the counters lack is exactly what was executed in
the cycles that ended in an error: they are right if nothing was, and short of it otherwise.

Proof: a cycle that ends is the accounted one, with the outcome read off its account. Each one adds
its executions to the counters or, with an error, to what is lost. -/
theorem counters_lack_lost (cycle : Cycle) (courses : List cycle.Course) :
    (∀ said outcome, cycle.program.Leads said (.ended outcome) ↔
        ∃ course : cycle.Course, course.said = said ∧ course.account.outcome = outcome) ∧
      (counted courses).cycles = courses.length ∧
      (counted courses).errors = courses.countP (fun course => course.account.error?.isSome) ∧
      (counted courses).jobs + .ofExecutions (lost courses) = .ofExecutions (executions courses) ∧
      Summary.ofExecutions (executions courses) =
        ⟨(executions courses).length, (executions courses).countP Execution.isSuccess,
          (executions courses).countP Execution.isRetry,
          (executions courses).countP Execution.isFailure⟩ ∧
      ((counted courses).jobs = .ofExecutions (executions courses) ↔
        ∀ course ∈ courses, course.account.error?.isSome → course.account.executions = []) := by
  obtain ⟨cycles, errors, jobs⟩ := enter_all courses .zero
  have sum : (counted courses).jobs + .ofExecutions (lost courses) =
      .ofExecutions (executions courses) := jobs.trans (zero_add _)
  have counted_length {list : List Execution}
      (attempted : ∀ execution ∈ list, execution.isNoJobs = false) :
      list.countP (fun execution => !execution.isNoJobs) = list.length :=
    List.countP_eq_length.mpr fun execution member => by simp [attempted execution member]
  refine ⟨fun _ _ => ended_iff_course, cycles.trans (Nat.zero_add _),
    errors.trans (Nat.zero_add _), sum, ?_, ?_⟩
  · rw [Summary.ofExecutions_eq, counted_length (attempted courses)]
  · rw [← lost_eq_nil_iff]
    constructor
    · intro complete
      have none : (Summary.ofExecutions (lost courses)).processed = 0 := by
        have processed := congrArg Summary.processed (sum.trans complete.symm)
        rw [Summary.add_eq] at processed
        dsimp only at processed
        omega
      rw [Summary.ofExecutions_eq] at none
      dsimp only at none
      rw [counted_length fun execution member =>
        attempted courses execution (lost_subset courses member)] at none
      exact List.eq_nil_of_length_eq_zero none
    · intro nothing
      rw [nothing] at sum
      exact (add_zero _).symm.trans sum

/-- A job is claimed, published and saved, and then the store fails to list the next one: the
counters say that no job was processed. -/
theorem counters_lack_published :
    let cycle : Cycle := ⟨⟨.standard, .ofSeconds 0⟩, ⟨"worker"⟩, 2⟩
    let made : Job := .create ⟨1⟩ ⟨"post"⟩ .epoch .epoch
    let copy : Job := { made with state := .running ⟨"worker"⟩ }
    let published : Job := { made with
      state := .succeeded .epoch .epoch
      attempts := Attempts.zero.next
      lastAttemptAt := some .epoch }
    let down : StoreError := .storage "down"
    let said : Dialogue :=
      [.clock .epoch, .store (.listDue .epoch 1) (.ok [made]), .clock .epoch,
        .store (.claim ⟨1⟩ ⟨"worker"⟩ .epoch) (.ok (some copy)), .clock .epoch,
        .publish ⟨"post"⟩ .published, .clock .epoch, .store (.save published) (.ok published),
        .clock .epoch, .store (.listDue .epoch 1) (.error down)]
    cycle.program.Leads said (.fail (.store down)) ∧
      cycle.accounted.Leads said (.done ⟨[.succeeded published], some (.store down)⟩) ∧
      (Counters.zero.enter (.failed (.store down))).processed ≠
        [Execution.succeeded published].length := by
  intro cycle made copy published down said
  have went : cycle.accounted.Leads said (.done ⟨[.succeeded published], some (.store down)⟩) := by
    have looks := @Program.Leads.snoc _ cycle.accounted [] .clock _ .none Instant.epoch
    have lists := @Program.Leads.snoc _ _ _ (.store (.listDue .epoch 1)) _ looks (.ok [made])
    have checks := @Program.Leads.snoc _ _ _ .clock _ lists Instant.epoch
    have claims := @Program.Leads.snoc _ _ _ (.store (.claim ⟨1⟩ ⟨"worker"⟩ .epoch)) _ checks
      (.ok (some copy))
    have begins := @Program.Leads.snoc _ _ _ .clock _ claims Instant.epoch
    have publishes := @Program.Leads.snoc _ _ _ (.publish ⟨"post"⟩) _ begins PublishReply.published
    have ends := @Program.Leads.snoc _ _ _ .clock _ publishes Instant.epoch
    have saves := @Program.Leads.snoc _ _ _ (.store (.save published)) _ ends (.ok published)
    have again := @Program.Leads.snoc _ _ _ .clock _ saves Instant.epoch
    exact @Program.Leads.snoc _ _ _ (.store (.listDue .epoch 1)) _ again (.error down)
  exact ⟨ended_iff_course.mpr ⟨⟨said, _, went⟩, rfl, rfl⟩, went, by decide⟩

end Cycle

end TimedPublishing
