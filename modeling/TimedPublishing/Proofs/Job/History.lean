import Mathlib.Computability.RegularExpressions
import TimedPublishing.Proofs.Custody.Basic

/-!
# A job is what its changes made of it

A job that was just made is put through any sequence of changes, with whatever they are given. A
change that is refused leaves the job as it was, so the job is the work of the others, its
history. The histories that there can be are the words of a regular language, and every field of
the job can be read off the history alone: most are that of the last change of some kind.

Each change that is granted enters the same things, in the way that `entered` says once for all
kinds. What is then left to show of a field is how the last change of a kind moves when the
history grows at its end.
-/

open scoped Computability

namespace TimedPublishing

/-- A repetition goes on with one more word of what is repeated. -/
theorem kstar_snoc {language : Language Transition} {many one : List Transition}
    (repeated : many ∈ language∗) (another : one ∈ language) : many ++ one ∈ language∗ := by
  obtain ⟨words, rfl, areWords⟩ := Language.mem_kstar.mp repeated
  refine Language.mem_kstar.mpr ⟨words ++ [one], by simp, ?_⟩
  intro word member
  rcases List.mem_append.mp member with old | new
  · exact areWords word old
  · exact List.mem_singleton.mp new ▸ another

namespace Transition

/-- The histories of jobs: moves while the job is queued, then attempts that fail and are retried,
then perhaps an attempt that is under way or has ended the job. -/
def life : RegularExpression Transition :=
  .star (.char .reschedule) * (.star (.char .claim * .char .retryLater) *
    (1 + .char .claim * (1 + (.char .succeed + .char .fail))))

/-- The histories of queued jobs. -/
def moves : Language Transition := (RegularExpression.char reschedule).matches'∗

/-- Attempts that failed and were put off. -/
def rounds : Language Transition := (RegularExpression.char claim * .char retryLater).matches'∗

/-- What may follow on moves and rounds. -/
def last : Language Transition :=
  (1 + .char claim * (1 + (.char succeed + .char fail)) : RegularExpression Transition).matches'

/-- A history may end after its moves and rounds in each of the allowed ways. -/
theorem life_of_last {begun ending : List Transition} (begins : begun ∈ moves * rounds)
    (ends : ending ∈ last) : begun ++ ending ∈ life.matches' := by
  have whole : begun ++ ending ∈ moves * rounds * last := Language.append_mem_mul begins ends
  rw [mul_assoc] at whole
  exact whole

/-- Another failed attempt is one round more. -/
theorem rounds_snoc {begun : List Transition} (begins : begun ∈ moves * rounds) :
    begun ++ [claim, retryLater] ∈ moves * rounds := by
  obtain ⟨before, moved, after, failed, rfl⟩ := Language.mem_mul.mp begins
  have round : [claim, retryLater] ∈ (RegularExpression.char claim * .char retryLater).matches' :=
    ⟨[claim], rfl, [retryLater], rfl, rfl⟩
  rw [List.append_assoc]
  exact Language.append_mem_mul moved (kstar_snoc failed round)

end Transition

namespace Change

/-- The kind of a change. -/
def transition : Change → Transition
  | claim _ _ => .claim
  | succeed _ => .succeed
  | retryLater _ _ _ => .retryLater
  | fail _ _ => .fail
  | reschedule _ _ => .reschedule

/-- The instant at which a change is made. -/
def madeAt : Change → Instant
  | claim _ now => now
  | succeed now => now
  | retryLater _ _ now => now
  | fail _ now => now
  | reschedule _ now => now

/-- The publish time that a move sets. -/
def movesTo? : Change → Option Instant
  | reschedule publishAt _ => some publishAt
  | _ => none

/-- The instant at which an attempt ended. -/
def attemptedAt? : Change → Option Instant
  | succeed now => some now
  | retryLater _ _ now => some now
  | fail _ now => some now
  | _ => none

/-- The error of an attempt that failed. -/
def error? : Change → Option String
  | retryLater error _ _ => some error
  | fail error _ => some error
  | _ => none

/-- The instant that an attempt is put off to. -/
def putsOffTo? : Change → Option Instant
  | retryLater _ nextRetryAt _ => some nextRetryAt
  | _ => none

/-- The state that a change leaves a job in. -/
def leaves : Change → JobState
  | claim worker _ => .running worker
  | succeed now => .succeeded now now
  | retryLater _ nextRetryAt _ => .retryWait nextRetryAt
  | fail _ now => .failed now
  | reschedule _ _ => .queued

/-- When a change is granted: a claim to a job that is due, a move to one that is queued, and an
outcome to one that runs. -/
def Fits (job : Job) : Change → Prop
  | claim _ now => job.isDue now = true
  | reschedule _ _ => job.status = .queued
  | _ => job.status = .running

end Change

namespace Job

/-- The job after a sequence of changes. One that is refused leaves it as it was. -/
def afterChanges (job : Job) : List Change → Job
  | [] => job
  | change :: rest =>
    match job.change change with
    | .ok changed => changed.afterChanges rest
    | .error _ => job.afterChanges rest

/-- The changes of a sequence that are granted. -/
def history (job : Job) : List Change → List Change
  | [] => []
  | change :: rest =>
    match job.change change with
    | .ok changed => change :: changed.history rest
    | .error _ => job.history rest

/-- What a granted change makes of a job. -/
def entered (job : Job) (change : Change) : Job :=
  { job with
    publishAt := change.movesTo?.getD job.publishAt
    state := change.leaves
    attempts := if change.attemptedAt?.isSome then job.attempts.next else job.attempts
    lastAttemptAt := change.attemptedAt?.or job.lastAttemptAt
    errorMessage := change.error?.or job.errorMessage
    updatedAt := change.madeAt }

/-- A change that is granted fits the job and is entered. -/
theorem change_eq_ok {job changed : Job} {change : Change}
    (granted : job.change change = .ok changed) :
    change.Fits job ∧ changed = job.entered change := by
  cases change with
  | claim worker now =>
    obtain ⟨due, rfl⟩ := claim_eq_ok granted
    exact ⟨due, rfl⟩
  | succeed now =>
    obtain ⟨running, rfl⟩ := conclude_eq_ok granted
    exact ⟨running, rfl⟩
  | retryLater error nextRetryAt now =>
    obtain ⟨running, rfl⟩ := conclude_eq_ok granted
    exact ⟨running, rfl⟩
  | fail error now =>
    obtain ⟨running, rfl⟩ := conclude_eq_ok granted
    exact ⟨running, rfl⟩
  | reschedule publishAt now =>
    obtain ⟨queued, rfl⟩ := reschedule_eq_ok granted
    refine ⟨queued, ?_⟩
    simp [entered, Change.movesTo?, Change.attemptedAt?, Change.error?, Change.leaves,
      Change.madeAt, state_of_queued queued]

end Job

namespace JobStatus

open Transition (moves rounds)

/-- The histories of the jobs that have a status. -/
def lives : JobStatus → Language Transition
  | queued => moves
  | retryWait => moves * rounds
  | running => moves * rounds * {[.claim]}
  | succeeded => moves * rounds * {[.claim, .succeed]}
  | failed => moves * rounds * {[.claim, .fail]}

/-- Moves alone are a history without rounds. -/
theorem begun_of_moves {word : List Transition} (moved : word ∈ moves) : word ∈ moves * rounds := by
  have whole := Language.append_mem_mul moved (Language.nil_mem_kstar _ : [] ∈ rounds)
  rwa [List.append_nil] at whole

/-- Whatever the status of a job, its history is one of the allowed ones. -/
theorem life_of_lives {status : JobStatus} {word : List Transition} (lived : word ∈ status.lives) :
    word ∈ Transition.life.matches' := by
  have whole {begun ending : List Transition} (begins : begun ∈ moves * rounds)
      (ends : ending ∈ Transition.last) : begun ++ ending ∈ Transition.life.matches' :=
    Transition.life_of_last begins ends
  have still : [] ∈ Transition.last := Or.inl Language.nil_mem_one
  have attempted {rest : List Transition}
      (ends : rest = [] ∨ rest = [.succeed] ∨ rest = [.fail]) :
      .claim :: rest ∈ Transition.last :=
    Or.inr ⟨[.claim], rfl, rest, ends, rfl⟩
  cases status with
  | queued => exact List.append_nil word ▸ whole (begun_of_moves lived) still
  | retryWait => exact List.append_nil word ▸ whole lived still
  | running =>
    obtain ⟨begun, begins, _, rfl, rfl⟩ := Language.mem_mul.mp lived
    exact whole begins (attempted (Or.inl rfl))
  | succeeded =>
    obtain ⟨begun, begins, _, rfl, rfl⟩ := Language.mem_mul.mp lived
    exact whole begins (attempted (Or.inr (Or.inl rfl)))
  | failed =>
    obtain ⟨begun, begins, _, rfl, rfl⟩ := Language.mem_mul.mp lived
    exact whole begins (attempted (Or.inr (Or.inr rfl)))

end JobStatus

namespace Job

/-- What the changes of a kind say last, when the history grows at its end. -/
theorem last_snoc {α : Type} (reads : Change → Option α) (word : List Change) (change : Change) :
    ((word ++ [change]).filterMap reads).getLast? =
      (reads change).or (word.filterMap reads).getLast? := by
  cases said : reads change <;> simp [List.filterMap_append, said]

/-- What holds of a job after its history, with what it takes to go on. -/
structure Chronicle (first : Job) (word : List Change) (job : Job) : Prop where
  lived : word.map Change.transition ∈ job.status.lives
  id : job.id = first.id
  content : job.content = first.content
  createdAt : job.createdAt = first.createdAt
  publishAt : job.publishAt = (word.filterMap Change.movesTo?).getLast?.getD first.publishAt
  attempts : job.attempts.count = min (word.filterMap Change.attemptedAt?).length Text.maxWord32
  lastAttemptAt : job.lastAttemptAt = (word.filterMap Change.attemptedAt?).getLast?
  errorMessage : job.errorMessage = (word.filterMap Change.error?).getLast?
  updatedAt : job.updatedAt = (word.map Change.madeAt).getLast?.getD first.updatedAt
  state : job.state = (word.map Change.leaves).getLast?.getD .queued
  /-- A job that is queued was only moved so far. -/
  moved : job.status = .queued → ∀ change ∈ word, change.transition = .reschedule
  /-- A job that waits was last put off to the instant that it waits for. -/
  putOff : ∀ retryAt, job.status.isClaimable = true →
    (word.filterMap Change.putsOffTo?).getLast? = some retryAt → job.state = .retryWait retryAt
  /-- No claim came before the publish time or before the retry that it was put off to. -/
  punctual : ∀ earlier later worker now, word = earlier ++ .claim worker now :: later →
    job.publishAt ≤ now ∧ ∀ retryAt,
      (earlier.filterMap Change.putsOffTo?).getLast? = some retryAt → retryAt ≤ now

namespace Chronicle

variable {first job : Job} {word : List Change} {change : Change}

/-- A job that was just made has no history. -/
theorem made (id : JobId) (content : ContentId) (publishAt now : Instant) :
    Chronicle (create id content publishAt now) [] (create id content publishAt now) where
  lived := Language.nil_mem_kstar _
  id := rfl
  content := rfl
  createdAt := rfl
  publishAt := rfl
  attempts := rfl
  lastAttemptAt := rfl
  errorMessage := rfl
  updatedAt := rfl
  state := rfl
  moved := by simp
  putOff := by simp
  punctual := by simp

/-- Only a move sets a publish time. -/
theorem movesTo?_of_not_reschedule (other : change.transition ≠ .reschedule) :
    change.movesTo? = none := by
  cases change <;> simp_all [Change.transition, Change.movesTo?]

/-- The history of a job after a change that fits it. -/
theorem lived_entered (chronicle : Chronicle first word job) (fits : change.Fits job) :
    (word ++ [change]).map Change.transition ∈ (job.entered change).status.lives := by
  have lived := chronicle.lived
  rw [List.map_append]
  cases change with
  | reschedule publishAt now =>
    have queued : job.status = .queued := fits
    rw [queued] at lived
    exact kstar_snoc lived rfl
  | claim worker now =>
    have begun : word.map Change.transition ∈ Transition.moves * Transition.rounds := by
      rcases (due_cases fits).2 with queued | ⟨retryAt, waits, _⟩
      · unfold status at lived
        rw [queued] at lived
        exact JobStatus.begun_of_moves lived
      · unfold status at lived
        rw [waits] at lived
        exact lived
    exact Language.append_mem_mul begun rfl
  | succeed now =>
    have running : job.status = .running := fits
    rw [running] at lived
    obtain ⟨begun, begins, _, rfl, split⟩ := Language.mem_mul.mp lived
    rw [← split, List.append_assoc]
    exact Language.append_mem_mul begins rfl
  | retryLater error nextRetryAt now =>
    have running : job.status = .running := fits
    rw [running] at lived
    obtain ⟨begun, begins, _, rfl, split⟩ := Language.mem_mul.mp lived
    rw [← split, List.append_assoc]
    exact Transition.rounds_snoc begins
  | fail error now =>
    have running : job.status = .running := fits
    rw [running] at lived
    obtain ⟨begun, begins, _, rfl, split⟩ := Language.mem_mul.mp lived
    rw [← split, List.append_assoc]
    exact Language.append_mem_mul begins rfl

/-- No claim is before its time after a change that fits the job. A move comes before every claim,
so it takes no claim's time away. -/
theorem punctual_entered (chronicle : Chronicle first word job) (fits : change.Fits job)
    {earlier later : List Change} {worker : WorkerId} {now : Instant}
    (split : word ++ [change] = earlier ++ .claim worker now :: later) :
    (job.entered change).publishAt ≤ now ∧ ∀ retryAt,
      (earlier.filterMap Change.putsOffTo?).getLast? = some retryAt → retryAt ≤ now := by
  rcases List.eq_nil_or_concat later with rfl | ⟨rest, last, rfl⟩
  · -- The change is the claim itself.
    obtain ⟨rfl, same⟩ := List.append_inj' split rfl
    obtain rfl : change = .claim worker now := by simpa using same
    obtain ⟨come, waits⟩ := due_cases fits
    refine ⟨come, ?_⟩
    intro retryAt putOff
    have state := chronicle.putOff retryAt (claimable_of_isDue fits) putOff
    rcases waits with queued | ⟨next, waits, reached⟩
    · rw [queued] at state
      cases state
    · rw [waits] at state
      cases state
      exact reached
  · -- The claim was made before.
    have before : word = earlier ++ .claim worker now :: rest := by
      have grown : word ++ [change] = (earlier ++ .claim worker now :: rest) ++ [last] := by
        simpa using split
      exact (List.append_inj' grown rfl).1
    obtain ⟨published, retried⟩ := chronicle.punctual earlier rest worker now before
    have unmoved : change.movesTo? = none := by
      apply movesTo?_of_not_reschedule
      intro moves
      have queued : job.status = .queued := by
        cases change <;> simp_all [Change.transition, Change.Fits]
      have claimed := chronicle.moved queued (.claim worker now) (by simp [before])
      cases claimed
    refine ⟨?_, retried⟩
    change (change.movesTo?.getD job.publishAt) ≤ now
    rw [unmoved]
    exact published

/-- The history goes on with every change that fits the job. -/
theorem entered (chronicle : Chronicle first word job) (fits : change.Fits job) :
    Chronicle first (word ++ [change]) (job.entered change) where
  lived := chronicle.lived_entered fits
  id := chronicle.id
  content := chronicle.content
  createdAt := chronicle.createdAt
  publishAt := by
    change change.movesTo?.getD job.publishAt = _
    rw [last_snoc, chronicle.publishAt]
    cases change.movesTo? <;> simp
  attempts := by
    have counted := chronicle.attempts
    have grown := job.attempts.next_count
    have bound := job.attempts.inRange
    change (if change.attemptedAt?.isSome then job.attempts.next else job.attempts).count = _
    cases attempted : change.attemptedAt? with
    | none => simpa [attempted] using counted
    | some now =>
      simp only [Option.isSome_some, if_true, List.filterMap_append, List.length_append,
        List.filterMap_cons, attempted, List.filterMap_nil, List.length_cons, List.length_nil]
      omega
  lastAttemptAt := by
    change change.attemptedAt?.or job.lastAttemptAt = _
    rw [last_snoc, chronicle.lastAttemptAt]
  errorMessage := by
    change change.error?.or job.errorMessage = _
    rw [last_snoc, chronicle.errorMessage]
  updatedAt := by
    rw [List.map_append]
    simp [Job.entered]
  state := by
    rw [List.map_append]
    simp [Job.entered]
  moved := by
    intro queued other member
    have moves : change.transition = .reschedule := by
      cases change <;> simp_all [Job.entered, status, Change.leaves, JobState.status,
        Change.transition]
    have before : job.status = .queued := by
      cases change <;> simp_all [Change.transition, Change.Fits]
    rcases List.mem_append.mp member with old | new
    · exact chronicle.moved before other old
    · exact List.mem_singleton.mp new ▸ moves
  putOff := by
    intro retryAt claimable putOff
    rw [last_snoc] at putOff
    cases change with
    | retryLater error nextRetryAt now => exact congrArg JobState.retryWait (Option.some.inj putOff)
    | reschedule publishAt now =>
      have queued : job.status = .queued := fits
      have state := chronicle.putOff retryAt (by rw [queued]; rfl) putOff
      cases (state_of_queued queued).symm.trans state
    | claim worker now => cases claimable
    | succeed now => cases claimable
    | fail error now => cases claimable
  punctual := fun _ _ _ _ split => chronicle.punctual_entered fits split

/-- The history of a job goes on through any sequence of changes. -/
theorem afterChanges (chronicle : Chronicle first word job) (changes : List Change) :
    Chronicle first (word ++ job.history changes) (job.afterChanges changes) := by
  induction changes generalizing word job with
  | nil => simpa [history, Job.afterChanges] using chronicle
  | cons change rest inductionHypothesis =>
    unfold history Job.afterChanges
    cases granted : job.change change with
    | error cause => exact inductionHypothesis chronicle
    | ok changed =>
      obtain ⟨fits, rfl⟩ := change_eq_ok granted
      have whole := inductionHypothesis (chronicle.entered fits)
      rwa [List.append_assoc] at whole

/-- A job ended when its last attempt did, and was published then if it was. -/
theorem completed (chronicle : Chronicle first word job) :
    (job.completedAt.isSome → job.completedAt = job.lastAttemptAt) ∧
      (job.actualPublishAt.isSome → job.actualPublishAt = job.completedAt) := by
  have state := chronicle.state
  have attempted := chronicle.lastAttemptAt
  rcases List.eq_nil_or_concat word with rfl | ⟨before, change, rfl⟩
  · have queued : job.state = .queued := state
    simp [completedAt, actualPublishAt, queued]
  · have left : job.state = change.leaves := by simpa using state
    rw [List.concat_eq_append, last_snoc] at attempted
    cases change <;>
      simp_all [completedAt, actualPublishAt, Change.leaves, Change.attemptedAt?]

end Chronicle

/-- A job has what belongs to its status and nothing else. -/
theorem isSome_iff_status (job : Job) :
    (job.claimedBy.isSome ↔ job.status = .running) ∧
      (job.nextRetryAt.isSome ↔ job.status = .retryWait) ∧
      (job.completedAt.isSome ↔ job.status.isTerminal) ∧
      (job.actualPublishAt.isSome ↔ job.status = .succeeded) := by
  unfold claimedBy nextRetryAt completedAt actualPublishAt status
  cases job.state <;> simp [JobState.status, JobStatus.isTerminal]

/-- After any sequence of changes, granted or refused, a job that was made new is determined by
those that were granted. They are a word of the language of lives, in which no claim comes before
the publish time that the job has in the end or before the retry that was last put off to.
Nothing renames the job or its content. Its publish time is that of the last move, its count is
that of the attempts as far as the field goes, and the time of the last attempt, the error and the
time of the last change are those of the last change that has one; its state is the one that the
last change leaves. So it has an owner exactly while it runs, a retry time exactly while it waits
for it, a time of completion exactly once it has ended, which is that of the last attempt, and a
time of publication exactly if it succeeded, which is the same.

Proof: the chronicle of the job holds of a new one and goes on with each change that fits. A
queued job was only moved so far, which is why a later move cannot come after a claim, and a job
that waits was last put off to what it waits for. -/
theorem determined_by_history (id : JobId) (content : ContentId) (publishAt made : Instant)
    (changes : List Change) :
    let first := create id content publishAt made
    let job := first.afterChanges changes
    let word := first.history changes
    word.map Change.transition ∈ Transition.life.matches' ∧
    (∀ earlier later worker now, word = earlier ++ .claim worker now :: later →
      job.publishAt ≤ now ∧ ∀ retryAt,
        (earlier.filterMap Change.putsOffTo?).getLast? = some retryAt → retryAt ≤ now) ∧
    (job.id = id ∧ job.content = content ∧ job.createdAt = made) ∧
    job.publishAt = (word.filterMap Change.movesTo?).getLast?.getD publishAt ∧
    job.attempts.count = min (word.filterMap Change.attemptedAt?).length Text.maxWord32 ∧
    job.lastAttemptAt = (word.filterMap Change.attemptedAt?).getLast? ∧
    job.errorMessage = (word.filterMap Change.error?).getLast? ∧
    job.updatedAt = (word.map Change.madeAt).getLast?.getD made ∧
    job.state = (word.map Change.leaves).getLast?.getD .queued ∧
    (job.claimedBy.isSome ↔ job.status = .running) ∧
    (job.nextRetryAt.isSome ↔ job.status = .retryWait) ∧
    (job.completedAt.isSome ↔ job.status.isTerminal) ∧
    (job.completedAt.isSome → job.completedAt = job.lastAttemptAt) ∧
    (job.actualPublishAt.isSome ↔ job.status = .succeeded) ∧
    (job.actualPublishAt.isSome → job.actualPublishAt = job.completedAt) := by
  intro first job word
  have chronicle : Chronicle first word job :=
    (Chronicle.made id content publishAt made).afterChanges changes
  obtain ⟨claimed, waits, ended, succeeded⟩ := job.isSome_iff_status
  obtain ⟨completed, published⟩ := chronicle.completed
  exact ⟨JobStatus.life_of_lives chronicle.lived, chronicle.punctual,
    ⟨chronicle.id, chronicle.content, chronicle.createdAt⟩, chronicle.publishAt,
    chronicle.attempts, chronicle.lastAttemptAt, chronicle.errorMessage, chronicle.updatedAt,
    chronicle.state, claimed, waits, ended, completed, succeeded, published⟩

end Job

end TimedPublishing
