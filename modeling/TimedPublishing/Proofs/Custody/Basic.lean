import TimedPublishing.Proofs.Store.Index
import TimedPublishing.Schedule.Program

/-!
# Who may write what

A store is shared by users that keep copies of its jobs, fresh or stale, and act on them.
This is the discipline under which they do: a job is saved as new once, under a name that
was never used; anyone may claim, remove, or move a job, the last from any version of it
that was ever stored; and whoever was handed a copy by a claim may enter the outcome of that
copy once. In what order the users act is left open.

`Custody` is the store with what is known of its users: the names that were used, every
version that was ever stored, and the copies whose outcome is still awaited. `Turn` says
once what an allowed act can make of the row that it is about; every other row stays.
-/

namespace TimedPublishing

/-- The versions that may follow a claimed copy once its attempt is over. -/
inductive Job.Concludes (copy : Job) : Job → Prop
  | succeeded {concluded : Job} (now : Instant) (entered : copy.succeed now = .ok concluded) :
    Concludes copy concluded
  | retried {concluded : Job} (error : String) (nextRetryAt now : Instant)
      (entered : copy.retryLater error nextRetryAt now = .ok concluded) : Concludes copy concluded
  | failed {concluded : Job} (error : String) (now : Instant)
      (entered : copy.fail error now = .ok concluded) : Concludes copy concluded

/-- An outcome is entered for a running job only. It counts the attempt, and leaves name and
intent alone. -/
theorem Job.conclude_eq_ok {copy concluded : Job} {transition : Transition} {state : JobState}
    {error : Option String} {now : Instant}
    (entered : copy.conclude transition state error now = .ok concluded) :
    copy.status = .running ∧
      concluded = { copy with
        state := state
        attempts := copy.attempts.next
        lastAttemptAt := some now
        errorMessage := error <|> copy.errorMessage
        updatedAt := now } := by
  unfold Job.conclude at entered
  split at entered
  · next owner running =>
    exact ⟨by simp [Job.status, running, JobState.status], (Except.ok.inj entered).symm⟩
  · cases entered

namespace Job.Concludes

variable {copy concluded : Job}

/-- What every outcome is like: it is of a running job, it counts the attempt, and it leaves the
job neither queued nor running. -/
theorem shape (concludes : copy.Concludes concluded) :
    copy.status = .running ∧ ∃ state error now,
      (state.status ≠ .queued ∧ state.status ≠ .running) ∧
      concluded = { copy with
        state := state
        attempts := copy.attempts.next
        lastAttemptAt := some now
        errorMessage := error
        updatedAt := now } := by
  cases concludes with
  | succeeded now entered =>
    obtain ⟨running, rfl⟩ := conclude_eq_ok entered
    exact ⟨running, _, _, _, by simp [JobState.status], rfl⟩
  | retried error nextRetryAt now entered =>
    obtain ⟨running, rfl⟩ := conclude_eq_ok entered
    exact ⟨running, _, _, _, by simp [JobState.status], rfl⟩
  | failed error now entered =>
    obtain ⟨running, rfl⟩ := conclude_eq_ok entered
    exact ⟨running, _, _, _, by simp [JobState.status], rfl⟩

/-- Only a running job has an outcome. -/
theorem running (concludes : copy.Concludes concluded) : copy.status = .running :=
  concludes.shape.1

/-- An outcome keeps the name. -/
theorem sameId (concludes : copy.Concludes concluded) : concluded.id = copy.id := by
  obtain ⟨_, _, _, _, _, rfl⟩ := concludes.shape
  rfl

/-- An outcome keeps the intent. -/
theorem sameKey (concludes : copy.Concludes concluded) : concluded.key = copy.key := by
  obtain ⟨_, _, _, _, _, rfl⟩ := concludes.shape
  rfl

/-- An outcome counts one attempt. -/
theorem counts (concludes : copy.Concludes concluded) :
    concluded.attempts = copy.attempts.next := by
  obtain ⟨_, _, _, _, _, rfl⟩ := concludes.shape
  rfl

/-- After an outcome the job is neither queued nor running. -/
theorem moved_on (concludes : copy.Concludes concluded) :
    concluded.status ≠ .queued ∧ concluded.status ≠ .running := by
  obtain ⟨_, _, _, _, ended, rfl⟩ := concludes.shape
  exact ended

end Job.Concludes

/-- The outcome of a copy is always saved where the row is the running copy itself: the job has not
ended, and it owns its intent. -/
theorem Store.Indexed.save_concluded {store : Store} (indexed : store.Indexed)
    {copy concluded : Job} (found : store.find copy.id = some copy)
    (concludes : copy.Concludes concluded) :
    store.save concluded = (.ok concluded, store.write concluded) := by
  rw [← concludes.sameId] at found
  rcases store.save_cases concluded with ⟨ended, _⟩ | ⟨_, rejected, _⟩ | ⟨_, _, written⟩
  · obtain ⟨row, present, terminal⟩ := ended
    obtain rfl : copy = row := Option.some.inj (found.symm.trans present)
    rw [concludes.running] at terminal
    cases terminal
  · exact absurd (indexed.admits_of_find found concludes.sameKey) rejected
  · exact written

/-- Only a queued job is moved. The move changes its publish time and keeps its name, its
standing and its count of attempts. -/
theorem Job.reschedule_eq_ok {job moved : Job} {publishAt now : Instant}
    (moves : job.reschedule publishAt now = .ok moved) :
    job.status = .queued ∧ moved = { job with publishAt := publishAt, updatedAt := now } := by
  unfold Job.reschedule at moves
  split at moves
  · next queued =>
    exact ⟨by simp [Job.status, queued, JobState.status], (Except.ok.inj moves).symm⟩
  · cases moves

/-- A moved job is still queued. -/
theorem Job.queued_of_reschedule {job moved : Job} {publishAt now : Instant}
    (moves : job.reschedule publishAt now = .ok moved) : moved.status = .queued := by
  obtain ⟨queued, rfl⟩ := reschedule_eq_ok moves
  exact queued

/-- What a user may do to a store. -/
inductive Act
  /-- Save a new job. -/
  | enlist (job : Job)
  | claim (id : JobId) (worker : WorkerId) (now : Instant)
  /-- Store a version of a job with another publish time, if the job is still queued. -/
  | move (moved : Job)
  | delete (id : JobId)
  /-- Save the outcome of a claimed copy. -/
  | conclude (copy concluded : Job)
deriving DecidableEq, Repr

namespace Act

/-- The request that an act makes. -/
def call : Act → StoreCall
  | enlist job => .save job
  | claim id worker now => .claim id worker now
  | move moved => .updateIfQueued moved
  | delete id => .delete id
  | conclude _ concluded => .save concluded

/-- The job that an act is about. -/
def subject : Act → JobId
  | enlist job => job.id
  | claim id _ _ => id
  | move moved => moved.id
  | delete id => id
  | conclude _ concluded => concluded.id

end Act

/-- What is remembered of a job: the acts that were granted, and the calls of the publisher in
between. -/
inductive Mark
  | enlisted (job : Job)
  | moved (job : Job)
  | removed (id : JobId)
  | claimed (copy : Job)
  /-- The publisher was called for a claimed copy. -/
  | published (copy : Job) (reply : PublishReply)
  | concluded (copy concluded : Job)
deriving DecidableEq, Repr

/-- The job that a mark is about. -/
def Mark.subject : Mark → JobId
  | enlisted job => job.id
  | moved job => job.id
  | removed id => id
  | claimed copy => copy.id
  | published copy _ => copy.id
  | concluded _ after => after.id

/-- The mark that an act leaves by what it is answered. An act that is refused leaves none. -/
def Act.mark? : (act : Act) → act.call.Reply → Option Mark
  | enlist job, .ok _ => some (.enlisted job)
  | claim _ _ _, .ok answer => answer.map .claimed
  | move moved, .ok (some _) => some (.moved moved)
  | delete id, .ok true => some (.removed id)
  | conclude copy concluded, .ok _ => some (.concluded copy concluded)
  | _, _ => none

/-- A store and what is known of its users. -/
structure Custody where
  store : Store
  /-- The names that jobs were saved under as new. -/
  used : List JobId
  /-- Every version of a job that was ever stored, and so all that a user may have read. -/
  versions : List Job
  /-- The copies handed out by claims, as long as their outcome was not entered. -/
  held : List Job

namespace Custody

/-- A store without jobs and without a past. -/
def empty : Custody := ⟨.empty, [], [], []⟩

/-- The acts that the discipline allows. -/
def Allows (custody : Custody) : Act → Prop
  | .enlist job =>
    job.id ∉ custody.used ∧ ∃ content publishAt now, job = .create job.id content publishAt now
  | .claim _ _ _ => True
  | .move moved =>
    ∃ version ∈ custody.versions, ∃ publishAt now, version.reschedule publishAt now = .ok moved
  | .delete _ => True
  | .conclude copy concluded => copy ∈ custody.held ∧ copy.Concludes concluded

/-- The names used once an act was tried, whatever it was answered. -/
def usedAfter (custody : Custody) : Act → List JobId
  | .enlist job => job.id :: custody.used
  | _ => custody.used

/-- The copies awaited after an act: a claim may add one, an outcome takes its own away. -/
def heldAfter (custody : Custody) : Act → List Job
  | .claim id worker now => (custody.store.claim id worker now).1.toList ++ custody.held
  | .conclude copy _ => custody.held.erase copy
  | _ => custody.held

/-- Let an act happen. The row that it leaves is noted among the versions. -/
def after (custody : Custody) (act : Act) : Custody :=
  let store := (custody.store.answer act.call).2
  { store := store
    used := custody.usedAfter act
    versions := (store.find act.subject).toList ++ custody.versions
    held := custody.heldAfter act }

/-- A sequence of allowed acts, in any order and by any users. -/
inductive Run (start : Custody) : List Act → Custody → Prop
  | none : Run start [] start
  | snoc {acts : List Act} {present : Custody} {act : Act} (past : Run start acts present)
      (allowed : present.Allows act) : Run start (acts ++ [act]) (present.after act)

/-- What an act can make of the row that it is about, with the mark that it leaves: nothing,
unless it enters an outcome, or the one change that its kind allows. -/
inductive Turn : Act → Option Mark → Option Job → Option Job → Prop
  | refused {act : Act} (row : Option Job)
      (entersNone : ∀ copy concluded, act ≠ .conclude copy concluded) : Turn act none row row
  | enlisted {job : Job}
      (new : ∃ content publishAt now, job = .create job.id content publishAt now) :
      Turn (.enlist job) (some (.enlisted job)) none (some job)
  | claimed {id : JobId} {worker : WorkerId} {now : Instant} {stored copy : Job}
      (granted : stored.claim worker now = .ok copy) :
      Turn (.claim id worker now) (some (.claimed copy)) (some stored) (some copy)
  | moved {stored version moved : Job} (queued : stored.status = .queued) (publishAt now : Instant)
      (moves : version.reschedule publishAt now = .ok moved)
      (unattempted : version.attempts = .zero) :
      Turn (.move moved) (some (.moved moved)) (some stored) (some moved)
  | deleted {id : JobId} {stored : Job} (queued : stored.status = .queued) :
      Turn (.delete id) (some (.removed id)) (some stored) none
  | concluded {copy concluded : Job} (concludes : copy.Concludes concluded) :
      Turn (.conclude copy concluded) (some (.concluded copy concluded)) (some copy)
        (some concluded)

/-- An act shows in no row but the one that it is about. -/
theorem find_after_of_ne (custody : Custody) (act : Act) {other : JobId}
    (different : act.subject ≠ other) :
    (custody.after act).store.find other = custody.store.find other := by
  have about : act.call.subject? = some act.subject := by
    cases act <;> rfl
  apply custody.store.find_answer_of_ne
  rw [about]
  exact fun same => different (Option.some.inj same)

end Custody

end TimedPublishing
