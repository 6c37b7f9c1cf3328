import TimedPublishing.Proofs.Interleaving.Hands

/-!
# The life of one job

Whatever callers do, a job lives through few stages: it is not stored, or it rests in the store,
or a copy of it was claimed and waits for the publisher, or the publisher replied for that copy
and the outcome waits to be entered. `Stage.Next` lists the ways from one stage to the next,
each with the mark that it leaves in the history of the job. There is no way to call the publisher
twice from one claim, and none to leave a claim but by the outcome of its one reply.

What is true of all lives is proved by induction over a life, with one case for each way, and
says nothing of callers. Every act that the discipline of custody allows leads the lives of all
jobs on.
-/

namespace TimedPublishing

/-- Where a job stands between store and callers. -/
inductive Stage
  | absent
  /-- The row waits or has ended, and nobody may enter an outcome for it. -/
  | resting (row : Job)
  /-- The row is a claimed copy that the publisher was not called for. -/
  | claimed (copy : Job)
  /-- The row is a claimed copy that the publisher replied to. -/
  | answered (copy : Job) (reply : PublishReply)

namespace Stage

/-- The row of a job at a stage. -/
def row : Stage → Option Job
  | absent => none
  | resting row => some row
  | claimed copy => some copy
  | answered copy _ => some copy

/-- The ways from one stage to the next. An outcome is entered under the settings of some
scheduler in use. -/
inductive Next (inUse : Scheduler → Prop) : Stage → Mark → Stage → Prop
  | enlisted {job : Job}
      (new : ∃ content publishAt now, job = .create job.id content publishAt now) :
      Next inUse absent (.enlisted job) (resting job)
  | moved {row version moved : Job} (queued : row.status = .queued) (publishAt now : Instant)
      (moves : version.reschedule publishAt now = .ok moved)
      (unattempted : version.attempts = .zero) :
      Next inUse (resting row) (.moved moved) (resting moved)
  | removed {row : Job} {id : JobId} (queued : row.status = .queued) :
      Next inUse (resting row) (.removed id) absent
  | claimed {row copy : Job} {worker : WorkerId} {now : Instant}
      (granted : row.claim worker now = .ok copy) :
      Next inUse (resting row) (.claimed copy) (claimed copy)
  | published (copy : Job) (reply : PublishReply) :
      Next inUse (claimed copy) (.published copy reply) (answered copy reply)
  | concluded {scheduler : Scheduler} {copy concluded : Job} {reply : PublishReply} {now : Instant}
      (used : inUse scheduler)
      (entered : copy.change (scheduler.outcome copy reply now) = .ok concluded) :
      Next inUse (answered copy reply) (.concluded copy concluded) (resting concluded)

/-- The mark that a stage of a claim began with. -/
def opening? : Stage → Option Mark
  | claimed copy => some (.claimed copy)
  | answered copy reply => some (.published copy reply)
  | _ => none

/-- How an act may move a stage: a claim that is won opens a new one, and a claim at any stage
stays, until an outcome of its answered copy is entered. -/
structure Moves (stage : Stage) (id : JobId) (mark : Option Mark) (enters : Job → Prop)
    (next : Stage) : Prop where
  won : ∀ copy, copy.id = id → mark = some (.claimed copy) → next = .claimed copy
  waits : ∀ copy, stage = .claimed copy → next = .claimed copy
  answered : ∀ copy reply, stage = .answered copy reply → next = .answered copy reply ∨ enters copy

/-- Without a claim a stage may stay as it is. -/
theorem Moves.stay {stage : Stage} {id : JobId} {mark : Option Mark} {enters : Job → Prop}
    (unclaimed : ∀ copy, copy.id = id → mark ≠ some (.claimed copy)) :
    stage.Moves id mark enters stage where
  won copy own claimed := absurd claimed (unclaimed copy own)
  waits _ claimed := claimed
  answered _ _ answered := Or.inl answered

/-- Exactly the stages of a claim have a running row. -/
def Proper : Stage → Prop
  | absent => True
  | resting row => row.status ≠ .running
  | claimed copy => copy.status = .running
  | answered copy _ => copy.status = .running

end Stage

/-- The lives of a job, by the marks of all jobs. -/
inductive Life (inUse : Scheduler → Prop) (id : JobId) : List Mark → Stage → Prop
  | unborn : Life inUse id [] .absent
  | elsewhere {past : List Mark} {stage : Stage} {mark : Mark} (life : Life inUse id past stage)
      (other : mark.subject ≠ id) : Life inUse id (past ++ [mark]) stage
  | next {past : List Mark} {stage after : Stage} {mark : Mark} (life : Life inUse id past stage)
      (own : mark.subject = id) (next : stage.Next inUse mark after) :
      Life inUse id (past ++ [mark]) after

namespace Life

variable {inUse : Scheduler → Prop} {id : JobId} {past : List Mark} {stage : Stage}

/-- Rows run exactly from a claim to its outcome. -/
theorem proper (life : Life inUse id past stage) : stage.Proper := by
  induction life with
  | unborn => trivial
  | elsewhere _ _ inductionHypothesis => exact inductionHypothesis
  | next life own next inductionHypothesis =>
    cases next with
    | enlisted new =>
      obtain ⟨content, publishAt, now, created⟩ := new
      change Job.status _ ≠ _
      rw [created]
      simp [Job.create, Job.status, JobState.status]
    | moved queued publishAt now moves unattempted =>
      obtain ⟨waits, rfl⟩ := Job.reschedule_eq_ok moves
      intro running
      cases waits.symm.trans running
    | removed queued => trivial
    | claimed granted => exact Job.running_of_claim granted
    | published copy reply => exact inductionHypothesis
    | concluded used entered => exact (Scheduler.outcome_concludes entered).moved_on.2

/-- A queued row was never attempted. -/
theorem unattempted (life : Life inUse id past stage) {row : Job} (stored : stage.row = some row)
    (queued : row.status = .queued) : row.attempts = .zero := by
  induction life with
  | unborn => cases stored
  | elsewhere _ _ inductionHypothesis => exact inductionHypothesis stored
  | next life _ next inductionHypothesis =>
    cases next with
    | enlisted new =>
      cases stored
      obtain ⟨content, publishAt, now, created⟩ := new
      exact congrArg Job.attempts created
    | moved _ publishAt now moves unattempted =>
      cases stored
      obtain ⟨_, rfl⟩ := Job.reschedule_eq_ok moves
      exact unattempted
    | removed _ => cases stored
    | claimed granted =>
      cases stored
      cases (Job.running_of_claim granted).symm.trans queued
    | published copy reply => exact inductionHypothesis stored
    | concluded used entered =>
      cases stored
      exact absurd queued (Scheduler.outcome_concludes entered).moved_on.1

/-- A claim at any stage is remembered by the mark that the stage began with. -/
theorem opened (life : Life inUse id past stage) {mark : Mark}
    (opens : stage.opening? = some mark) : mark ∈ past := by
  induction life with
  | unborn => cases opens
  | elsewhere _ _ inductionHypothesis => exact List.mem_append_left _ (inductionHypothesis opens)
  | next _ _ next _ =>
    cases next with
    | claimed granted =>
      cases opens
      exact List.mem_append_right _ List.mem_cons_self
    | published copy reply =>
      cases opens
      exact List.mem_append_right _ List.mem_cons_self
    | enlisted new => cases opens
    | moved queued publishAt now moves unattempted => cases opens
    | removed queued => cases opens
    | concluded used entered => cases opens

/-- What the marks of a job show is counted by its stage, if every way adds to the count of the
stage what its mark shows. -/
theorem count {shown : Mark → Option Job} {measure : Stage → Nat}
    (named : ∀ mark copy, shown mark = some copy → copy.id = mark.subject)
    (start : measure .absent = 0)
    (grows : ∀ {past stage mark after}, Life inUse id past stage → stage.Next inUse mark after →
      measure after = measure stage + (shown mark).toList.length)
    (life : Life inUse id past stage) :
    (past.filterMap shown).countP (fun copy => copy.id = id) = measure stage := by
  induction life with
  | unborn => exact start.symm
  | @elsewhere past stage mark _ other inductionHypothesis =>
    rw [List.filterMap_append, List.countP_append, inductionHypothesis]
    cases shows : shown mark with
    | none => simp [shows]
    | some copy =>
      have elsewhere : copy.id ≠ id := named mark copy shows ▸ other
      simp [shows, elsewhere]
  | @next past stage after mark life own next inductionHypothesis =>
    rw [List.filterMap_append, List.countP_append, inductionHypothesis, grows life next]
    cases shows : shown mark with
    | none => simp [shows]
    | some copy =>
      have here : copy.id = id := (named mark copy shows).trans own
      simp [shows, here]

/-- A row that is not running, if there is one, rests. -/
theorem resting_of_row (life : Life inUse id past stage) {row : Job} (stored : stage.row = some row)
    (waits : row.status ≠ .running) : stage = .resting row := by
  have proper := life.proper
  cases stage with
  | absent => cases stored
  | resting own =>
    cases stored
    rfl
  | claimed copy =>
    cases stored
    exact absurd proper waits
  | answered copy reply =>
    cases stored
    exact absurd proper waits

/-- A mark of another job leaves the life where it is. -/
theorem pass (life : Life inUse id past stage) {mark : Option Mark}
    (other : ∀ left, mark = some left → left.subject ≠ id) :
    Life inUse id (past ++ mark.toList) stage := by
  cases mark with
  | none => simpa using life
  | some left => exact .elsewhere life (other left rfl)

/-- A turn of the row leads the life on. -/
theorem turn (life : Life inUse id past stage) {act : Act} {mark : Option Mark} {after : Option Job}
    (turn : Custody.Turn act mark stage.row after)
    (own : ∀ left, mark = some left → left.subject = id)
    (concludes : ∀ copy concluded, act = .conclude copy concluded → ∃ reply scheduler now,
      inUse scheduler ∧ stage = .answered copy reply ∧
        copy.change (scheduler.outcome copy reply now) = .ok concluded) :
    ∃ next, Life inUse id (past ++ mark.toList) next ∧ next.row = after ∧
      stage.Moves id mark (fun copy => ∃ concluded, act = .conclude copy concluded) next := by
  generalize before : stage.row = row at turn
  cases turn with
  | refused row entersNone =>
    exact ⟨stage, life.pass (by simp), before, .stay (by simp)⟩
  | enlisted new =>
    obtain rfl : stage = .absent := by
      cases stage with
      | absent => rfl
      | resting row => cases before
      | claimed copy => cases before
      | answered copy reply => cases before
    exact ⟨_, .next life (own _ rfl) (.enlisted new), rfl, ⟨by simp, by simp, by simp⟩⟩
  | claimed granted =>
    obtain rfl := life.resting_of_row before (Job.not_running_of_claim granted)
    exact ⟨_, .next life (own _ rfl) (.claimed granted), rfl, ⟨by simp, by simp, by simp⟩⟩
  | moved queued publishAt now moves unattempted =>
    obtain rfl := life.resting_of_row before (by simp [queued])
    exact ⟨_, .next life (own _ rfl) (.moved queued publishAt now moves unattempted), rfl,
      ⟨by simp, by simp, by simp⟩⟩
  | deleted queued =>
    obtain rfl := life.resting_of_row before (by simp [queued])
    exact ⟨_, .next life (own _ rfl) (.removed queued), rfl, ⟨by simp, by simp, by simp⟩⟩
  | @concluded copy concluded _ =>
    obtain ⟨reply, scheduler, now, used, rfl, entered⟩ := concludes copy concluded rfl
    refine ⟨_, .next life (own _ rfl) (.concluded used entered), rfl, ⟨by simp, by simp, ?_⟩⟩
    intro other otherReply same
    cases same
    exact Or.inr ⟨concluded, rfl⟩

/-- An allowed act leads the life of every job on, if the outcomes that it enters are those of
answered copies. -/
theorem act (life : Life inUse id past stage) {custody : Custody} (sound : custody.Sound)
    {act : Act} (allowed : custody.Allows act) (stored : custody.store.find id = stage.row)
    (concludes : ∀ copy concluded, act = .conclude copy concluded → concluded.id = id →
      ∃ reply scheduler now, inUse scheduler ∧ stage = .answered copy reply ∧
        copy.change (scheduler.outcome copy reply now) = .ok concluded) :
    ∃ next, Life inUse id (past ++ (act.mark? (custody.store.answer act.call).1).toList) next ∧
      (custody.after act).store.find id = next.row ∧
      stage.Moves id (act.mark? (custody.store.answer act.call).1)
        (fun copy => ∃ concluded, act = .conclude copy concluded) next := by
  by_cases about : act.subject = id
  · have turn := sound.turn allowed
    rw [about, stored] at turn
    obtain ⟨next, lives, row, moves⟩ := life.turn turn
      (fun left leaves => (sound.mark_subject leaves).trans about)
      (fun copy concluded concludesIt => concludes copy concluded concludesIt
        (by rw [← about, concludesIt]; rfl))
    exact ⟨next, lives, row.symm, moves⟩
  · have other : ∀ left, act.mark? (custody.store.answer act.call).1 = some left →
        left.subject ≠ id := by
      intro left leaves same
      exact about ((sound.mark_subject leaves).symm.trans same)
    refine ⟨stage, life.pass other, (custody.find_after_of_ne act about).trans stored, .stay ?_⟩
    intro copy own won
    exact other _ won own

end Life

end TimedPublishing
