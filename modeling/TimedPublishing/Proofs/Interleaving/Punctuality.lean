import TimedPublishing.Proofs.Interleaving.Publication
import TimedPublishing.Proofs.Interleaving.Versions

/-!
# Nothing is executed early

Time is read four times on the way of a job from the listing to the publisher, and the readings need
not agree. Two facts do not depend on their order. A program that calls the publisher has read the
clock right before, and that reading is not before the publish time of the very job it publishes,
whatever a store told it. And the store hands out no queued job before its time, so whoever finds a
row outside the queue finds one that left it in time, and whose publish time stayed as it was.
-/

open TimedPublishing.System (Event)

namespace TimedPublishing

namespace Scheduler

variable {scheduler : Scheduler} {said : Dialogue} {content : ContentId}

/-- An execution calls the publisher for its own job, right after a reading of the clock that is not
before the publish time. -/
theorem execute_punctual {job : Job} {resume : (Call.publish content).Reply → Program Execution}
    (leads : (scheduler.execute job).Leads said (.ask (.publish content) resume)) :
    content = job.content ∧ ∃ now, said = [.clock now] ∧ job.publishAt ≤ now := by
  have obeys := ((Operation.execute job).obeys scheduler).leads leads
  obtain ⟨earlier, copy, now, sameSaid, ⟨rfl, rfl⟩, sameContent, come⟩ := obeys.1
  exact ⟨sameContent.symm, now, sameSaid, come⟩

/-- A pass over the due jobs calls the publisher for the job that its last claim was answered with,
right after a reading of the clock that is not before the publish time. -/
theorem runDue_punctual {worker : WorkerId} {maxJobs : Nat}
    {resume : (Call.publish content).Reply → Program (List Execution)}
    (leads : (scheduler.runDue worker maxJobs).Leads said (.ask (.publish content) resume)) :
    ∃ earlier id owner instant job now,
      said = earlier ++ [.store (.claim id owner instant) (.ok (some job)), .clock now] ∧
      content = job.content ∧ job.publishAt ≤ now := by
  have obeys := ((Operation.runDue worker maxJobs).obeys scheduler).leads leads
  obtain ⟨before, job, now, sameSaid, ⟨earlier, id, owner, instant, rfl⟩, sameContent, come⟩ :=
    obeys.1
  exact ⟨earlier, id, owner, instant, job, now, by simpa using sameSaid, sameContent.symm, come⟩

end Scheduler

namespace Scene

/-- A queued job was claimed in the course of some events. -/
structure Claiming (events : List Event) (present : Scene) (id : JobId) where
  {earlier later : List Event}
  {index : Nat}
  {hand : Hand}
  {worker : WorkerId}
  {now : Instant}
  {course : Course}
  {former copy : Job}
  {before after : Scene}
  split : events = earlier ++
    .asked index hand (.claim id worker now) course (.ok (some copy)) :: later
  past : Run .initial earlier before
  step : before.Step (.asked index hand (.claim id worker now) course (.ok (some copy))) after
  since : Run after later present
  writes : course.writes = true
  found : before.store.find id = some former
  queued : former.status = .queued
  granted : former.claim worker now = .ok copy
  taken : after.store.find id = some copy

namespace Claiming

variable {events : List Event} {present : Scene} {id : JobId}

/-- A claim stays in the past of what goes on. -/
def snoc (claiming : Claiming events present id) {event : Event} {after : Scene}
    (step : present.Step event after) : Claiming (events ++ [event]) after id where
  split := (congrArg (fun whole => whole ++ [event]) claiming.split).trans (by simp)
  past := claiming.past
  step := claiming.step
  since := claiming.since.snoc step
  writes := claiming.writes
  found := claiming.found
  queued := claiming.queued
  granted := claiming.granted
  taken := claiming.taken

/-- The claim is one of the events. -/
theorem mem (claiming : Claiming events present id) :
    .asked claiming.index claiming.hand (.claim id claiming.worker claiming.now) claiming.course
      (.ok (some claiming.copy)) ∈ events := by
  have inside {whole earlier later : List Event} {event : Event}
      (split : whole = earlier ++ event :: later) : event ∈ whole :=
    split ▸ List.mem_append_right _ List.mem_cons_self
  exact inside claiming.split

end Claiming

/-- Every row outside the queue left it through a claim.

Proof: by induction on the run. A row that a step leaves outside the queue was there before, so the
claim is in the past, or was in the queue, and then the step is the claim. -/
theorem Run.claiming {events : List Event} {present : Scene} (run : Run .initial events present)
    {id : JobId} {row : Job} (stored : present.store.find id = some row)
    (left : row.status ≠ .queued) : Nonempty (Claiming events present id) := by
  induction run generalizing row with
  | none => cases stored
  | @snoc events scene after event past step inductionHypothesis =>
    have earlier {former : Job} (found : scene.store.find id = some former)
        (formerLeft : former.status ≠ .queued) : Nonempty (Claiming (events ++ [event]) after id) :=
      (inductionHypothesis found formerLeft).map fun claiming => claiming.snoc step
    rcases past.sound.row_step step id with
      same | ⟨index, hand, call, course, reply, rfl, reaches, about, turn⟩
    · exact earlier (same.symm.trans stored) left
    · rw [stored] at turn
      generalize found : scene.store.find id = former at turn
      cases turn with
      | enlisted new =>
        obtain ⟨content, publishAt, now, created⟩ := new
        rw [created] at left
        exact absurd rfl left
      | @claimed _ other worker now former copy granted =>
        by_cases queued : former.status = .queued
        · obtain rfl : other = id := Option.some.inj about
          exact ⟨⟨rfl, past, step, .none, reaches, found, queued, granted, stored⟩⟩
        · exact earlier found queued
      | moved _ moves => exact absurd (Job.queued_of_reschedule moves) left
      | concluded formerLeft _ _ => exact earlier found formerLeft

/-- No execution is early.

* Whatever a store, a publisher and a clock reply, an execution calls the publisher for its job only
  when the reading of the clock right before is not before the publish time of that job.
* The same holds of a pass over the due jobs, for the job that its last claim was answered with.
* In every interleaving over one store, every row outside the queue left it through a claim that was
  made with an instant not before its publish time, and that time has stayed since, as the row has
  stayed outside the queue.

Proof: the first two are read off the protocols, which every program obeys whatever it is replied. A
row is claimed when it is due, and from then on its intent is kept. -/
theorem Run.punctual {events : List Event} {present : Scene} (run : Run .initial events present) :
    (∀ (scheduler : Scheduler) (job : Job) (said : Dialogue) (content : ContentId)
        (resume : (Call.publish content).Reply → Program Execution),
      (scheduler.execute job).Leads said (.ask (.publish content) resume) →
        content = job.content ∧
          ∃ earlier now, said = earlier ++ [.clock now] ∧ job.publishAt ≤ now) ∧
    (∀ (scheduler : Scheduler) (worker : WorkerId) (maxJobs : Nat) (said : Dialogue)
        (content : ContentId) (resume : (Call.publish content).Reply → Program (List Execution)),
      (scheduler.runDue worker maxJobs).Leads said (.ask (.publish content) resume) →
        ∃ earlier id owner instant job now,
          said = earlier ++ [.store (.claim id owner instant) (.ok (some job)), .clock now] ∧
          content = job.content ∧ job.publishAt ≤ now) ∧
    ∀ id row, present.store.find id = some row → row.status ≠ .queued →
      ∃ claiming : Claiming events present id,
        claiming.former.publishAt ≤ claiming.now ∧ claiming.former.publishAt = row.publishAt ∧
        Throughout claiming.after claiming.later present fun store =>
          ∃ kept, store.find id = some kept ∧ kept.status ≠ .queued ∧
            kept.publishAt = row.publishAt := by
  refine ⟨?_, fun _ _ _ _ _ _ leads => Scheduler.runDue_punctual leads, ?_⟩
  · intro scheduler job said content resume leads
    obtain ⟨sameContent, now, rfl, come⟩ := Scheduler.execute_punctual leads
    exact ⟨sameContent, [], now, rfl, come⟩
  · intro id row stored left
    obtain ⟨claiming⟩ := run.claiming stored left
    obtain ⟨due, copied⟩ := Job.claim_eq_ok claiming.granted
    have come : claiming.former.publishAt ≤ claiming.now := by
      unfold Job.isDue at due
      simp only [Bool.and_eq_true, decide_eq_true_eq] at due
      exact due.1
    have sameTime : claiming.copy.publishAt = claiming.former.publishAt := by rw [copied]
    have running : claiming.copy.status ≠ .queued := by
      simp [Job.running_of_claim claiming.granted]
    have sound : claiming.after.Sound := claiming.past.sound.step claiming.step
    have kept {events : List Event} {scene : Scene} (since : Run claiming.after events scene) :
        ∃ kept, scene.store.find id = some kept ∧ kept.status ≠ .queued ∧
          kept.publishAt = claiming.copy.publishAt := by
      obtain ⟨kept, found, keptLeft, sameKey⟩ := sound.keeps since claiming.taken running
      exact ⟨kept, found, keptLeft, congrArg JobKey.publishAt sameKey⟩
    obtain ⟨own, found, _, ownTime⟩ := kept claiming.since
    obtain rfl : own = row := Option.some.inj (found.symm.trans stored)
    refine ⟨claiming, come, sameTime.symm.trans ownTime.symm, ?_⟩
    intro earlier later middle _ before _
    obtain ⟨kept, present, keptLeft, keptTime⟩ := kept before
    exact ⟨kept, present, keptLeft, keptTime.trans ownTime.symm⟩

/-- A job is scheduled and claimed. Its copy may then be executed, by itself or in a pass, and is
not before its time. -/
theorem Run.punctual_after_claim :
    let scheduler : Scheduler := ⟨.standard, .ofSeconds 0⟩
    let made : Job := .create ⟨1⟩ ⟨"post"⟩ .epoch .earliest
    let copy : Job := { made with state := .running ⟨"worker"⟩, updatedAt := .epoch }
    ∃ events present, Run .initial events present ∧ present.store.find ⟨1⟩ = some copy ∧
      copy.status ≠ .queued ∧
      (∃ claiming : Claiming events present ⟨1⟩, claiming.former.publishAt ≤ claiming.now) ∧
      (∃ said resume, (scheduler.execute copy).Leads said (.ask (.publish copy.content) resume) ∧
        ∃ earlier now, said = earlier ++ [.clock now] ∧ copy.publishAt ≤ now) ∧
      ∃ said resume,
        (scheduler.runDue ⟨"worker"⟩ 1).Leads said (.ask (.publish copy.content) resume) ∧
        ∃ earlier id owner instant job now,
          said = earlier ++ [.store (.claim id owner instant) (.ok (some job)), .clock now] ∧
          job.publishAt ≤ now := by
  intro scheduler made copy
  obtain ⟨events, issued, callers, run, _⟩ := System.Run.exists_handingOut .standard
  obtain ⟨noted, scene⟩ := run.scene []
  have left : copy.status ≠ .queued := by decide
  have punctual := Run.punctual scene
  obtain ⟨claiming, come, _⟩ := punctual.2.2 ⟨1⟩ copy rfl left
  have executes := @Program.Leads.snoc _ (scheduler.execute copy) [] .clock _ .none Instant.epoch
  obtain ⟨_, executed⟩ := punctual.1 scheduler copy _ _ _ executes
  have looks :=
    @Program.Leads.snoc _ (scheduler.runDue ⟨"worker"⟩ 1) [] .clock _ .none Instant.epoch
  have lists := @Program.Leads.snoc _ _ _ (.store (.listDue .epoch 1)) _ looks (.ok [made])
  have checks := @Program.Leads.snoc _ _ _ .clock _ lists Instant.epoch
  have claims := @Program.Leads.snoc _ _ _ (.store (.claim ⟨1⟩ ⟨"worker"⟩ .epoch)) _ checks
    (.ok (some copy))
  have drains := @Program.Leads.snoc _ _ _ .clock _ claims Instant.epoch
  obtain ⟨earlier, id, owner, instant, job, now, said, _, jobCome⟩ :=
    punctual.2.1 scheduler ⟨"worker"⟩ 1 _ _ _ drains
  exact ⟨events, _, scene, rfl, left, ⟨claiming, come⟩, ⟨_, _, executes, executed⟩, _, _, drains,
    earlier, id, owner, instant, job, now, said, jobCome⟩

end Scene

end TimedPublishing
