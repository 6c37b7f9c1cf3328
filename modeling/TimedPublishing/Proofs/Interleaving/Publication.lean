import TimedPublishing.Proofs.Interleaving.Histories

/-!
# An intent is published once

No store call ties a publication to the outcome that is saved for it, and a caller may stop in
between. That an intent is nevertheless published at most once rests on what a life allows: the
publisher is called once for a claim, and a job whose publisher said that it published is never
claimed again, whether or not the outcome was saved. Nor does another job take its place, since
a job that was claimed keeps its intent for good and an intent has one owner.
-/

namespace TimedPublishing

/-- The copy that a mark says was claimed. -/
def Mark.claim? : Mark → Option Job
  | claimed copy => some copy
  | _ => none

/-- The copy that a mark says was published. -/
def Mark.publication? : Mark → Option Job
  | published copy .published => some copy
  | _ => none

/-- The copies that claims took in a run, reported to their callers or not. -/
def claims (events : List System.Event) : List Job := (history events).filterMap Mark.claim?

/-- The copies that a run published. -/
def publications (events : List System.Event) : List Job :=
  (history events).filterMap Mark.publication?

/-- A mark of a claim is the mark of that copy. -/
theorem Mark.claim?_eq_some {mark : Mark} {copy : Job} (claims : mark.claim? = some copy) :
    mark = .claimed copy := by
  cases mark with
  | claimed own =>
    cases claims
    rfl
  | enlisted job => cases claims
  | moved job => cases claims
  | removed id => cases claims
  | published own reply => cases claims
  | concluded own concluded => cases claims

/-- A mark of a publication is the mark of that copy. -/
theorem Mark.publication?_eq_some {mark : Mark} {copy : Job}
    (publishes : mark.publication? = some copy) : mark = .published copy .published := by
  cases mark with
  | published own reply =>
    cases reply with
    | published =>
      cases publishes
      rfl
    | rejected reason => cases publishes
    | failed reason => cases publishes
    | crashed detail => cases publishes
  | enlisted job => cases publishes
  | moved job => cases publishes
  | removed id => cases publishes
  | claimed own => cases publishes
  | concluded own concluded => cases publishes

/-- How often a job was published by the time it is at a stage: once exactly if it has succeeded
or is about to. -/
def Stage.published : Stage → Nat
  | absent => 0
  | resting row => if row.status = .succeeded then 1 else 0
  | claimed _ => 0
  | answered _ reply => if reply = .published then 1 else 0

/-- No stage is reached by two publications. -/
theorem Stage.published_le_one (stage : Stage) : stage.published ≤ 1 := by
  unfold published
  cases stage with
  | absent => exact Nat.zero_le 1
  | resting row =>
    dsimp only
    split <;> omega
  | claimed copy => exact Nat.zero_le 1
  | answered copy reply =>
    dsimp only
    split <;> omega

/-- A job succeeds exactly by an answer that it was published. -/
theorem Scheduler.outcome_succeeded {scheduler : Scheduler} {copy concluded : Job}
    {reply : PublishReply} {now : Instant}
    (entered : copy.change (scheduler.outcome copy reply now) = .ok concluded) :
    concluded.status = .succeeded ↔ reply = .published := by
  rcases outcome_cases entered with
    ⟨published, succeeds⟩ | ⟨unpublished, _, _, _, waits⟩ | ⟨unpublished, _, _, fails⟩
  · obtain ⟨_, rfl⟩ := Job.conclude_eq_ok succeeds
    simp [published, Job.status, JobState.status]
  · obtain ⟨_, rfl⟩ := Job.conclude_eq_ok waits
    simp [unpublished, Job.status, JobState.status]
  · obtain ⟨_, rfl⟩ := Job.conclude_eq_ok fails
    simp [unpublished, Job.status, JobState.status]

namespace Stage.Next

variable {inUse : Scheduler → Prop} {stage after : Stage} {mark : Mark}

/-- A row that left the queue stays stored under its intent and does not return there. -/
theorem stays (next : stage.Next inUse mark after) {row : Job} (stored : stage.row = some row)
    (left : row.status ≠ .queued) :
    ∃ kept, after.row = some kept ∧ kept.key = row.key ∧ kept.status ≠ .queued := by
  cases next with
  | enlisted new => cases stored
  | moved queued publishAt now moves unattempted =>
    cases stored
    exact absurd queued left
  | removed queued =>
    cases stored
    exact absurd queued left
  | claimed granted =>
    cases stored
    obtain ⟨_, rfl⟩ := Job.claim_eq_ok granted
    exact ⟨_, rfl, rfl, by simp [Job.status, JobState.status]⟩
  | published copy reply => exact ⟨row, stored, rfl, left⟩
  | concluded used entered =>
    cases stored
    have concludes := Scheduler.outcome_concludes entered
    exact ⟨_, rfl, concludes.sameKey, concludes.moved_on.1⟩

/-- On every way a job is published as often as the mark says. -/
theorem published_count (next : stage.Next inUse mark after) :
    after.published = stage.published + mark.publication?.toList.length := by
  cases next with
  | enlisted new =>
    obtain ⟨content, publishAt, now, created⟩ := new
    rw [created]
    rfl
  | moved queued publishAt now moves unattempted =>
    simp [Stage.published, Mark.publication?, queued, Job.queued_of_reschedule moves]
  | removed queued => simp [Stage.published, Mark.publication?, queued]
  | @claimed row copy worker now granted =>
    have waits : row.status ≠ .succeeded := by
      intro succeeded
      have continues := Job.not_terminal_of_claim granted
      rw [succeeded] at continues
      cases continues
    simp [Stage.published, Mark.publication?, waits]
  | published copy reply =>
    cases reply <;> rfl
  | concluded used entered =>
    simp [Stage.published, Mark.publication?, Scheduler.outcome_succeeded entered]

end Stage.Next

namespace Life

variable {inUse : Scheduler → Prop} {id : JobId} {past : List Mark} {stage : Stage}

/-- A job that was ever claimed is stored for good, outside the queue and under the intent that
it was claimed with. -/
theorem keeps_intent (life : Life inUse id past stage) {copy : Job} (own : copy.id = id)
    (claimed : .claimed copy ∈ past) :
    ∃ row, stage.row = some row ∧ row.key = copy.key ∧ row.status ≠ .queued := by
  induction life with
  | unborn => cases claimed
  | elsewhere _ other inductionHypothesis =>
    rcases List.mem_append.mp claimed with before | last
    · exact inductionHypothesis before
    · rw [← List.mem_singleton.mp last] at other
      exact absurd own other
  | next _ _ next inductionHypothesis =>
    rcases List.mem_append.mp claimed with before | last
    · obtain ⟨row, stored, sameKey, left⟩ := inductionHypothesis before
      obtain ⟨kept, present, keptKey, stillLeft⟩ := next.stays stored left
      exact ⟨kept, present, keptKey.trans sameKey, stillLeft⟩
    · rw [← List.mem_singleton.mp last] at next
      cases next with
      | claimed granted =>
        exact ⟨copy, rfl, rfl, by simp [Job.running_of_claim granted]⟩

/-- A life tells how often its job was published. -/
theorem published_count (life : Life inUse id past stage) :
    (past.filterMap Mark.publication?).countP (fun copy => copy.id = id) = stage.published := by
  apply life.count
  · intro mark copy publishes
    rw [Mark.publication?_eq_some publishes]
    rfl
  · rfl
  · intro past stage mark after _ next
    exact next.published_count

/-- The publisher is called for claimed copies only. -/
theorem claimed_of_published (life : Life inUse id past stage) {copy : Job} {reply : PublishReply}
    (own : copy.id = id) (published : .published copy reply ∈ past) : .claimed copy ∈ past := by
  induction life with
  | unborn => cases published
  | elsewhere _ other inductionHypothesis =>
    rcases List.mem_append.mp published with before | last
    · exact List.mem_append_left _ (inductionHypothesis before)
    · rw [← List.mem_singleton.mp last] at other
      exact absurd own other
  | next life _ next inductionHypothesis =>
    rcases List.mem_append.mp published with before | last
    · exact List.mem_append_left _ (inductionHypothesis before)
    · rw [← List.mem_singleton.mp last] at next
      cases next with
      | published copy reply => exact List.mem_append_left _ (life.opened rfl)

end Life

namespace System

variable {events : List System.Event} {present : System}

/-- The publisher is called by callers that have a copy in hand, with its content. -/
theorem Run.published_hand (run : Run .initial events present) {index : Nat} {hand : Hand}
    {content : ContentId} {reply : PublishReply}
    (called : .published index hand content reply ∈ events) :
    ∃ copy, hand = .copy copy ∧ copy.content = content := by
  induction run with
  | none => cases called
  | snoc past step inductionHypothesis =>
    rcases List.mem_append.mp called with before | last
    · exact inductionHypothesis before
    · rw [← List.mem_singleton.mp last] at step
      obtain ⟨custody, backed⟩ := past.backed
      cases step with
      | publish found asks reply =>
        have follows := backed.follows found
        rw [asks] at follows
        exact follows.1

/-- Two claims of one intent are of one job: each keeps it, and an intent has one owner. -/
theorem Run.claims_sameId (run : Run .initial events present) {left right : Job}
    (leftClaimed : left ∈ claims events) (rightClaimed : right ∈ claims events)
    (sameKey : left.key = right.key) : left.id = right.id := by
  have stored : ∀ copy ∈ claims events,
      ∃ row, present.store.find copy.id = some row ∧ row.key = copy.key := by
    intro copy claimed
    obtain ⟨mark, member, claims⟩ := List.mem_filterMap.mp claimed
    rw [Mark.claim?_eq_some claims] at member
    obtain ⟨stage, life, fits⟩ := run.anyLife copy.id
    obtain ⟨row, present, key, _⟩ := life.keeps_intent rfl member
    exact ⟨row, fits.row.trans present, key⟩
  obtain ⟨custody, backed⟩ := run.backed
  obtain ⟨leftRow, leftFound, leftKey⟩ := stored left leftClaimed
  obtain ⟨rightRow, rightFound, rightKey⟩ := stored right rightClaimed
  rw [backed.sameStore] at leftFound rightFound
  exact backed.sound.indexed.unique leftFound rightFound
    (leftKey.trans (sameKey.trans rightKey.symm))

/-- Every copy that was published was claimed. -/
theorem Run.published_claimed (run : Run .initial events present) {copy : Job}
    {reply : PublishReply} (published : .published copy reply ∈ history events) :
    copy ∈ claims events := by
  obtain ⟨stage, life, _⟩ := run.anyLife copy.id
  exact List.mem_filterMap.mpr ⟨.claimed copy, life.claimed_of_published rfl published, rfl⟩

/-- There is a run in which a job is scheduled and claimed, and its copy is handed out. -/
theorem Run.exists_handingOut (policy : RetryPolicy) :
    let scheduler : Scheduler := ⟨policy, .ofSeconds 0⟩
    let made : Job := .create ⟨1⟩ ⟨"post"⟩ .epoch .earliest
    let copy : Job := { made with state := .running ⟨"worker"⟩, updatedAt := .epoch }
    ∃ events issued callers,
      Run .initial events ⟨(Store.empty.write made).withRow ⟨1⟩ copy, issued, [copy], callers⟩ ∧
        callers 1 = Option.none ∧
        settingsInUse events = [scheduler, scheduler] := by
  intro scheduler made copy
  have sorted : inListingOrder [made] = [made] := List.mergeSort_singleton made
  have due : ((Store.empty.write made).answer (.listDue .epoch 1)).1 = .ok [made] := by
    change Except.ok ((inListingOrder [made]).take 1) = _
    rw [sorted]
    rfl
  have schedules := Run.none.snoc
    (@Step.begin .initial 0 scheduler (.schedule ⟨"post"⟩ .epoch) rfl (by simp))
  have future := schedules.snoc (@Step.look _ 0 _ _ rfl rfl .earliest)
  have absent := future.snoc (@Step.ask _ 0 _ _ _ rfl rfl .regular)
  have dated := absent.snoc (@Step.look _ 0 _ _ rfl rfl .earliest)
  have named := dated.snoc (@Step.name _ 0 _ _ rfl rfl ⟨1⟩ List.not_mem_nil)
  have saves := named.snoc (@Step.ask _ 0 _ _ _ rfl rfl .regular)
  have saved : Run .initial _ ⟨Store.empty.write made, [⟨1⟩], [], _⟩ := saves
  have claims := saved.snoc (@Step.begin _ 1 scheduler (.claimNext ⟨"worker"⟩) rfl (by simp))
  have looked := claims.snoc (@Step.look _ 1 _ _ rfl rfl .epoch)
  have listed := looked.snoc (@Step.answered _ 1 _ _ _ rfl rfl .regular _ due)
  have come := listed.snoc (@Step.look _ 1 _ _ rfl rfl .epoch)
  have won := come.snoc (@Step.ask _ 1 _ _ _ rfl rfl .regular)
  have ended := won.snoc (@Step.finish _ 1 _ _ rfl rfl)
  exact ⟨_, _, _, ended, rfl, rfl⟩

/-- In every interleaving of callers, whatever clocks and publishers reply and whichever requests
to the store fail, and whether they wrote: the jobs that are claimed for one intent are one job,
and the publisher answers at most once that it published for that intent. Every call of the
publisher is counted, for each is for a copy that a claim took, with the content of its intent.

Proof: a job that was claimed keeps its intent, so the claims of one intent are of its one
owner. Publications of an intent are therefore publications of one job, and a life has at most
one. -/
theorem Run.intent_published_once (run : Run .initial events present) :
    (∀ left ∈ claims events, ∀ right ∈ claims events, left.key = right.key → left.id = right.id) ∧
      (∀ key, (publications events).countP (fun copy => copy.key = key) ≤ 1) ∧
      ∀ index hand content reply, .published index hand content reply ∈ events →
        ∃ copy ∈ claims events, hand = .copy copy ∧ copy.content = content := by
  have claimed : ∀ copy ∈ publications events, copy ∈ claims events := by
    intro copy published
    obtain ⟨mark, member, publishes⟩ := List.mem_filterMap.mp published
    rw [Mark.publication?_eq_some publishes] at member
    exact run.published_claimed member
  refine ⟨fun left leftClaimed right rightClaimed => run.claims_sameId leftClaimed rightClaimed,
    ?_, ?_⟩
  · intro key
    rcases Nat.eq_zero_or_pos ((publications events).countP (fun copy => copy.key = key)) with
      none | some
    · exact none ▸ Nat.zero_le 1
    · obtain ⟨copy, published, own⟩ := List.countP_pos_iff.mp some
      have sameId : ∀ other ∈ publications events,
          decide (other.key = key) = true → decide (other.id = copy.id) = true := by
        intro other otherPublished otherOwn
        have keys : other.key = copy.key :=
          (of_decide_eq_true otherOwn).trans (of_decide_eq_true own).symm
        exact decide_eq_true
          (run.claims_sameId (claimed other otherPublished) (claimed copy published) keys)
      obtain ⟨stage, life, _⟩ := run.anyLife copy.id
      calc (publications events).countP (fun other => other.key = key)
          ≤ (publications events).countP (fun other => other.id = copy.id) :=
            List.countP_mono_left sameId
        _ = stage.published := life.published_count
        _ ≤ 1 := stage.published_le_one
  · intro index hand content reply called
    obtain ⟨copy, inHand, sameContent⟩ := run.published_hand called
    refine ⟨copy, ?_, inHand, sameContent⟩
    subst inHand
    exact run.published_claimed (List.mem_filterMap.mpr ⟨_, called, rfl⟩)

/-- A job is scheduled, claimed and published. -/
theorem Run.intent_published_once_after_claim :
    let made : Job := .create ⟨1⟩ ⟨"post"⟩ .epoch .earliest
    let copy : Job := { made with state := .running ⟨"worker"⟩, updatedAt := .epoch }
    ∃ events present, Run .initial events present ∧ copy ∈ publications events ∧
      (publications events).countP (fun other => other.key = copy.key) ≤ 1 := by
  intro made copy
  obtain ⟨_, _, _, claimed, idle, _⟩ := Run.exists_handingOut .standard
  have handedOut : ∀ taken, Operation.execute copy = .execute taken → taken ∈ [copy] := by
    rintro _ ⟨⟩
    exact List.mem_cons_self
  have executes := claimed.snoc
    (@Step.begin _ 1 ⟨.standard, .ofSeconds 0⟩ (.execute copy) idle handedOut)
  have checked := executes.snoc (@Step.look _ 1 _ _ rfl rfl .epoch)
  have run := checked.snoc (@Step.publish _ 1 _ _ _ rfl rfl .published)
  refine ⟨_, _, run, ?_, run.intent_published_once.2.1 copy.key⟩
  refine List.mem_filterMap.mpr ⟨.published copy .published, ?_, rfl⟩
  exact List.mem_filterMap.mpr ⟨_, List.mem_append_right _ List.mem_cons_self, rfl⟩

end System

end TimedPublishing
