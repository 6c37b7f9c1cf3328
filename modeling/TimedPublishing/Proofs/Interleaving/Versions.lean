import TimedPublishing.Proofs.Interleaving.Scenes

/-!
# What callers make of a row

However copies are kept, passed on and executed again, a row goes one way only. It is queued when
its job is made, may be moved or removed as long as it is queued, and leaves the queue by a claim.
From then on it stays stored under the intent that it was claimed with. `Scene.Turn` lists what one
request can make of one row, and every other row stays.

The invariant `Scene.Sound` carries this. Every version that was ever stored outside the queue tells
that its job is still stored, outside the queue and under the same intent, so whoever saves an
outcome of a running copy, however old, saves it over a row of that kind. Names are what keeps new
jobs away from old ones: whoever has a new name in hand has it alone.
-/

open TimedPublishing.System (Event)

namespace TimedPublishing

/-- The claimed copy that a hand has, before and after its publication. -/
def Hand.copy? : Hand → Option Job
  | copy job => some job
  | answered job _ => some job
  | _ => none

namespace Scene

/-- What a request can make of the row of its job, with the reply to it, by what its caller has in
hand. -/
inductive Turn : Hand → (call : StoreCall) → call.Reply → Option Job → Option Job → Prop
  | enlisted {job : Job}
      (new : ∃ content publishAt now, job = .create job.id content publishAt now) :
      Turn (.name job.id) (.save job) (.ok job) none (some job)
  | claimed {hand : Hand} {id : JobId} {worker : WorkerId} {now : Instant} {row copy : Job}
      (granted : row.claim worker now = .ok copy) :
      Turn hand (.claim id worker now) (.ok (some copy)) (some row) (some copy)
  | moved {row version moved : Job} (queued : row.status = .queued) {publishAt now : Instant}
      (moves : version.reschedule publishAt now = .ok moved) :
      Turn (.read version) (.updateIfQueued moved) (.ok (some moved)) (some row) (some moved)
  | deleted {hand : Hand} {id : JobId} {row : Job} (queued : row.status = .queued) :
      Turn hand (.delete id) (.ok true) (some row) none
  | concluded {row copy concluded : Job} {reply : PublishReply} (left : row.status ≠ .queued)
      (sameKey : concluded.key = row.key) (concludes : copy.Concludes concluded) :
      Turn (.answered copy reply) (.save concluded) (.ok concluded) (some row) (some concluded)

/-- A row that left the queue stays stored under its intent and does not return there, whatever
request is about it. -/
theorem Turn.stays {hand : Hand} {call : StoreCall} {reply : call.Reply} {row : Job}
    {after : Option Job} (turn : Turn hand call reply (some row) after)
    (left : row.status ≠ .queued) :
    ∃ kept, after = some kept ∧ kept.status ≠ .queued ∧ kept.key = row.key := by
  cases turn with
  | claimed granted =>
    obtain ⟨_, rfl⟩ := Job.claim_eq_ok granted
    exact ⟨_, rfl, by simp [Job.status, JobState.status], rfl⟩
  | moved queued moves => exact absurd queued left
  | deleted queued => exact absurd queued left
  | concluded _ sameKey concludes => exact ⟨_, rfl, concludes.moved_on.1, sameKey⟩

/-- A step is a request that makes a turn of a row. -/
def Turned (scene : Scene) (event : Event) (id : JobId) (after : Option Job) : Prop :=
  ∃ index hand call course reply, event = .asked index hand call course reply ∧
    course.writes = true ∧ call.subject? = some id ∧
    Turn hand call reply (scene.store.find id) after

/-- What holds in a scene, however its callers acted. -/
structure Sound (scene : Scene) : Prop where
  indexed : scene.store.Indexed
  noted : ∀ {id row}, scene.store.find id = some row → row ∈ scene.versions
  issued : ∀ version ∈ scene.versions, version.id ∈ scene.system.issued
  /-- A job that left the queue is stored for good, outside the queue and under its intent. -/
  settled : ∀ version ∈ scene.versions, version.status ≠ .queued →
    ∃ row, scene.store.find version.id = some row ∧ row.status ≠ .queued ∧ row.key = version.key
  said : ∀ {index caller}, scene.system.callers index = some caller → ∃ said, caller.Said said
  copies : ∀ {index caller copy}, scene.system.callers index = some caller →
    caller.hand.copy? = some copy → copy.status = .running → copy ∈ scene.versions
  handedOut : ∀ copy ∈ scene.system.handedOut, copy.status = .running → copy ∈ scene.versions
  /-- A name in hand is of no job yet. -/
  named : ∀ {index caller id}, scene.system.callers index = some caller →
    caller.hand = .name id → id ∈ scene.system.issued ∧ ∀ version ∈ scene.versions, version.id ≠ id
  /-- A name is in one hand only. -/
  alone : ∀ {left right leftCaller rightCaller id}, scene.system.callers left = some leftCaller →
    scene.system.callers right = some rightCaller → leftCaller.hand = .name id →
    rightCaller.hand = .name id → left = right

namespace Sound

variable {scene after : Scene} {event : Event}

/-- Nothing was ever stored, and nobody is there. -/
theorem initial : Scene.initial.Sound where
  indexed := Store.Indexed.empty
  noted := by
    intro id row absent
    cases absent
  issued := by simp [Scene.initial]
  settled := by simp [Scene.initial]
  said := by
    intro index caller absent
    cases absent
  copies := by
    intro index caller copy absent
    cases absent
  handedOut := by simp [Scene.initial, System.initial]
  named := by
    intro index caller id absent
    cases absent
  alone := by
    intro left right leftCaller rightCaller id absent
    cases absent

/-- A row has the name that it is stored under. -/
theorem id_of_find (sound : scene.Sound) {id : JobId} {row : Job}
    (found : scene.store.find id = some row) : row.id = id :=
  sound.indexed.named id row found

/-- Nothing is stored under a name that is in some hand. -/
theorem find_of_named (sound : scene.Sound) {index : Nat} {caller : Caller} {id : JobId}
    (found : scene.system.callers index = some caller) (named : caller.hand = .name id) :
    scene.store.find id = none := by
  cases stored : scene.store.find id with
  | none => rfl
  | some row =>
    exact absurd (sound.id_of_find stored) ((sound.named found named).2 row (sound.noted stored))

/-- What a caller asks of the store is right with what it has in hand. -/
theorem permitted (sound : scene.Sound) {index : Nat} {caller : Caller} {call : Call}
    {resume : call.Reply → Program caller.operation.Result}
    (found : scene.system.callers index = some caller) (asks : caller.left = .ask call resume) :
    caller.hand.Permits caller.scheduler call := by
  obtain ⟨said, speaks⟩ := sound.said found
  exact speaks.permitted asks

/-- A save that is granted enlists a new job, or enters the outcome of an attempt over a row that
left the queue. -/
theorem saved_turn (sound : scene.Sound) {index : Nat} {caller : Caller} {job : Job}
    (found : scene.system.callers index = some caller)
    (permitted : caller.hand.Permits caller.scheduler (.store (.save job))) :
    Turn caller.hand (.save job) (.ok job) (scene.store.find job.id) (some job) := by
  rcases permitted with
    ⟨content, publishAt, now, named, new⟩ | ⟨copy, reply, now, answered, entered⟩
  · rw [sound.find_of_named found named, named]
    exact .enlisted ⟨content, publishAt, now, new⟩
  · have concludes := Scheduler.outcome_concludes entered
    have known := sound.copies found (congrArg Hand.copy? answered) concludes.running
    obtain ⟨row, stored, left, sameKey⟩ := sound.settled copy known (by simp [concludes.running])
    rw [concludes.sameId, stored, answered]
    exact .concluded left (concludes.sameKey.trans sameKey.symm) concludes

/-- A request that is granted makes a turn of the row of its job. Every other row stays. -/
theorem granted_turn (sound : scene.Sound) {index : Nat} {caller : Caller} {call : StoreCall}
    {reply : call.Reply} {left : Store} (found : scene.system.callers index = some caller)
    (permitted : caller.hand.Permits caller.scheduler (.store call))
    (grants : scene.store.Grants call reply left) (id : JobId) :
    left.find id = scene.store.find id ∨
      (call.subject? = some id ∧
        Turn caller.hand call reply (scene.store.find id) (left.find id)) := by
  by_cases about : call.subject? = some id
  case neg => exact Or.inl (grants.find_of_ne about)
  refine Or.inr ⟨about, ?_⟩
  cases grants with
  | saved unended admits =>
    cases about
    rw [Store.find_write, if_pos rfl]
    exact sound.saved_turn found permitted
  | moved waits admits =>
    cases about
    obtain ⟨version, publishAt, now, read, moves⟩ := permitted
    obtain ⟨row, stored, queued⟩ := waits
    rw [Store.find_write, if_pos rfl, stored, read]
    exact .moved queued moves
  | deleted stored queued =>
    cases about
    rw [Store.find_without, if_pos rfl, stored]
    exact .deleted queued
  | claimed stored granted =>
    cases about
    rw [Store.find_withRow, if_pos rfl, stored]
    exact .claimed granted

/-- A step leaves a row as it is, or is a request that makes a turn of it. -/
theorem row_step (sound : scene.Sound) (step : scene.Step event after) (id : JobId) :
    after.store.find id = scene.store.find id ∨
      scene.Turned event id (after.store.find id) := by
  rcases step.store_cases with
    same | ⟨index, caller, call, resume, course, found, asks, rfl, reaches, left⟩
  · exact Or.inl (by rw [same])
  · rw [left]
    rcases scene.store.answer_cases call with ⟨_, kept, _⟩ | ⟨reply, _, changed, _, grants⟩
    · exact Or.inl (by rw [kept])
    · rw [changed]
      rcases sound.granted_turn found (sound.permitted found asks) grants id with
        same | ⟨about, turn⟩
      · exact Or.inl same
      · exact Or.inr ⟨index, _, call, course, _, rfl, reaches, about, turn⟩

/-- A row that left the queue is still there after a step, outside the queue and under its
intent. -/
theorem stays (sound : scene.Sound) (step : scene.Step event after) {id : JobId} {row : Job}
    (stored : scene.store.find id = some row) (left : row.status ≠ .queued) :
    ∃ kept, after.store.find id = some kept ∧ kept.status ≠ .queued ∧ kept.key = row.key := by
  rcases sound.row_step step id with same | ⟨_, _, _, _, _, _, _, _, turn⟩
  · exact ⟨row, same.trans stored, left, rfl⟩
  · rw [stored] at turn
    exact turn.stays left

/-- The tables correspond after a step. -/
theorem indexed_step (sound : scene.Sound) (step : scene.Step event after) :
    after.store.Indexed := by
  rcases step.store_cases with same | ⟨_, _, call, _, _, _, _, _, _, left⟩
  · exact same ▸ sound.indexed
  · exact left ▸ sound.indexed.answer call

/-- A version that is noted after a step is of a job that was known before, or the step is a
request to save it under a name in hand. -/
theorem version_step (sound : scene.Sound) (step : scene.Step event after) {version : Job}
    (noted : version ∈ after.versions) :
    (∃ former ∈ scene.versions, former.id = version.id) ∨
      ∃ index course reply,
        event = .asked index (.name version.id) (.save version) course reply := by
  rcases step.mem_versions noted with before | ⟨id, found⟩
  · exact Or.inl ⟨version, before, rfl⟩
  · have own : version.id = id := (sound.indexed_step step).named id version found
    have known {row : Job} (stored : scene.store.find id = some row) :
        ∃ former ∈ scene.versions, former.id = version.id :=
      ⟨row, sound.noted stored, (sound.id_of_find stored).trans own.symm⟩
    rcases sound.row_step step id with same | ⟨index, hand, call, course, reply, rfl, _, _, turn⟩
    · exact Or.inl (known (same.symm.trans found))
    · rw [found] at turn
      cases stored : scene.store.find id with
      | some row => exact Or.inl (known stored)
      | none =>
        rw [stored] at turn
        cases turn with
        | enlisted new => exact Or.inr ⟨index, course, _, rfl⟩

/-- A version outside the queue tells after a step, too, that its job is stored outside the queue
and under its intent. -/
theorem settled_step (sound : scene.Sound) (step : scene.Step event after) {version : Job}
    (noted : version ∈ after.versions) (left : version.status ≠ .queued) :
    ∃ row, after.store.find version.id = some row ∧ row.status ≠ .queued ∧
      row.key = version.key := by
  rcases step.mem_versions noted with before | ⟨id, found⟩
  · obtain ⟨row, stored, rowLeft, sameKey⟩ := sound.settled version before left
    obtain ⟨kept, present, keptLeft, keptKey⟩ := sound.stays step stored rowLeft
    exact ⟨kept, present, keptLeft, keptKey.trans sameKey⟩
  · have own : version.id = id := (sound.indexed_step step).named id version found
    exact ⟨version, own.symm ▸ found, left, rfl⟩

end Sound

/-- How a caller came by what it has in hand after a step. -/
inductive Comes (scene : Scene) (event : Event) (after : Scene) (index : Nat) : Hand → Prop
  | kept {former : Caller} (found : scene.system.callers index = some former)
      (unsaved : ∀ hand job course reply, event ≠ .asked index hand (.save job) course reply) :
      Comes scene event after index former.hand
  | named {id : JobId} (given : event = .named index id) (fresh : id ∉ scene.system.issued)
      (issued : id ∈ after.system.issued) : Comes scene event after index (.name id)
  | answered {former : Caller} {copy : Job} (found : scene.system.callers index = some former)
      (inHand : former.hand = .copy copy) (reply : PublishReply) :
      Comes scene event after index (.answered copy reply)
  | taken {copy : Job} (known : copy.status = .running → copy ∈ after.versions) :
      Comes scene event after index (.copy copy)
  | read (version : Job) : Comes scene event after index (.read version)
  | emptied : Comes scene event after index .empty

namespace Sound

variable {scene after : Scene} {event : Event}

/-- A caller that begins has nothing in hand, or the copy that it is to execute. -/
theorem comes_of_start (scheduler : Scheduler) {operation : Operation} {index : Nat}
    (known : ∀ copy, operation = .execute copy → copy.status = .running → copy ∈ after.versions) :
    scene.Comes event after index (Caller.start scheduler operation).hand := by
  change scene.Comes event after index (Hand.initial operation)
  rcases Hand.initial_cases operation with emptied | ⟨copy, executes, inHand⟩
  · rw [emptied]
    exact .emptied
  · rw [inHand]
    exact .taken (known copy executes)

/-- What a caller has in hand after its request to the store was there before, or comes of it. -/
theorem comes_of_ask {index : Nat} {caller : Caller} {call : StoreCall} {course : Course}
    (found : scene.system.callers index = some caller)
    (shown : ∀ {id row}, (course.store scene.store (scene.store.answer call).2).find id = some row →
      row ∈ after.versions) :
    scene.Comes (.asked index caller.hand call course (scene.store.answer call).1) after index
      (caller.hand.next (.store call) (course.reply (scene.store.answer call).1)) := by
  rcases caller.hand.next_cases scene.store call course with
    emptied | ⟨same, unsaved⟩ | ⟨_, version, _, read⟩ |
      ⟨id, worker, now, copy, rfl, rfl, won, taken⟩
  · rw [emptied]
    exact .emptied
  · rw [same]
    refine .kept found ?_
    rintro hand job own reply ⟨⟩
    exact unsaved job rfl
  · rw [read]
    exact .read version
  · rw [taken]
    obtain ⟨_, _, _, copied⟩ := Store.row_of_claimed (congrArg Except.ok won)
    exact .taken fun _ => shown copied

/-- What anyone has in hand after a step was there before, or comes of the step. -/
theorem comes (sound : scene.Sound) (step : scene.Step event after) {index : Nat} {caller : Caller}
    (present : after.system.callers index = some caller) :
    scene.Comes event after index caller.hand := by
  by_cases own : event.caller = index
  case neg =>
    refine .kept ((step.callers_of_ne own).symm.trans present) ?_
    rintro hand job course reply rfl
    exact own rfl
  subst own
  have subset := step.versions_subset
  have shown {id : JobId} {row : Job} (found : after.store.find id = some row) :
      row ∈ after.versions := step.noted found
  cases step with
  | again idle known =>
    cases (System.callers_put _ _ _).symm.trans present
    apply comes_of_start
    rintro _ ⟨⟩ running
    exact subset _ (known running)
  | usual step =>
    cases step with
    | begin idle taken =>
      cases (System.callers_put _ _ _).symm.trans present
      apply comes_of_start
      intro copy executes running
      exact subset _ (sound.handedOut copy (taken copy executes) running)
    | @look _ former _ found asks now =>
      cases (System.callers_put _ _ _).symm.trans present
      exact @Comes.kept _ _ _ _ former found (by simp)
    | name found asks fresh =>
      cases (System.callers_put _ _ _).symm.trans present
      exact .named rfl fresh List.mem_cons_self
    | @publish _ former content _ found asks reply =>
      cases (System.callers_put _ _ _).symm.trans present
      obtain ⟨copy, inHand, _⟩ := sound.permitted found asks
      have answered : former.hand.next (.publish content) reply = .answered copy reply := by
        rw [inHand]
        rfl
      change scene.Comes _ _ _ (former.hand.next (.publish content) reply)
      rw [answered]
      exact .answered found inHand reply
    | ask found asks course =>
      cases (System.callers_put _ _ _).symm.trans present
      exact comes_of_ask found shown
    | finish found done => cases (System.callers_put _ _ _).symm.trans present
    | fail found failed => cases (System.callers_put _ _ _).symm.trans present

/-- Every caller is where a dialogue has led it after a step. -/
theorem said_step (sound : scene.Sound) (step : scene.Step event after) {index : Nat}
    {caller : Caller} (present : after.system.callers index = some caller) :
    ∃ said, caller.Said said := by
  by_cases own : event.caller = index
  · cases found : scene.system.callers index with
    | some former =>
      obtain ⟨said, speaks⟩ := sound.said found
      rcases step.speaks own found with ⟨outcome, rfl⟩ | ⟨call, resume, reply, _, asks, resumed⟩
      · rw [step.callers_of_ended] at present
        cases present
      · cases resumed.symm.trans present
        exact ⟨_, speaks.resumed asks reply⟩
    | none =>
      obtain ⟨scheduler, operation, rfl⟩ := step.began_of_idle own found
      cases step.callers_of_began.symm.trans present
      exact ⟨[], .start scheduler operation⟩
  · exact sound.said ((step.callers_of_ne own).symm.trans present)

/-- What is handed out after a step is known, too. -/
theorem handedOut_step (sound : scene.Sound) (step : scene.Step event after) :
    ∀ copy ∈ after.system.handedOut, copy.status = .running → copy ∈ after.versions := by
  intro copy handed running
  apply step.versions_subset
  cases step with
  | again idle known => exact sound.handedOut copy handed running
  | usual step =>
    cases step with
    | @begin index scheduler operation idle taken =>
      exact sound.handedOut copy ((operation.leaves_sublist _).subset handed) running
    | look found asks now => exact sound.handedOut copy handed running
    | name found asks fresh => exact sound.handedOut copy handed running
    | publish found asks reply => exact sound.handedOut copy handed running
    | ask found asks course => exact sound.handedOut copy handed running
    | fail found failed => exact sound.handedOut copy handed running
    | @finish index caller value found done =>
      rcases List.mem_append.mp handed with new | before
      · obtain ⟨said, speaks⟩ := sound.said found
        have ends := speaks.ends done
        rcases Operation.handsOut_cases ends with none | ⟨own, inHand, one⟩
        · rw [none] at new
          cases new
        · rw [one, List.mem_singleton] at new
          subst new
          exact sound.copies found (congrArg Hand.copy? inHand) running
      · exact sound.handedOut copy before running

/-- A name in hand after a step is of no job, and nobody else has it in hand. -/
theorem named_step (sound : scene.Sound) (step : scene.Step event after) {index : Nat}
    {caller : Caller} (present : after.system.callers index = some caller) {id : JobId}
    (named : caller.hand = .name id) :
    id ∈ after.system.issued ∧ ∀ version ∈ after.versions, version.id ≠ id := by
  have comes := sound.comes step present
  generalize inHand : caller.hand = hand at comes
  cases comes with
  | @kept former found unsaved =>
    have before : former.hand = .name id := inHand.symm.trans named
    obtain ⟨issued, unused⟩ := sound.named found before
    refine ⟨step.issued_subset id issued, ?_⟩
    rintro version noted rfl
    rcases sound.version_step step noted with ⟨other, known, same⟩ | ⟨saver, course, reply, rfl⟩
    · exact unused other known same
    · obtain ⟨own, _, present, _, saves, _⟩ := step.asked
      obtain rfl := sound.alone present found saves before
      exact unsaved _ version course reply rfl
  | named given fresh issued =>
    cases inHand.symm.trans named
    refine ⟨issued, ?_⟩
    rintro version noted rfl
    rcases sound.version_step step noted with ⟨other, known, same⟩ | ⟨saver, course, reply, saves⟩
    · exact fresh (same ▸ sound.issued other known)
    · cases given.symm.trans saves
  | answered found copied reply => cases inHand.symm.trans named
  | taken known => cases inHand.symm.trans named
  | read version => cases inHand.symm.trans named
  | emptied => cases inHand.symm.trans named

/-- The copies in hand after a step are of versions that were stored. -/
theorem copies_step (sound : scene.Sound) (step : scene.Step event after) {index : Nat}
    {caller : Caller} (present : after.system.callers index = some caller) {copy : Job}
    (holds : caller.hand.copy? = some copy) (running : copy.status = .running) :
    copy ∈ after.versions := by
  have comes := sound.comes step present
  generalize caller.hand = hand at comes holds
  cases comes with
  | kept found unsaved => exact step.versions_subset copy (sound.copies found holds running)
  | named given fresh issued => cases holds
  | answered found inHand reply =>
    cases holds
    exact step.versions_subset _ (sound.copies found (congrArg Hand.copy? inHand) running)
  | taken known =>
    cases holds
    exact known running
  | read version => cases holds
  | emptied => cases holds

/-- A name stays in one hand only. -/
theorem alone_step (sound : scene.Sound) (step : scene.Step event after) {left right : Nat}
    {leftCaller rightCaller : Caller} {id : JobId}
    (leftPresent : after.system.callers left = some leftCaller)
    (rightPresent : after.system.callers right = some rightCaller)
    (leftNamed : leftCaller.hand = .name id) (rightNamed : rightCaller.hand = .name id) :
    left = right := by
  have origin {index : Nat} {caller : Caller}
      (present : after.system.callers index = some caller) (named : caller.hand = .name id) :
      (∃ former, scene.system.callers index = some former ∧ former.hand = .name id) ∨
        (event = .named index id ∧ id ∉ scene.system.issued) := by
    have comes := sound.comes step present
    generalize inHand : caller.hand = hand at comes
    cases comes with
    | kept found unsaved => exact Or.inl ⟨_, found, inHand.symm.trans named⟩
    | named given fresh issued =>
      cases inHand.symm.trans named
      exact Or.inr ⟨given, fresh⟩
    | answered found copied reply => cases inHand.symm.trans named
    | taken known => cases inHand.symm.trans named
    | read version => cases inHand.symm.trans named
    | emptied => cases inHand.symm.trans named
  rcases origin leftPresent leftNamed with ⟨leftFormer, leftFound, leftBefore⟩ | ⟨leftGiven, fresh⟩
  · rcases origin rightPresent rightNamed with
      ⟨rightFormer, rightFound, rightBefore⟩ | ⟨rightGiven, fresh⟩
    · exact sound.alone leftFound rightFound leftBefore rightBefore
    · exact absurd (sound.named leftFound leftBefore).1 fresh
  · rcases origin rightPresent rightNamed with
      ⟨rightFormer, rightFound, rightBefore⟩ | ⟨rightGiven, _⟩
    · exact absurd (sound.named rightFound rightBefore).1 fresh
    · cases leftGiven.symm.trans rightGiven
      rfl

/-- The invariant survives every step. -/
theorem step (sound : scene.Sound) (step : scene.Step event after) : after.Sound where
  indexed := sound.indexed_step step
  noted := step.noted
  issued := by
    intro version noted
    rcases sound.version_step step noted with ⟨former, known, same⟩ | ⟨index, course, reply, rfl⟩
    · exact same ▸ step.issued_subset former.id (sound.issued former known)
    · obtain ⟨caller, _, found, _, named, _⟩ := step.asked
      exact step.issued_subset version.id (sound.named found named).1
  settled := fun version => sound.settled_step step
  said := sound.said_step step
  copies := fun present holds => sound.copies_step step present holds
  handedOut := sound.handedOut_step step
  named := fun present inHand => sound.named_step step present inHand
  alone := sound.alone_step step

/-- The invariant survives every run. -/
theorem run (sound : scene.Sound) {events : List Event} (run : Run scene events after) :
    after.Sound := by
  induction run with
  | none => exact sound
  | snoc _ step inductionHypothesis => exact inductionHypothesis.step step

/-- A row that left the queue stays for good, outside the queue and under its intent. -/
theorem keeps (sound : scene.Sound) {events : List Event} (run : Run scene events after)
    {id : JobId} {row : Job} (stored : scene.store.find id = some row)
    (left : row.status ≠ .queued) :
    ∃ kept, after.store.find id = some kept ∧ kept.status ≠ .queued ∧ kept.key = row.key := by
  obtain ⟨kept, present, stillLeft, sameKey⟩ := (sound.run run).settled row
    (run.versions_subset row (sound.noted stored)) left
  exact ⟨kept, sound.id_of_find stored ▸ present, stillLeft, sameKey⟩

/-- A job that was ever stored and is not queued is not queued again. -/
theorem never_requeued (sound : scene.Sound) {events : List Event} (run : Run scene events after)
    {version : Job} (known : version ∈ scene.versions) (left : ¬ scene.store.Queued version.id) :
    ¬ after.store.Queued version.id := by
  induction run with
  | none => exact left
  | @snoc events middle after event past step inductionHypothesis =>
    rintro ⟨row, stored, queued⟩
    rcases (sound.run past).row_step step version.id with
      same | ⟨index, hand, call, course, reply, rfl, _, about, turn⟩
    · exact inductionHypothesis ⟨row, same.symm.trans stored, queued⟩
    · rw [stored] at turn
      generalize before : middle.store.find version.id = former at turn
      cases turn with
      | enlisted new =>
        obtain ⟨caller, _, found, _, named, _⟩ := step.asked
        exact ((sound.run past).named found named).2 version (past.versions_subset version known)
          (Option.some.inj about).symm
      | claimed granted => cases (Job.running_of_claim granted).symm.trans queued
      | moved wasQueued moves => exact inductionHypothesis ⟨_, before, wasQueued⟩
      | concluded _ _ concludes => exact concludes.moved_on.1 queued

end Sound

/-- In every interleaving, however copies are kept and executed, the invariant holds. -/
theorem Run.sound {events : List Event} {present : Scene} (run : Run .initial events present) :
    present.Sound := Sound.initial.run run

end Scene

/-- In every interleaving in which each claimed copy is executed once, the invariant holds, too. -/
theorem System.Run.sound {events : List Event} {present : System}
    (run : System.Run .initial events present) : ∃ noted, (Scene.mk present noted).Sound := by
  obtain ⟨noted, scene⟩ := run.scene []
  exact ⟨noted, Scene.Run.sound scene⟩

end TimedPublishing
