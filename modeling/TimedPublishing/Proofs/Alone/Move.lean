import TimedPublishing.Proofs.Alone.Surroundings
import TimedPublishing.Proofs.Custody.Basic
import TimedPublishing.Proofs.Interleaving.Protocols
import TimedPublishing.Proofs.Settings.Arithmetic
import TimedPublishing.Proofs.Store.DueOrder
import TimedPublishing.Proofs.Store.Index

/-!
# A job is moved to another publish time

A call that moves a job tries the reasons against it in a fixed order, and moves the job when none
of them applies. Alone, it writes to the store in which it has looked: an intent that was free is
still free, so the write is granted, and the second look for an owner is never taken.

The write moves the entry of the job in the table of owners from one intent to the other. That the
former intent is free then, and that nobody else's entry is touched, rests on the correspondence of
the two tables beforehand. So a job that is moved away and back has its place again, and all that
shows of it is the time of its last change.
-/

namespace TimedPublishing

namespace Store

/-- A store in which one version of a job makes room for another with another intent: the former
intent is free to take, the new one resolves to the job, and everything else is as it was. -/
structure Relocates (store next : Store) (former version : Job) : Prop where
  rows : store.Renews next version
  freed : next.Vacant former.key
  resolves : next.findByKey version.key = some version
  owners : ∀ key, next.owners.find? key =
    if version.key = key then some version.id
    else if former.key = key then none
    else store.owners.find? key

/-- Writing an admitted version of a stored job with another intent moves the job. -/
theorem Indexed.relocates {store : Store} {former version : Job} (indexed : store.Indexed)
    (found : store.find version.id = some former) (moves : version.key ≠ former.key)
    (admitted : store.Admits version) : store.Relocates (store.write version) former version where
  rows := store.find_write version
  freed := indexed.vacant_write found moves admitted
  resolves := ((indexed.write admitted).findByKey_eq_some_iff version.key version).mpr
    ⟨by rw [find_write, if_pos rfl], rfl⟩
  owners := by
    intro key
    rw [owner_write, found]
    simp

/-- A job that is moved away to a free intent and back stands as in the store before, under a
version of its own. -/
theorem Relocates.restores {store away back : Store} {job moved version : Job}
    (indexed : store.Indexed) (found : store.find job.id = some job)
    (free : store.owners.find? moved.key = none) (first : store.Relocates away job moved)
    (second : away.Relocates back moved version) (sameId : moved.id = version.id)
    (ownId : version.id = job.id) (ownKey : version.key = job.key) :
    store.Renews back version ∧ ∀ key, back.owners.find? key = store.owners.find? key := by
  refine ⟨first.rows.trans second.rows sameId, fun key => ?_⟩
  rw [second.owners key, first.owners key, ownKey]
  by_cases own : job.key = key
  · rw [if_pos own, ownId, ← own, indexed.owner_of_find found]
  · by_cases left : moved.key = key
    · rw [if_neg own, if_pos left, ← left, free]
    · rw [if_neg own, if_neg left, if_neg left, if_neg own]

end Store

namespace Surroundings

/-- The reading of the clock by which a call that moves a job checks the new publish time: the one
after the job was found. -/
def gate (surroundings : Surroundings) (id : JobId) (job : Job) : Instant :=
  surroundings.clock [.store (.find id) (.ok (some job))]

/-- The reading of the clock that such a call enters as the time of the change: the one after the
new intent was found free. -/
def entry (surroundings : Surroundings) (id : JobId) (job : Job) (publishAt : Instant) : Instant :=
  surroundings.clock
    [.store (.find id) (.ok (some job)), .clock (surroundings.gate id job),
      .store (.findByKey ⟨job.content, publishAt⟩) (.ok none)]

/-- The version of a job that such a call writes. -/
def moved (surroundings : Surroundings) (id : JobId) (job : Job) (publishAt : Instant) : Job :=
  { job with publishAt := publishAt, updatedAt := surroundings.entry id job publishAt }

end Surroundings

namespace Scheduler

/-- A publish time that is after an instant less the grace. -/
def Accepts (scheduler : Scheduler) (publishAt now : Instant) : Prop :=
  now.nanos - scheduler.grace.nanos < publishAt.nanos

/-- What a call that moves a job gives when it runs alone, and the store that it leaves. Each case
says that those before it do not apply. -/
inductive Move (scheduler : Scheduler) (surroundings : Surroundings) (store : Store) (id : JobId)
    (publishAt : Instant) : Except ScheduleError Job → Store → Prop
  | missing (absent : store.find id = none) :
    Move scheduler surroundings store id publishAt (.error (.jobNotFound id)) store
  | late {job : Job} (found : store.find id = some job) (left : job.status ≠ .queued) :
    Move scheduler surroundings store id publishAt (.error (.cannotReschedule id job.status)) store
  | past {job : Job} (found : store.find id = some job) (queued : job.status = .queued)
      (past : ¬ scheduler.Accepts publishAt (surroundings.gate id job)) :
    Move scheduler surroundings store id publishAt (.error (.publishTimePast publishAt)) store
  | same {job : Job} (found : store.find id = some job) (queued : job.status = .queued)
      (accepts : scheduler.Accepts publishAt (surroundings.gate id job))
      (same : job.publishAt = publishAt) :
    Move scheduler surroundings store id publishAt (.ok job) store
  | taken {job : Job} {owner : JobId} (found : store.find id = some job)
      (queued : job.status = .queued)
      (accepts : scheduler.Accepts publishAt (surroundings.gate id job))
      (elsewhere : job.publishAt ≠ publishAt)
      (owns : store.owners.find? ⟨job.content, publishAt⟩ = some owner) (other : owner ≠ id) :
    Move scheduler surroundings store id publishAt
      (.error (.scheduleConflict ⟨job.content, publishAt⟩ owner)) store
  | moved {job : Job} {next : Store} (found : store.find id = some job)
      (queued : job.status = .queued)
      (accepts : scheduler.Accepts publishAt (surroundings.gate id job))
      (elsewhere : job.publishAt ≠ publishAt)
      (free : store.owners.find? ⟨job.content, publishAt⟩ = none)
      (relocates : store.Relocates next job (surroundings.moved id job publishAt)) :
    Move scheduler surroundings store id publishAt (.ok (surroundings.moved id job publishAt)) next

variable {scheduler : Scheduler} {surroundings : Surroundings} {store : Store} {said : Dialogue}
  {after : Solo} {id : JobId} {job : Job} {publishAt : Instant}

/-- Alone, a queued job whose new intent is free is moved there. -/
theorem Moving.alone {more : Dialogue} {outcome : Except ScheduleError Job}
    (indexed : store.Indexed) (found : store.find job.id = some job)
    (queued : job.status = .queued) (elsewhere : job.publishAt ≠ publishAt)
    (free : store.owners.find? ⟨job.content, publishAt⟩ = none)
    (way : Moving id job publishAt more outcome)
    (heard : surroundings.Hears ⟨store, said⟩ more after) :
    let version := { job with publishAt := publishAt, updatedAt := surroundings.clock said }
    outcome = .ok version ∧ store.Relocates after.store job version := by
  intro version
  have moves : version.key ≠ job.key := fun same => elsewhere (congrArg JobKey.publishAt same).symm
  have admitted : store.Admits version := by
    intro owner owns
    cases free.symm.trans owns
  have granted : store.updateIfQueued version = (.ok (some version), store.write version) := by
    rcases store.updateIfQueued_cases version with
      ⟨unqueued, _⟩ | ⟨_, rejected, _⟩ | ⟨_, _, written⟩
    · exact absurd ⟨job, found, queued⟩ unqueued
    · exact absurd admitted rejected
    · exact written
  -- Every way makes the same request, and goes on by the answer to it.
  have answered {now : Instant} {written : Job} {reply : Except StoreError (Option Job)}
      (moves : job.reschedule publishAt now = .ok written) (reading : surroundings.clock said = now)
      (replied : (store.updateIfQueued written).1 = reply) :
      reply = .ok (some version) ∧ written = version := by
    obtain ⟨_, rfl⟩ := Job.reschedule_eq_ok moves
    subst reading
    rw [granted] at replied
    exact ⟨replied.symm, rfl⟩
  cases way with
  | moved written saved =>
    obtain ⟨reading, replied, rfl⟩ := heard
    obtain ⟨given, rfl⟩ := answered written reading replied
    cases given
    refine ⟨rfl, ?_⟩
    change store.Relocates (store.updateIfQueued version).2 job version
    rw [granted]
    exact indexed.relocates found moves admitted
  | lost written current => cases (answered written heard.1 heard.2.1).1
  | vanished written unloaded => cases (answered written heard.1 heard.2.1).1
  | conflict written key other => cases (answered written heard.1 heard.2.1).1
  | unfound written key cause => cases (answered written heard.1 heard.2.1).1
  | unsaved written other => cases (answered written heard.1 heard.2.1).1

/-- Alone, a call that moves a job goes by the first reason against it that applies. -/
theorem Rescheduling.alone {outcome : Except ScheduleError Job} (indexed : store.Indexed)
    (back : 0 ≤ scheduler.grace.nanos) (way : scheduler.Rescheduling id publishAt said outcome)
    (heard : surroundings.Hears ⟨store, []⟩ said after) :
    scheduler.Move surroundings store id publishAt outcome after.store := by
  have accepts (now : Instant) :
      publishAt.isFuture scheduler.grace now = true ↔ scheduler.Accepts publishAt now :=
    publishAt.isFuture_iff back now
  cases way with
  | unloaded unloaded =>
    cases unloaded with
    | missing =>
      obtain ⟨looked, rfl⟩ := heard
      exact .missing (Except.ok.inj looked)
    | unread cause => cases (heard.1 : Except.ok _ = Except.error cause)
  | late left =>
    obtain ⟨looked, rfl⟩ := heard
    exact .late (Except.ok.inj looked) left
  | past queued past =>
    obtain ⟨looked, rfl, rfl⟩ := heard
    exact .past (Except.ok.inj looked) queued fun accepted => by
      cases past.symm.trans ((accepts _).mpr accepted)
  | same queued future same =>
    obtain ⟨looked, rfl, rfl⟩ := heard
    exact .same (Except.ok.inj looked) queued ((accepts _).mp future) same
  | unlooked queued future cause => cases (heard.2.2.1 : Except.ok _ = Except.error cause)
  | @taken job queued check future other different =>
    obtain ⟨looked, rfl, owned, rfl⟩ := heard
    have found : store.find id = some job := Except.ok.inj looked
    obtain ⟨present, sameKey⟩ :=
      (indexed.findByKey_eq_some_iff _ other).mp (Except.ok.inj owned)
    have owns : store.owners.find? ⟨job.content, publishAt⟩ = some other.id :=
      sameKey ▸ indexed.owner_of_find present
    refine .taken found queued ((accepts _).mp future) ?_ owns different
    -- The intent that the job has is its own.
    rintro rfl
    exact different (indexed.unique present found sameKey)
  | @moving job queued check future owner free more _ moving elsewhere =>
    obtain ⟨looked, rfl, owned, moved⟩ := heard
    have found : store.find id = some job := Except.ok.inj looked
    obtain rfl : job.id = id := indexed.named id job found
    have nobody : store.findByKey ⟨job.content, publishAt⟩ = none := by
      cases resolved : store.findByKey ⟨job.content, publishAt⟩ with
      | none => rfl
      | some other =>
        obtain ⟨present, sameKey⟩ := (indexed.findByKey_eq_some_iff _ other).mp resolved
        rw [free other ((Except.ok.inj owned).symm.trans resolved), found] at present
        cases present
        exact absurd (congrArg JobKey.publishAt sameKey) elsewhere
    have unowned : store.owners.find? ⟨job.content, publishAt⟩ = none := by
      cases owns : store.owners.find? ⟨job.content, publishAt⟩ with
      | none => rfl
      | some holder =>
        obtain ⟨row, present, sameKey⟩ := (indexed.owned _ holder).mp owns
        obtain rfl := indexed.named holder row present
        cases nobody.symm.trans ((indexed.findByKey_eq_some_iff _ row).mpr ⟨present, sameKey⟩)
    obtain rfl : none = owner := nobody.symm.trans (Except.ok.inj owned)
    obtain ⟨rfl, relocates⟩ := moving.alone indexed found queued elsewhere unowned moved
    exact .moved found queued ((accepts _).mp future) elsewhere unowned relocates

/-- A queued job whose new publish time is another one, is accepted and is free is moved. -/
theorem Move.of_free {outcome : Except ScheduleError Job} {next : Store}
    (move : scheduler.Move surroundings store id publishAt outcome next)
    (found : store.find id = some job) (queued : job.status = .queued)
    (elsewhere : job.publishAt ≠ publishAt)
    (free : store.owners.find? ⟨job.content, publishAt⟩ = none)
    (accepts : scheduler.Accepts publishAt (surroundings.gate id job)) :
    outcome = .ok (surroundings.moved id job publishAt) ∧
      store.Relocates next job (surroundings.moved id job publishAt) := by
  cases move with
  | missing absent => cases absent.symm.trans found
  | late present left =>
    cases present.symm.trans found
    exact absurd queued left
  | past present _ past =>
    cases present.symm.trans found
    exact absurd accepts past
  | same present _ _ same =>
    cases present.symm.trans found
    exact absurd same elsewhere
  | taken present _ _ _ owns _ =>
    cases present.symm.trans found
    cases free.symm.trans owns
  | moved present _ _ _ _ relocates =>
    cases present.symm.trans found
    exact ⟨rfl, relocates⟩

/-- In every store whose tables correspond, a call that moves a job and runs alone ends by the first
reason against it that applies, and the tables correspond afterwards. -/
theorem exists_move (indexed : store.Indexed) (back : 0 ≤ scheduler.grace.nanos)
    (surroundings : Surroundings) (id : JobId) (publishAt : Instant) :
    ∃ outcome after, surroundings.Ends store (scheduler.reschedule id publishAt) outcome after ∧
      scheduler.Move surroundings store id publishAt outcome after.store ∧
      after.store.Indexed := by
  obtain ⟨outcome, after, ends, heard, way⟩ :=
    Surroundings.ends_of_obeys (reschedule_obeys id publishAt) surroundings store
  exact ⟨outcome, after, ends, Rescheduling.alone indexed back way heard, heard.indexed indexed⟩

/-- In every store that requests can lead to, under every grace and whatever the clock reads, a call
that moves a job and runs alone ends by the first case of `Scheduler.Move` that applies: the job is
missing, has left the queue, is asked to a time that is not after the present less the grace, stands
at that time already, is asked to a time at which another job has its content, which is named, or is
moved. A job that is moved changes its publish time and the time of its last change. It takes its
new intent and frees the former one, and the rows and the owners of all else stay.

If a second call then moves the job back to a time that is still accepted, the store is as it was
before the two, but for the time of the last change of the job.

Proof: the dialogue of the call goes one of its ways, with the replies of the one store. The table
of owners tells who has the new intent because it is the index of the rows, and a write with an
intent that nobody has is granted. For the way back, the same holds of the store that the first call
has left, in which the former intent is free. -/
theorem reschedule_moves_job (calls : List StoreCall) (surroundings : Surroundings)
    (policy : RetryPolicy) (graceSeconds : Nat) (id : JobId) (publishAt : Instant) :
    let store := Store.empty.afterCalls calls
    let scheduler : Scheduler := ⟨policy, .ofSeconds graceSeconds⟩
    ∃ outcome after, surroundings.Ends store (scheduler.reschedule id publishAt) outcome after ∧
      scheduler.Move surroundings store id publishAt outcome after.store ∧
      ∀ (again : Surroundings) (job : Job), store.find id = some job → job.status = .queued →
        job.publishAt ≠ publishAt → store.owners.find? ⟨job.content, publishAt⟩ = none →
        scheduler.Accepts publishAt (surroundings.gate id job) →
        let moved := surroundings.moved id job publishAt
        scheduler.Accepts job.publishAt (again.gate id moved) →
        let restored := { job with updatedAt := again.entry id moved job.publishAt }
        outcome = .ok moved ∧
        ∃ last, again.Ends after.store (scheduler.reschedule id job.publishAt) (.ok restored) last ∧
          store.Renews last.store restored ∧
          ∀ key, last.store.owners.find? key = store.owners.find? key := by
  intro store scheduler
  have indexed : store.Indexed := Store.Indexed.empty.afterCalls calls
  have back : 0 ≤ scheduler.grace.nanos := by
    change 0 ≤ (graceSeconds : Int) * nanosPerSecond
    unfold nanosPerSecond
    omega
  obtain ⟨outcome, after, ends, move, indexedAfter⟩ :=
    exists_move indexed back surroundings id publishAt
  refine ⟨outcome, after, ends, move, ?_⟩
  intro again job found queued elsewhere free accepts moved acceptsBack restored
  obtain ⟨given, away⟩ := move.of_free found queued elsewhere free accepts
  obtain rfl : job.id = id := indexed.named id job found
  obtain ⟨answer, last, endsBack, moveBack, _⟩ :=
    exists_move indexedAfter back again job.id job.publishAt
  have left : moved.key ≠ job.key := fun same => elsewhere (congrArg JobKey.publishAt same).symm
  have unowned : store.owners.find? moved.key = none := free
  have foundAway : after.store.find job.id = some moved := (away.rows job.id).trans (if_pos rfl)
  have freeAway : after.store.owners.find? job.key = none :=
    (away.owners job.key).trans ((if_neg left).trans (if_pos rfl))
  obtain ⟨rfl, home⟩ :=
    moveBack.of_free foundAway queued (Ne.symm elsewhere) freeAway acceptsBack
  obtain ⟨rows, owners⟩ := away.restores indexed found unowned home rfl rfl rfl
  exact ⟨given, last, endsBack, rows, owners⟩

/-- A job for the first second of 1970 is moved to the second one and back. It owns its first intent
again, and is as it was but for the time of its last change. -/
theorem reschedule_moves_job_there_and_back :
    let first : Instant := ⟨nanosPerSecond, by decide⟩
    let second : Instant := ⟨2 * nanosPerSecond, by decide⟩
    let later : Instant := ⟨1, by decide⟩
    let job : Job := .create ⟨1⟩ ⟨"post"⟩ first .epoch
    let store := Store.empty.afterCalls [.save job]
    let scheduler : Scheduler := ⟨.standard, .ofSeconds 0⟩
    let surroundings : Surroundings := ⟨fun _ => .epoch, fun _ => ⟨2⟩, fun _ _ => .published⟩
    let again := surroundings.still later
    store.find ⟨1⟩ = some job ∧ job.status = .queued ∧ job.publishAt ≠ second ∧
      store.owners.find? ⟨job.content, second⟩ = none ∧
      scheduler.Accepts second .epoch ∧ scheduler.Accepts first later ∧
      ∃ after last,
        surroundings.Ends store (scheduler.reschedule ⟨1⟩ second)
          (.ok { job with publishAt := second }) after ∧
        again.Ends after.store (scheduler.reschedule ⟨1⟩ first)
          (.ok { job with updatedAt := later }) last ∧
        last.store.find ⟨1⟩ = some { job with updatedAt := later } ∧
        last.store.owners.find? ⟨job.content, first⟩ = some ⟨1⟩ := by
  intro first second later job store scheduler surroundings again
  have found : store.find ⟨1⟩ = some job := by decide
  have elsewhere : job.publishAt ≠ second := by decide
  have free : store.owners.find? ⟨job.content, second⟩ = none := by decide
  have accepts : scheduler.Accepts second .epoch := by
    change (0 : Int) - 0 * nanosPerSecond < 2 * nanosPerSecond
    decide
  have acceptsBack : scheduler.Accepts first later := by
    change (1 : Int) - 0 * nanosPerSecond < nanosPerSecond
    decide
  obtain ⟨outcome, after, ends, _, restores⟩ :=
    reschedule_moves_job [.save job] surroundings .standard 0 ⟨1⟩ second
  obtain ⟨rfl, last, endsBack, rows, owners⟩ :=
    restores again job found rfl elsewhere free accepts acceptsBack
  exact ⟨found, rfl, elsewhere, free, accepts, acceptsBack, after, last, ends, endsBack,
    rows ⟨1⟩, owners _⟩

end Scheduler

end TimedPublishing
