import TimedPublishing.Proofs.Postgres.Mirror

/-!
# The store in the database and the store in memory agree

The same requests are served twice: by transitions of tables in memory, and by one statement each
that the database runs. A table that mirrors a store answers every request as the store does and
mirrors the store again afterwards, so no sequence of requests tells the two apart. Each request is
compared by itself. What its statement does to the rows of a list of jobs is known, and so is what
the store does to the list; the order in which the rows lie never shows.

The database has to be asked what it can be asked. It keeps instants in whole microseconds and no
character zero, a column of attempts has 32 bits, and it never changes the time at which a row was
made, where the memory takes the whole job that it is given.
-/

namespace TimedPublishing

/-- The replies of a store to requests, one after the other. -/
def Store.replies (store : Store) : List StoreCall → List ((call : StoreCall) × call.Reply)
  | [] => []
  | call :: rest => ⟨call, (store.answer call).1⟩ :: Store.replies (store.answer call).2 rest

namespace Postgres

open Store (Lists)

/-- A job that the database can hold exactly: its count fits, its names are names, and each of its
values is kept as it is. -/
structure Storable (job : Job) : Prop where
  fits : job.attempts.count ≤ maxAttemptsColumn
  named : job.toRow.Named
  exact : ∀ column, (Row.ofJob job column).Exact

/-- The values of some columns of a job are kept as they are. -/
theorem Storable.exact_map {job : Job} (storable : Storable job) (columns : List Column) :
    ∀ value ∈ columns.map (Row.ofJob job), value.Exact := by
  intro value member
  obtain ⟨column, _, rfl⟩ := List.mem_map.mp member
  exact storable.exact column

/-- A request to a store that the database can be asked exactly. What it carries is kept as it is,
the job it writes keeps the time at which the stored one was made, and the worker it hands a job to
has a name. A listing of due jobs asks for as many as the database can count to, unless there are no
more than that. -/
def Askable (store : Store) : StoreCall → Prop
  | .findByKey key => (Value.text key.content.text).Exact ∧ (Value.time key.publishAt).Exact
  | .find _ => True
  | .save job | .updateIfQueued job =>
    Storable job ∧ ∀ stored, store.find job.id = some stored → stored.createdAt = job.createdAt
  | .delete _ => True
  | .listDue now limit =>
    (Value.time now).Exact ∧ (limit ≤ maxLimit ∨ store.rows.size ≤ maxLimit)
  | .claim _ worker now =>
    Text.blank worker.text = false ∧ (Value.text worker.text).Exact ∧ (Value.time now).Exact
  | .listRange start stop _ => (Value.time start).Exact ∧ (Value.time stop).Exact
  | .tally => True

/-- A request to the table is answered as the store answers it, and the table mirrors the store
again. -/
structure Agrees (table : Rows) (store : Store) (call : StoreCall) : Prop where
  reply : (table.request call).1 = (store.answer call).1
  mirrors : Mirrors (table.request call).2 (store.answer call).2

section Requests

variable {jobs : List Job} {store : Store}

/-- A request agrees if what its statement does to the rows of a list of jobs is what the store does
to the list. -/
theorem agrees_of {call : StoreCall} {asked : Query} {reply : Reply} {after : List Job}
    {next : Store} (asks : query call = .ok asked) (exact : ∀ value ∈ asked.parameters, value.Exact)
    (ran : Rows.run (jobs.map Row.ofJob) asked.parameters asked.statement =
      (reply, after.map Row.ofJob))
    (answered : store.answer call = (interpret call reply, next)) (lists : Lists after next) :
    Agrees (jobs.map Row.ofJob) store call := by
  have requested := request_eq asks exact (jobs.map Row.ofJob)
  rw [ran] at requested
  constructor
  · rw [requested, answered]
  · rw [requested, answered]
    exact (mirrors_iff lists.named).mpr ⟨after, lists, rfl⟩

/-- The jobs that pass a test have names if all have. -/
theorem named_filter (named : ∀ job ∈ jobs, job.toRow.Named) (test : Job → Bool) :
    ∀ job ∈ jobs.filter test, job.toRow.Named :=
  fun job member => named job (List.mem_of_mem_filter member)

/-- The jobs that pass a test have names in the order of listings as well. -/
theorem named_inListingOrder (named : ∀ job ∈ jobs, job.toRow.Named) (test : Job → Bool) :
    ∀ job ∈ inListingOrder (jobs.filter test), job.toRow.Named :=
  fun job member => named_filter named test job (List.mem_mergeSort.mp member)

/-- A job is found by its name on both sides. -/
theorem agrees_find (lists : Lists jobs store) (named : ∀ job ∈ jobs, job.toRow.Named)
    (id : JobId) : Agrees (jobs.map Row.ofJob) store (.find id) := by
  have means (job : Job) : (columnIs .id 1).Holds ⟨Row.ofJob job, none, [.uuid id]⟩ ↔
      decide (job.id = id) = true := by
    rw [(Row.shows_ofJob job).holds_idIs rfl, decide_eq_true_iff]
  have found : (jobs.filter fun job => decide (job.id = id)).head? = store.find id := by
    rw [List.head?_filter, lists.find?_name]
  have read : job? (operation (.find id)) _ = .ok _ :=
    job?_ofJob (named_filter named fun job => decide (job.id = id))
  rw [found] at read
  exact agrees_of rfl (by simp [Value.Exact]) (congrArg (Reply.rows ·, _) (filter_ofJob means))
    (congrArg (·, store) read.symm) lists

/-- A job is found by its intent on both sides. -/
theorem agrees_findByKey (lists : Lists jobs store) (indexed : store.Indexed)
    (named : ∀ job ∈ jobs, job.toRow.Named) {key : JobKey}
    (askable : Askable store (.findByKey key)) :
    Agrees (jobs.map Row.ofJob) store (.findByKey key) := by
  have exact : ∀ value ∈ [Value.text key.content.text, Value.time key.publishAt], value.Exact :=
    List.forall_mem_cons.mpr ⟨askable.1, List.forall_mem_singleton.mpr askable.2⟩
  have means (job : Job) : ((columnIs .content 1).both (columnIs .publishAt 2)).Holds
      ⟨Row.ofJob job, none, [.text key.content.text, .time key.publishAt]⟩ ↔
        decide (job.key = key) = true := by
    rw [(Row.shows_ofJob job).holds_keyIs rfl rfl, decide_eq_true_iff]
  have found : (jobs.filter fun job => decide (job.key = key)).head? = store.findByKey key := by
    rw [lists.filter_key indexed]
    cases store.findByKey key <;> rfl
  have read : job? (operation (.findByKey key)) _ = .ok _ :=
    job?_ofJob (named_filter named fun job => decide (job.key = key))
  rw [found] at read
  exact agrees_of rfl exact (congrArg (Reply.rows ·, _) (filter_ofJob means))
    (congrArg (·, store) read.symm) lists

/-- The due jobs are listed on both sides. -/
theorem agrees_listDue (lists : Lists jobs store) (named : ∀ job ∈ jobs, job.toRow.Named)
    {now : Instant} {limit : Nat} (askable : Askable store (.listDue now limit)) :
    Agrees (jobs.map Row.ofJob) store (.listDue now limit) := by
  let due := inListingOrder (jobs.filter fun job => job.isDue now)
  have exact : ∀ value ∈ [Value.time now, .integer (min limit maxLimit)], value.Exact :=
    List.forall_mem_cons.mpr ⟨askable.1, List.forall_mem_singleton.mpr trivial⟩
  have means (job : Job) : ((columnAtMost .publishAt 1).both (dueStatus 1)).Holds
      ⟨Row.ofJob job, none, [.time now, .integer (min limit maxLimit)]⟩ ↔ job.isDue now = true :=
    (Row.shows_ofJob job).holds_due rfl
  have cut : (due.map Row.ofJob).take (min (limit : Int) maxLimit).toNat =
      (due.take limit).map Row.ofJob := by
    have few : due.length ≤ store.rows.size := by
      have all : jobs.length = store.rows.size := by
        rw [((Lists.iff_perm lists.named).mp lists).length_eq]
        exact List.length_map Prod.snd
      rw [← all]
      exact (List.length_mergeSort _).trans_le (List.length_filter_le _ _)
    have enough := askable.2
    rw [← List.map_take]
    refine congrArg (List.map Row.ofJob) ?_
    rw [List.take_eq_take_iff]
    omega
  have listed : store.listDue now limit = due.take limit := by
    rw [Store.listDue, ← lists.inListingOrder]
  have namedDue : ∀ job ∈ due.take limit, job.toRow.Named := fun job member =>
    named_inListingOrder named _ job (List.mem_of_mem_take member)
  have read : Postgres.jobs (operation (.listDue now limit)) _ = .ok _ := jobs_ofJob namedDue
  exact agrees_of rfl exact
    ((run_selectInOrder means (some 2)).trans (congrArg (Reply.rows ·, _) cut))
    (congrArg (·, store) ((congrArg Except.ok listed).trans read.symm)) lists

/-- The jobs of a range are listed on both sides. -/
theorem agrees_listRange (lists : Lists jobs store) (named : ∀ job ∈ jobs, job.toRow.Named)
    {start stop : Instant} {statuses : Option (List JobStatus)}
    (askable : Askable store (.listRange start stop statuses)) :
    Agrees (jobs.map Row.ofJob) store (.listRange start stop statuses) := by
  let within (job : Job) : Bool :=
    decide (start ≤ job.publishAt) && decide (job.publishAt < stop) &&
      Store.passes statuses job.status
  have exact : ∀ value ∈ [Value.time start, .time stop,
      .ofOption (fun wanted => .texts (wanted.map JobStatus.text)) statuses], value.Exact := by
    refine List.forall_mem_cons.mpr ⟨askable.1, List.forall_mem_cons.mpr ⟨askable.2, ?_⟩⟩
    exact List.forall_mem_singleton.mpr (by cases statuses <;> trivial)
  have listed : store.listRange start stop statuses = inListingOrder (jobs.filter within) :=
    (lists.inListingOrder within).symm
  have read : Postgres.jobs (operation (.listRange start stop statuses)) _ = .ok _ :=
    jobs_ofJob (named_inListingOrder named within)
  exact agrees_of rfl exact
    (run_selectInOrder (fun job => (Row.shows_ofJob job).holds_range rfl rfl rfl) none)
    (congrArg (·, store) ((congrArg Except.ok listed).trans read.symm)) lists

/-- The jobs are counted on both sides. -/
theorem agrees_tally (lists : Lists jobs store) : Agrees (jobs.map Row.ofJob) store .tally := by
  have concluded : interpret .tally (.counts (Rows.countsByStatus (jobs.map Row.ofJob))) =
      Except.map _ ((Rows.countsByStatus (jobs.map Row.ofJob)).mapM
        (StatusCount.read (operation .tally))) :=
    answer_eq .tally (.counts (Rows.countsByStatus (jobs.map Row.ofJob)))
  rw [mapM_countsByStatus] at concluded
  exact agrees_of rfl (by simp) rfl
    (congrArg (·, store) ((congrArg Except.ok lists.tally_eq).trans concluded.symm)) lists

/-- A job of a name does not pass a test where no stored job does. -/
theorem filter_find_eq_none {id : JobId} {test : Job → Bool} :
    (store.find id).filter test = none ↔
      ∀ stored, store.find id = some stored → test stored = false := by
  simp [Option.filter_eq_none_iff]

/-- A job waits in the queue. -/
def isQueued (job : Job) : Bool := decide (job.status = .queued)

/-- A name without a queued job. -/
theorem filter_isQueued {id : JobId} (unqueued : ¬ store.Queued id) :
    (store.find id).filter isQueued = none := by
  simpa [Store.Queued, filter_find_eq_none, isQueued] using unqueued

/-- A row is selected as the queued one of a name. -/
theorem holds_queued (job : Job) {id : JobId} (parameters : List Value)
    (given : parameterAt parameters 1 = .uuid id) :
    ((columnIs .id 1).both (statusIs .queued)).Holds ⟨Row.ofJob job, none, parameters⟩ ↔
      (decide (job.id = id) && isQueued job) = true := by
  rw [Condition.holds_both, (Row.shows_ofJob job).holds_idIs given,
    (Row.shows_ofJob job).holds_statusIs]
  simp [isQueued]

/-- A job is removed on both sides while it is queued. -/
theorem agrees_delete (lists : Lists jobs store) (id : JobId) :
    Agrees (jobs.map Row.ofJob) store (.delete id) := by
  have exact : ∀ value ∈ [Value.uuid id], value.Exact := by simp [Value.Exact]
  have ran := run_delete lists fun job => holds_queued job [.uuid id] rfl
  rcases store.delete_cases id with ⟨unqueued, kept⟩ | ⟨stored, found, queued, removed⟩
  · have fails := filter_isQueued unqueued
    rw [fails, lists.filter_others_none fails] at ran
    exact agrees_of rfl exact ran (by rw [Store.answer, kept]; rfl) lists
  · have passes : isQueued stored = true := decide_eq_true queued
    rw [found, Option.filter_some, if_pos passes, lists.filter_others_some found passes] at ran
    exact agrees_of rfl exact ran (by rw [Store.answer, removed]; rfl)
      (lists.removed (store.find_without stored id))

/-- A job that was claimed has a name if it had one and its worker has. -/
theorem named_claimed {stored copy : Job} {worker : WorkerId} {now : Instant}
    (named : stored.toRow.Named) (worded : Text.blank worker.text = false)
    (granted : stored.claim worker now = .ok copy) : copy.toRow.Named := by
  obtain ⟨_, rfl⟩ := Job.claim_eq_ok granted
  exact Job.named_toRow named.content fun owner same => JobState.running.inj same ▸ worded

/-- A job is handed out on both sides once it is due. -/
theorem agrees_claim (lists : Lists jobs store) (indexed : store.Indexed)
    (named : ∀ job ∈ jobs, job.toRow.Named) {id : JobId} {worker : WorkerId} {now : Instant}
    (askable : Askable store (.claim id worker now)) :
    Agrees (jobs.map Row.ofJob) store (.claim id worker now) := by
  obtain ⟨worded, exactWorker, exactNow⟩ := askable
  have exact : ∀ value ∈ [Value.uuid id, .text worker.text, .time now], value.Exact :=
    List.forall_mem_cons.mpr ⟨trivial, List.forall_mem_cons.mpr ⟨exactWorker,
      List.forall_mem_singleton.mpr exactNow⟩⟩
  have means (job : Job) : ((columnIs .id 1).both
      ((columnAtMost .publishAt 3).both (dueStatus 3))).Holds
        ⟨Row.ofJob job, none, [.uuid id, .text worker.text, .time now]⟩ ↔
          (decide (job.id = id) && job.isDue now) = true := by
    rw [Condition.holds_both, (Row.shows_ofJob job).holds_idIs rfl,
      (Row.shows_ofJob job).holds_due rfl]
    simp
  rcases store.claim_cases id worker now with ⟨undue, kept⟩ | ⟨stored, copy, found, granted, won⟩
  · have ran := run_update_none claimAssignments lists indexed means
      (filter_find_eq_none.mpr undue)
    exact agrees_of rfl exact ran (by rw [Store.answer, kept]; rfl) lists
  · have becomes : Row.assigned claimAssignments
        ⟨Row.ofJob stored, none, [.uuid id, .text worker.text, .time now]⟩ = Row.ofJob copy := by
      rw [Row.ofJob_eq, Row.ofJob_eq, ← Job.claimed_toRow granted]
      exact Row.assigned_claimed _ _ _ _ _
    obtain ⟨due, isCopy⟩ := Job.claim_eq_ok granted
    have sameId : copy.id = id := isCopy ▸ lists.named id stored found
    have after : Lists (Store.replaced jobs copy) (store.withRow id copy) := by
      refine lists.replaced (sameId ▸ found) fun other => ?_
      rw [Store.find_withRow, sameId]
    have indexedAfter : (store.withRow id copy).Indexed := by
      subst isCopy
      exact indexed.withRow found rfl rfl
    have ran := (run_update_some lists means found due becomes sameId).trans
      (commit_of_lists after indexedAfter)
    have namedStored : stored.toRow.Named := named stored ((lists.found id stored).mp found).1
    have read : job? (operation (.claim id worker now)) _ = .ok _ :=
      job?_ofJob (List.forall_mem_singleton.mpr (named_claimed namedStored worded granted))
    exact agrees_of rfl exact ran (by rw [Store.answer, won]; exact congrArg (·, _) read.symm) after

section Writes

variable {call : StoreCall} {asked : Query} {written : List Job} {job : Job}

/-- A job whose intent is free is written on both sides. -/
theorem agrees_of_admitted (indexed : store.Indexed) (asks : query call = .ok asked)
    (exact : ∀ value ∈ asked.parameters, value.Exact)
    (ran : Rows.run (jobs.map Row.ofJob) asked.parameters asked.statement =
      Rows.commit (jobs.map Row.ofJob) (written.map Row.ofJob) ([job].map Row.ofJob))
    (after : Lists written (store.write job)) (admits : store.Admits job)
    (answered : store.answer call =
      (interpret call (.rows ([job].map Row.ofJob)), store.write job)) :
    Agrees (jobs.map Row.ofJob) store call :=
  agrees_of asks exact (ran.trans (commit_of_lists after (indexed.write admits))) answered after

/-- A job whose intent another one has is refused on both sides, and nothing has changed. -/
theorem agrees_of_rejected (lists : Lists jobs store) (indexed : store.Indexed)
    (asks : query call = .ok asked) (exact : ∀ value ∈ asked.parameters, value.Exact)
    (ran : Rows.run (jobs.map Row.ofJob) asked.parameters asked.statement =
      Rows.commit (jobs.map Row.ofJob) (written.map Row.ofJob) ([job].map Row.ofJob))
    (after : Lists written (store.write job)) (rejected : ¬ store.Admits job)
    (answered : ∀ message, store.answer call =
      (interpret call (.failure (.database uniqueViolation message)), store)) :
    Agrees (jobs.map Row.ofJob) store call := by
  obtain ⟨rival, member, sameKey, different⟩ := lists.exists_rival indexed rejected
  have self : job ∈ written := by
    rw [after.mem_iff, Store.find_write, if_pos rfl]
  have stays : rival ∈ written := by
    rw [after.mem_iff, Store.find_write, if_neg (Ne.symm different)]
    exact (lists.mem_iff rival).mp member
  obtain ⟨message, refused⟩ := @commit_of_shared written [job] (jobs.map Row.ofJob) rival job
    stays self sameKey (fun same => different (congrArg Job.id same))
  exact agrees_of asks exact (ran.trans refused) (answered message) lists

end Writes

/-- A job is replaced on both sides while it is queued, unless its intent is taken. -/
theorem agrees_updateIfQueued (lists : Lists jobs store) (indexed : store.Indexed) {job : Job}
    (askable : Askable store (.updateIfQueued job)) :
    Agrees (jobs.map Row.ofJob) store (.updateIfQueued job) := by
  obtain ⟨storable, made⟩ := askable
  let parameters := updateParameters job
  have asks : query (.updateIfQueued job) = .ok ⟨updateStatement, parameters⟩ :=
    fitting_of_le storable.fits _
  have exact : ∀ value ∈ updateParameters job, value.Exact :=
    updateParameters_eq job ▸ storable.exact_map _
  have means (other : Job) := @holds_queued other job.id parameters rfl
  have writes (queued : store.Queued job.id) :
      Rows.run (jobs.map Row.ofJob) parameters updateStatement =
        Rows.commit (jobs.map Row.ofJob) ((Store.replaced jobs job).map Row.ofJob)
          ([job].map Row.ofJob) ∧
      Lists (Store.replaced jobs job) (store.write job) := by
    obtain ⟨stored, found, waits⟩ := queued
    have sameId : stored.id = job.id := lists.named job.id stored found
    have becomes : Row.assigned updateAssignments ⟨Row.ofJob stored, none, parameters⟩ =
        Row.ofJob job := by
      have replaced := @Row.assigned_updateParameters job (Row.ofJob stored) stored.createdAt none
        (congrArg Value.uuid sameId) rfl
      rw [replaced, made stored found]
    exact ⟨run_update_some lists means found (decide_eq_true waits) becomes rfl,
      lists.replaced found (store.find_write job)⟩
  rcases store.updateIfQueued_cases job with
    ⟨unqueued, kept⟩ | ⟨queued, rejected, kept⟩ | ⟨queued, admits, moved⟩
  · have ran := run_update_none updateAssignments lists indexed means (filter_isQueued unqueued)
    exact agrees_of asks exact ran (by rw [Store.answer, kept]; rfl) lists
  · obtain ⟨ran, after⟩ := writes queued
    exact agrees_of_rejected lists indexed asks exact ran after rejected fun _ => kept
  · obtain ⟨ran, after⟩ := writes queued
    have read : job? (operation (.updateIfQueued job)) _ = .ok _ :=
      job?_ofJob (List.forall_mem_singleton.mpr storable.named)
    exact agrees_of_admitted indexed asks exact ran after admits
      (moved.trans (congrArg (·, _) read.symm))

/-- A job is saved on both sides, unless it has ended or its intent is taken. -/
theorem agrees_save (lists : Lists jobs store) (indexed : store.Indexed) {job : Job}
    (askable : Askable store (.save job)) : Agrees (jobs.map Row.ofJob) store (.save job) := by
  obtain ⟨storable, made⟩ := askable
  have asks : query (.save job) = .ok ⟨saveStatement, saveParameters job⟩ :=
    fitting_of_le storable.fits _
  have exact : ∀ value ∈ saveParameters job, value.Exact :=
    saveParameters_eq job ▸ storable.exact_map _
  have writes (unended : ¬ store.Ended job.id) : ∃ written,
      Rows.run (jobs.map Row.ofJob) (saveParameters job) saveStatement =
        Rows.commit (jobs.map Row.ofJob) (written.map Row.ofJob) ([job].map Row.ofJob) ∧
      Lists written (store.write job) := by
    cases found : store.find job.id with
    | none => exact ⟨_, run_save_absent lists found, lists.added found (store.find_write job)⟩
    | some stored =>
      have goesOn : stored.status.isTerminal = false := by
        rw [← Bool.not_eq_true]
        exact fun isTerminal => unended ⟨stored, found, isTerminal⟩
      exact ⟨_, run_save_present lists found goesOn (made stored found),
        lists.replaced found (store.find_write job)⟩
  rcases store.save_cases job with
    ⟨⟨stored, found, ended⟩, kept⟩ | ⟨unended, rejected, kept⟩ | ⟨unended, admits, saved⟩
  · exact agrees_of asks exact (run_save_ended lists found ended)
      (by rw [Store.answer, kept]; rfl) lists
  · obtain ⟨written, ran, after⟩ := writes unended
    exact agrees_of_rejected lists indexed asks exact ran after rejected fun _ => kept
  · obtain ⟨written, ran, after⟩ := writes unended
    have read : job? (operation (.save job)) ([job].map Row.ofJob) = .ok (some job) :=
      job?_ofJob (List.forall_mem_singleton.mpr storable.named)
    have returned : interpret (.save job) (.rows ([job].map Row.ofJob)) = .ok job := by
      change (job? (operation (.save job)) ([job].map Row.ofJob) >>= _) = _
      rw [read]
      rfl
    exact agrees_of_admitted indexed asks exact ran after admits
      (saved.trans (congrArg (·, _) returned.symm))

end Requests

/-- Every job of a store has the names that a job has to have. -/
def AllNamed (store : Store) : Prop := ∀ id job, store.find id = some job → job.toRow.Named

section Runs

variable {store : Store} {table : Rows} {call : StoreCall}

/-- A table that mirrors a store answers a request as the store does, and then mirrors the store
again. -/
theorem request_agrees (indexed : store.Indexed) (named : AllNamed store)
    (mirrors : Mirrors table store) (askable : Askable store call) : Agrees table store call := by
  obtain ⟨jobs, lists, rfl⟩ := (mirrors_iff indexed.named).mp mirrors
  have namedJobs : ∀ job ∈ jobs, job.toRow.Named :=
    fun job member => named job.id job ((lists.mem_iff job).mp member)
  cases call with
  | findByKey key => exact agrees_findByKey lists indexed namedJobs askable
  | find id => exact agrees_find lists namedJobs id
  | save job => exact agrees_save lists indexed askable
  | updateIfQueued job => exact agrees_updateIfQueued lists indexed askable
  | delete id => exact agrees_delete lists id
  | listDue now limit => exact agrees_listDue lists namedJobs askable
  | claim id worker now => exact agrees_claim lists indexed namedJobs askable
  | listRange start stop statuses => exact agrees_listRange lists namedJobs askable
  | tally => exact agrees_tally lists

/-- A store in which a job with names takes the place of a version of it has jobs with names. -/
theorem AllNamed.renewed {next : Store} {version : Job} (named : AllNamed store)
    (renews : store.Renews next version) (namedVersion : version.toRow.Named) : AllNamed next := by
  intro id job found
  rw [renews id] at found
  split at found
  · exact Option.some.inj found ▸ namedVersion
  · exact named id job found

/-- A request that the database can be asked exactly leaves jobs with names. -/
theorem AllNamed.answer (named : AllNamed store) (indexed : store.Indexed)
    (askable : Askable store call) : AllNamed (store.answer call).2 := by
  rcases store.answer_cases call with ⟨_, kept, _⟩ | ⟨_, _, changed, _, grants⟩
  · exact kept ▸ named
  · rw [changed]
    cases grants with
    | saved _ _ => exact named.renewed (store.find_write _) askable.1.named
    | moved _ _ => exact named.renewed (store.find_write _) askable.1.named
    | deleted _ _ =>
      intro id job found
      rw [Store.find_without] at found
      split at found
      · cases found
      · exact named id job found
    | claimed found granted =>
      refine named.renewed (fun other => ?_) (named_claimed (named _ _ found) askable.1 granted)
      obtain ⟨_, rfl⟩ := Job.claim_eq_ok granted
      obtain rfl := indexed.named _ _ found
      exact store.find_withRow _ other _

/-- The replies of a table to requests, one after the other. -/
def Rows.replies (table : Rows) : List StoreCall → List ((call : StoreCall) × call.Reply)
  | [] => []
  | call :: rest => ⟨call, (table.request call).1⟩ :: Rows.replies (table.request call).2 rest

/-- The database can be asked each of some requests exactly when it comes. -/
def AllAskable (store : Store) : List StoreCall → Prop
  | [] => True
  | call :: rest => Askable store call ∧ AllAskable (store.answer call).2 rest

/-- A table that mirrors a store cannot be told from it by any sequence of requests. -/
theorem replies_agree (calls : List StoreCall) (indexed : store.Indexed) (named : AllNamed store)
    (mirrors : Mirrors table store) (askable : AllAskable store calls) :
    table.replies calls = store.replies calls := by
  induction calls generalizing table store with
  | nil => rfl
  | cons call rest inductionHypothesis =>
    obtain ⟨first, others⟩ := askable
    have agrees := request_agrees indexed named mirrors first
    have rest := inductionHypothesis (indexed.answer call) (named.answer indexed first)
      agrees.mirrors others
    rw [Rows.replies, Store.replies, agrees.reply, rest]

end Runs

/-- The store in the database agrees with the store in memory. Let the store have answered any
requests, let the rows of the table be those of its jobs in any order, and let the database be asked
something that it can be asked. Then it gives the very reply that the store gives, an error or not,
and its rows are those of the jobs that the store then has.

What the statements look at in a row is what its job says. A row is selected as due exactly if the
job that it decodes to is due, also if it has values that decoding passes over. A row that is
claimed becomes one that decodes to the claimed job. -/
theorem repositories_agree (calls : List StoreCall) (call : StoreCall) (table : Rows)
    (named : AllNamed (Store.empty.afterCalls calls))
    (mirrors : Mirrors table (Store.empty.afterCalls calls))
    (askable : Askable (Store.empty.afterCalls calls) call) :
    let store := Store.empty.afterCalls calls
    (table.request call).1 = (store.answer call).1 ∧
    Mirrors (table.request call).2 (store.answer call).2 ∧
    (∀ now limit, ∃ condition cap parameters,
      query (.listDue now limit) = .ok ⟨.selectInOrder condition cap, parameters⟩ ∧
      ∀ row job, row.Decodes job →
        (condition.Holds ⟨row, none, parameters⟩ ↔ job.isDue now = true)) ∧
    ∀ id worker now, Text.blank worker.text = false → ∃ assignments condition parameters,
      query (.claim id worker now) = .ok ⟨.update assignments condition, parameters⟩ ∧
      ∀ row job, row.Decodes job →
        (condition.Holds ⟨row, none, parameters⟩ ↔ job.id = id ∧ job.isDue now = true) ∧
        ∀ copy, job.claim worker now = .ok copy →
          (Row.assigned assignments ⟨row, none, parameters⟩).Decodes copy := by
  intro store
  have agrees := request_agrees (Store.Indexed.empty.afterCalls calls) named mirrors askable
  refine ⟨agrees.reply, agrees.mirrors, ?_, ?_⟩
  · intro now limit
    refine ⟨_, some 2, _, rfl, fun row job decodes => ?_⟩
    exact (Row.Decodes.shows decodes).holds_due rfl
  · intro id worker now worded
    refine ⟨claimAssignments, _, _, rfl, fun row job decodes => ⟨?_, ?_⟩⟩
    · have shows := Row.Decodes.shows decodes
      rw [Condition.holds_both, shows.holds_idIs rfl, shows.holds_due rfl]
    · intro copy granted
      obtain ⟨flat, rfl, named, rebuilt⟩ := Row.decodes_iff.mp decodes
      rw [Row.assigned_claimed]
      have namedCopy : (flat.claimed worker now).Named :=
        ⟨named.content, fun owner same => Option.some.inj same ▸ worded⟩
      exact Row.decodes_iff.mpr ⟨_, rfl, namedCopy, JobRow.toJob?_claimed rebuilt granted⟩

/-- A worker gets a due job from the table that holds it. -/
theorem repositories_agree_on_claim :
    let job : Job := .create ⟨1⟩ ⟨"post"⟩ .epoch .epoch
    let store := Store.empty.afterCalls [.save job]
    let table : Rows := [.ofJob job]
    AllNamed store ∧ Mirrors table store ∧ Askable store (.claim ⟨1⟩ ⟨"worker"⟩ .epoch) ∧
      (table.request (.claim ⟨1⟩ ⟨"worker"⟩ .epoch)).1 =
        .ok (some { job with state := .running ⟨"worker"⟩ }) := by
  intro job store table
  have named : AllNamed store := by
    intro id found present
    have shown : store.find id = if job.id = id then some job else none :=
      Store.find_write Store.empty job id
    rw [shown] at present
    split at present
    · cases present
      exact ⟨by decide, nofun⟩
    · cases present
  have mirrors : Mirrors table store := ⟨[job], .refl _, rfl⟩
  have askable : Askable store (.claim ⟨1⟩ ⟨"worker"⟩ .epoch) := by
    refine ⟨by decide, by decide, by decide, by decide⟩
  refine ⟨named, mirrors, askable, ?_⟩
  exact (repositories_agree [.save job] _ table named mirrors askable).1

end Postgres

end TimedPublishing
