import TimedPublishing.Store.Memory

/-!
# What a request does to a store

Each request is described once, by the cases it distinguishes, the reply of each case and
the store it leaves behind. A request that is refused leaves the very same store. A request
that is granted writes the row of one job, or removes one, and every other row stays.

Later modules read a store only through `find` and the table of owners, and open no
operation again.
-/

namespace TimedPublishing

/-- A job that is due is handed out. -/
theorem Job.claim_of_isDue {job : Job} {worker : WorkerId} {now : Instant}
    (due : job.isDue now = true) :
    job.claim worker now = .ok { job with state := .running worker, updatedAt := now } := by
  simp [Job.claim, due]

/-- A claim changes neither the name nor the intent of a job, and hands out a running copy
of a due one. -/
theorem Job.claim_eq_ok {job claimed : Job} {worker : WorkerId} {now : Instant}
    (granted : job.claim worker now = .ok claimed) :
    job.isDue now = true ∧ claimed = { job with state := .running worker, updatedAt := now } := by
  unfold Job.claim at granted
  split at granted
  · next due => exact ⟨due, (Except.ok.inj granted).symm⟩
  · cases granted

/-- A job that waits for a retry is due once both its publish time and the instant of the retry have
come. -/
theorem Job.isDue_of_retryWait {job : Job} {retryAt now : Instant}
    (waits : job.state = .retryWait retryAt) :
    job.isDue now = true ↔ job.publishAt ≤ now ∧ retryAt ≤ now := by
  simp [isDue, waits]

/-- A job that is due has come to its publish time, and is queued or has come to its retry. -/
theorem Job.due_cases {job : Job} {now : Instant} (due : job.isDue now = true) :
    job.publishAt ≤ now ∧
      (job.state = .queued ∨ ∃ retryAt, job.state = .retryWait retryAt ∧ retryAt ≤ now) := by
  obtain ⟨come, waits⟩ := Bool.and_eq_true_iff.mp due
  refine ⟨of_decide_eq_true come, ?_⟩
  cases standing : job.state with
  | queued => exact Or.inl rfl
  | retryWait retryAt =>
    rw [standing] at waits
    exact Or.inr ⟨retryAt, rfl, of_decide_eq_true waits⟩
  | running owner => simp [standing] at waits
  | succeeded completedAt actualPublishAt => simp [standing] at waits
  | failed completedAt => simp [standing] at waits

/-- A job that is due waits, for its time or for a retry. -/
theorem Job.claimable_of_isDue {job : Job} {now : Instant} (due : job.isDue now = true) :
    job.status.isClaimable = true := by
  unfold status
  rcases (due_cases due).2 with queued | ⟨retryAt, waits, _⟩
  · rw [queued]
    rfl
  · rw [waits]
    rfl

/-- Only a job that waits, for its time or for a retry, is handed out. -/
theorem Job.claimable_of_claim {job claimed : Job} {worker : WorkerId} {now : Instant}
    (granted : job.claim worker now = .ok claimed) : job.status.isClaimable = true :=
  claimable_of_isDue (claim_eq_ok granted).1

/-- A running job is not handed out. -/
theorem Job.not_running_of_claim {job claimed : Job} {worker : WorkerId} {now : Instant}
    (granted : job.claim worker now = .ok claimed) : job.status ≠ .running := by
  intro running
  have claimable := claimable_of_claim granted
  rw [running] at claimable
  cases claimable

/-- A job that has ended is not handed out. -/
theorem Job.not_terminal_of_claim {job claimed : Job} {worker : WorkerId} {now : Instant}
    (granted : job.claim worker now = .ok claimed) : job.status.isTerminal = false :=
  JobStatus.not_terminal_of_claimable (claimable_of_claim granted)

/-- A claimed copy is running. -/
theorem Job.running_of_claim {job claimed : Job} {worker : WorkerId} {now : Instant}
    (granted : job.claim worker now = .ok claimed) : claimed.status = .running := by
  obtain ⟨_, rfl⟩ := claim_eq_ok granted
  rfl

/-- The job whose row a request may change. -/
def StoreCall.subject? : StoreCall → Option JobId
  | save job => some job.id
  | updateIfQueued job => some job.id
  | delete id => some id
  | claim id _ _ => some id
  | _ => none

/-- A reply that reports a change. -/
def StoreCall.Granted : (call : StoreCall) → call.Reply → Prop
  | .save _, .ok _ => True
  | .updateIfQueued _, .ok (some _) => True
  | .delete _, .ok true => True
  | .claim _ _ _, .ok (some _) => True
  | _, _ => False

namespace Store

/-- No other job has the intent of this one. -/
def Admits (store : Store) (job : Job) : Prop :=
  ∀ owner, store.owners.find? job.key = some owner → owner = job.id

/-- The job with a name has ended. -/
def Ended (store : Store) (id : JobId) : Prop :=
  ∃ stored, store.find id = some stored ∧ stored.status.isTerminal = true

/-- The job with a name waits in the queue. -/
def Queued (store : Store) (id : JobId) : Prop :=
  ∃ stored, store.find id = some stored ∧ stored.status = .queued

/-- Remove a job and the intent it has. -/
def without (store : Store) (job : Job) (id : JobId) : Store :=
  { rows := store.rows.erase id, owners := store.owners.erase job.key }

/-- Replace the row of a job whose intent stays where it is. -/
def withRow (store : Store) (id : JobId) (job : Job) : Store :=
  { store with rows := store.rows.insert id job }

/-- Writing a job shows under its own name only. -/
theorem find_write (store : Store) (job : Job) (other : JobId) :
    (store.write job).find other = if job.id = other then some job else store.find other :=
  Table.find?_insert store.rows job.id other job

/-- Removing a job shows under its own name only. -/
theorem find_without (store : Store) (job : Job) (id other : JobId) :
    (store.without job id).find other = if id = other then none else store.find other :=
  Table.find?_erase store.rows id other

/-- Replacing a row shows under its own name only. -/
theorem find_withRow (store : Store) (id other : JobId) (job : Job) :
    (store.withRow id job).find other = if id = other then some job else store.find other :=
  Table.find?_insert store.rows id other job

/-- A written job owns its intent. Any other intent keeps its owner, except for the one
that the job had before, which is free. -/
theorem owner_write (store : Store) (job : Job) (key : JobKey) :
    (store.write job).owners.find? key =
      if job.key = key then some job.id
      else if (store.find job.id).any (fun previous => decide (previous.key = key)) then none
      else store.owners.find? key := by
  unfold write
  simp only [Table.find?_insert]
  split
  · rfl
  · next differs =>
    unfold ownersWithout find
    cases present : store.rows.find? job.id with
    | none => simp
    | some previous =>
      by_cases kept : previous.key = job.key
      · have elsewhere : previous.key ≠ key := fun same => differs (kept.symm.trans same)
        simp [kept, differs]
      · simp only [if_neg kept, Table.find?_erase]
        by_cases freed : previous.key = key <;> simp [freed]

/-- A job is put exactly when the store admits it. -/
theorem put_cases (store : Store) (job : Job) :
    (store.Admits job ∧ store.put job = .ok (store.write job)) ∨
      (¬ store.Admits job ∧ store.put job = .error (.duplicateKey job.key)) := by
  unfold put Admits
  cases owned : store.owners.find? job.key with
  | none => exact Or.inl ⟨fun owner absent => (by cases absent), rfl⟩
  | some owner =>
    by_cases own : owner = job.id
    · exact Or.inl ⟨fun other same => Option.some.inj same ▸ own, by simp [own]⟩
    · exact Or.inr ⟨fun admitted => own (admitted owner rfl), by simp [own]⟩

/-- A test of the stored row holds exactly when there is a row that passes it. -/
theorem any_find_iff (store : Store) (id : JobId) (test : Job → Bool) :
    (store.find id).any test = true ↔
      ∃ stored, store.find id = some stored ∧ test stored = true := by
  cases store.find id <;> simp

/-- A save is refused for a job that has ended, then for an intent that another job has;
otherwise the job is written. -/
theorem save_cases (store : Store) (job : Job) :
    (store.Ended job.id ∧ store.save job = (.error (.terminal job.id), store)) ∨
      (¬ store.Ended job.id ∧ ¬ store.Admits job ∧
        store.save job = (.error (.duplicateKey job.key), store)) ∨
      (¬ store.Ended job.id ∧ store.Admits job ∧ store.save job = (.ok job, store.write job)) := by
  unfold save Ended
  rw [← any_find_iff store job.id (fun stored => stored.status.isTerminal)]
  by_cases ended : (store.find job.id).any (fun stored => stored.status.isTerminal) = true
  · exact Or.inl ⟨ended, by simp [ended]⟩
  · rcases put_cases store job with ⟨admitted, written⟩ | ⟨rejected, refused⟩
    · exact Or.inr (Or.inr ⟨ended, admitted, by simp [ended, written]⟩)
    · exact Or.inr (Or.inl ⟨ended, rejected, by simp [ended, refused]⟩)

/-- An update answers nothing for a job that is not queued, is refused for an intent that
another job has, and otherwise writes the job. -/
theorem updateIfQueued_cases (store : Store) (job : Job) :
    (¬ store.Queued job.id ∧ store.updateIfQueued job = (.ok none, store)) ∨
      (store.Queued job.id ∧ ¬ store.Admits job ∧
        store.updateIfQueued job = (.error (.duplicateKey job.key), store)) ∨
      (store.Queued job.id ∧ store.Admits job ∧
        store.updateIfQueued job = (.ok (some job), store.write job)) := by
  have test : (store.find job.id).any (fun stored => stored.status == .queued) = true ↔
      store.Queued job.id := by
    simp [any_find_iff, Queued]
  unfold updateIfQueued
  by_cases queued : store.Queued job.id
  · rcases put_cases store job with ⟨admitted, written⟩ | ⟨rejected, refused⟩
    · exact Or.inr (Or.inr ⟨queued, admitted, by simp [test.mpr queued, written]⟩)
    · exact Or.inr (Or.inl ⟨queued, rejected, by simp [test.mpr queued, refused]⟩)
  · exact Or.inl ⟨queued, by simp [mt test.mp queued]⟩

/-- A job is removed exactly while it is queued. -/
theorem delete_cases (store : Store) (id : JobId) :
    (¬ store.Queued id ∧ store.delete id = (false, store)) ∨
      ∃ stored, store.find id = some stored ∧ stored.status = .queued ∧
        store.delete id = (true, store.without stored id) := by
  unfold delete Queued
  cases present : store.find id with
  | none => exact Or.inl ⟨by simp, rfl⟩
  | some stored =>
    by_cases queued : stored.status = .queued
    · exact Or.inr ⟨stored, rfl, queued, by simp [queued, without]⟩
    · exact Or.inl ⟨by simpa using queued, by simp [queued]⟩

/-- A claim hands out a stored job that is due, and its row becomes the copy. -/
theorem claim_cases (store : Store) (id : JobId) (worker : WorkerId) (now : Instant) :
    ((∀ stored, store.find id = some stored → stored.isDue now = false) ∧
        store.claim id worker now = (none, store)) ∨
      ∃ stored copy, store.find id = some stored ∧ stored.claim worker now = .ok copy ∧
        store.claim id worker now = (some copy, store.withRow id copy) := by
  unfold claim
  cases present : store.find id with
  | none => exact Or.inl ⟨by simp, rfl⟩
  | some stored =>
    by_cases due : stored.isDue now = true
    · have granted : stored.claim worker now = .ok _ := Job.claim_of_isDue due
      exact Or.inr ⟨stored, _, rfl, granted, by simp only [granted, withRow]⟩
    · have notDue : stored.isDue now = false := by simpa using due
      exact Or.inl ⟨by simpa using notDue, by simp [Job.claim, notDue]⟩

/-- What a store does to grant a request that changes it, and how it reports that. -/
inductive Grants (store : Store) : (call : StoreCall) → call.Reply → Store → Prop
  | saved {job : Job} (unended : ¬ store.Ended job.id) (admits : store.Admits job) :
    Grants store (.save job) (.ok job) (store.write job)
  | moved {job : Job} (queued : store.Queued job.id) (admits : store.Admits job) :
    Grants store (.updateIfQueued job) (.ok (some job)) (store.write job)
  | deleted {id : JobId} {row : Job} (found : store.find id = some row)
      (queued : row.status = .queued) :
    Grants store (.delete id) (.ok true) (store.without row id)
  | claimed {id : JobId} {worker : WorkerId} {now : Instant} {row copy : Job}
      (found : store.find id = some row) (granted : row.claim worker now = .ok copy) :
    Grants store (.claim id worker now) (.ok (some copy)) (store.withRow id copy)

/-- A store changes exactly if it reports so. -/
theorem answer_cases (store : Store) (call : StoreCall) :
    (∃ reply, store.answer call = (reply, store) ∧ ¬ call.Granted reply) ∨
      ∃ reply after, store.answer call = (reply, after) ∧ call.Granted reply ∧
        store.Grants call reply after := by
  cases call with
  | findByKey key => exact Or.inl ⟨_, rfl, id⟩
  | find name => exact Or.inl ⟨_, rfl, id⟩
  | listDue now limit => exact Or.inl ⟨_, rfl, id⟩
  | listRange start stop statuses => exact Or.inl ⟨_, rfl, id⟩
  | tally => exact Or.inl ⟨_, rfl, id⟩
  | save job =>
    rcases store.save_cases job with ⟨_, refused⟩ | ⟨_, _, refused⟩ | ⟨unended, admits, written⟩
    · exact Or.inl ⟨_, refused, id⟩
    · exact Or.inl ⟨_, refused, id⟩
    · exact Or.inr ⟨_, _, written, trivial, .saved unended admits⟩
  | updateIfQueued job =>
    rcases store.updateIfQueued_cases job with
      ⟨_, refused⟩ | ⟨_, _, refused⟩ | ⟨queued, admits, written⟩
    · exact Or.inl ⟨_, refused, id⟩
    · exact Or.inl ⟨_, refused, id⟩
    · exact Or.inr ⟨_, _, written, trivial, .moved queued admits⟩
  | delete name =>
    rcases store.delete_cases name with ⟨_, refused⟩ | ⟨row, found, queued, removed⟩
    · exact Or.inl ⟨.ok false, by simp [answer, refused], id⟩
    · exact Or.inr ⟨.ok true, _, by simp [answer, removed], trivial, .deleted found queued⟩
  | claim name worker now =>
    rcases store.claim_cases name worker now with ⟨_, refused⟩ | ⟨row, copy, found, granted, won⟩
    · exact Or.inl ⟨.ok none, by simp [answer, refused], id⟩
    · exact Or.inr ⟨.ok (some copy), _, by simp [answer, won], trivial, .claimed found granted⟩

/-- A change shows in no row but the one that its request is about. -/
theorem Grants.find_of_ne {store after : Store} {call : StoreCall} {reply : call.Reply}
    (grants : store.Grants call reply after) {other : JobId}
    (different : call.subject? ≠ some other) : after.find other = store.find other := by
  have elsewhere {id : JobId} (about : call.subject? = some id) : id ≠ other :=
    fun same => different (about.trans (congrArg some same))
  cases grants with
  | saved unended admits => rw [find_write, if_neg (elsewhere rfl)]
  | moved queued admits => rw [find_write, if_neg (elsewhere rfl)]
  | deleted found queued => rw [find_without, if_neg (elsewhere rfl)]
  | claimed found granted => rw [find_withRow, if_neg (elsewhere rfl)]

/-- A request shows in no row but the one that it is about. -/
theorem find_answer_of_ne (store : Store) {call : StoreCall} {other : JobId}
    (different : call.subject? ≠ some other) :
    (store.answer call).2.find other = store.find other := by
  rcases store.answer_cases call with ⟨_, kept, _⟩ | ⟨_, _, changed, _, grants⟩
  · rw [kept]
  · rw [changed]
    exact grants.find_of_ne different

/-- A change that was reported was made. -/
theorem grants_of_granted {store : Store} {call : StoreCall} {reply : call.Reply}
    (answers : (store.answer call).1 = reply) (granted : call.Granted reply) :
    store.Grants call reply (store.answer call).2 := by
  subst answers
  rcases store.answer_cases call with ⟨_, refused, ungranted⟩ | ⟨_, _, changed, _, grants⟩
  · rw [refused] at granted
    exact absurd granted ungranted
  · rw [changed]
    exact grants

/-- A job that was saved is stored as it was given. -/
theorem find_of_saved {store : Store} {job saved : Job}
    (granted : (store.answer (.save job)).1 = .ok saved) :
    saved = job ∧ (store.answer (.save job)).2.find job.id = some job := by
  have grants := grants_of_granted granted trivial
  generalize (store.answer (.save job)).2 = after at grants ⊢
  cases grants with
  | saved unended admits => exact ⟨rfl, by rw [find_write, if_pos rfl]⟩

/-- A job that was updated is stored as it was given. -/
theorem find_of_moved {store : Store} {moved saved : Job}
    (granted : (store.answer (.updateIfQueued moved)).1 = .ok (some saved)) :
    saved = moved ∧ (store.answer (.updateIfQueued moved)).2.find moved.id = some moved := by
  have grants := grants_of_granted granted trivial
  generalize (store.answer (.updateIfQueued moved)).2 = after at grants ⊢
  cases grants with
  | moved queued admits => exact ⟨rfl, by rw [find_write, if_pos rfl]⟩

/-- A job that was removed was queued, and every other row stays. -/
theorem row_of_deleted {store : Store} {id : JobId}
    (granted : (store.answer (.delete id)).1 = .ok true) :
    ∃ row, store.find id = some row ∧ row.status = .queued ∧
      ∀ other, (store.answer (.delete id)).2.find other =
        if id = other then none else store.find other := by
  have grants := grants_of_granted granted trivial
  generalize (store.answer (.delete id)).2 = after at grants ⊢
  cases grants with
  | deleted found queued => exact ⟨_, found, queued, find_without _ _ _⟩

/-- A copy that was handed out is of the row as it was, and is the row from then on. -/
theorem row_of_claimed {store : Store} {id : JobId} {worker : WorkerId} {now : Instant} {copy : Job}
    (granted : (store.answer (.claim id worker now)).1 = .ok (some copy)) :
    ∃ row, store.find id = some row ∧ row.claim worker now = .ok copy ∧
      (store.answer (.claim id worker now)).2.find id = some copy := by
  have grants := grants_of_granted granted trivial
  generalize (store.answer (.claim id worker now)).2 = after at grants ⊢
  cases grants with
  | claimed found granted => exact ⟨_, found, granted, by rw [find_withRow, if_pos rfl]⟩

/-- A listing of due jobs holds stored jobs that are due. -/
theorem due_of_listed {store : Store} {now : Instant} {limit : Nat} {job : Job}
    (listed : job ∈ store.listDue now limit) :
    (∃ id, store.find id = some job) ∧ job.isDue now = true := by
  have inOrder : job ∈ inListingOrder (store.rows.values.filter fun job => job.isDue now) :=
    List.mem_of_mem_take listed
  have filtered := List.mem_filter.mp ((List.mergeSort_perm _ _).mem_iff.mp inOrder)
  exact ⟨(Table.mem_values_iff _ _).mp filtered.1, filtered.2⟩

end Store

end TimedPublishing
