import TimedPublishing.Proofs.Custody.Exclusion
import TimedPublishing.Proofs.Interleaving.Conduct

/-!
# Hands and custody

What a caller has in hand is backed by the custody of the store: a name that was just made up was
never used, a job that was read is a version that was stored, and a claimed copy is held. A
request that is right with what is in hand is then an act that the discipline of custody allows,
and it uses up nothing but what its caller alone lays claim to, the job that it may save.
-/

namespace TimedPublishing

/-- The job that a hand lays claim to alone: the one it may save. -/
def Hand.token? : Hand → Option JobId
  | empty => none
  | name id => some id
  | read _ => none
  | copy job => some job.id
  | answered job _ => some job.id

/-- The act that a store request is in the hands of its caller. Looking around is none. -/
def Hand.act? (hand : Hand) : (call : StoreCall) → Option { act : Act // act.call = call }
  | .save job =>
    match hand with
    | answered own _ => some ⟨.conclude own job, rfl⟩
    | _ => some ⟨.enlist job, rfl⟩
  | .claim id worker now => some ⟨.claim id worker now, rfl⟩
  | .updateIfQueued moved => some ⟨.move moved, rfl⟩
  | .delete id => some ⟨.delete id, rfl⟩
  | _ => none

/-- What backs a hand. -/
def Hand.Backed (issued : List JobId) (custody : Custody) : Hand → Prop
  | empty => True
  | name id => id ∈ issued ∧ id ∉ custody.used
  | read version => version ∈ custody.versions
  | copy job => job ∈ custody.held
  | answered job _ => job ∈ custody.held

/-- The name or the copy that an act uses up. -/
def Act.spent? : Act → Option JobId
  | enlist job => some job.id
  | conclude copy _ => some copy.id
  | _ => none

/-- Only an execution begins with something in hand. -/
theorem Hand.initial_cases (operation : Operation) :
    Hand.initial operation = .empty ∨
      ∃ copy, operation = .execute copy ∧ Hand.initial operation = .copy copy := by
  cases operation with
  | execute copy => exact Or.inr ⟨copy, rfl, rfl⟩
  | schedule content publishAt => exact Or.inl rfl
  | unschedule id => exact Or.inl rfl
  | reschedule id publishAt => exact Or.inl rfl
  | claimNext worker => exact Or.inl rfl
  | runDue worker maxJobs => exact Or.inl rfl
  | listRange start stop statuses => exact Or.inl rfl
  | tally => exact Or.inl rfl

/-- An operation leaves every copy that is handed out, but for the one that it takes. -/
theorem Operation.leaves_sublist (operation : Operation) (handedOut : List Job) :
    (operation.leaves handedOut).Sublist handedOut := by
  cases operation with
  | execute copy => exact List.erase_sublist
  | schedule content publishAt => exact List.Sublist.refl _
  | unschedule id => exact List.Sublist.refl _
  | reschedule id publishAt => exact List.Sublist.refl _
  | claimNext worker => exact List.Sublist.refl _
  | runDue worker maxJobs => exact List.Sublist.refl _
  | listRange start stop statuses => exact List.Sublist.refl _
  | tally => exact List.Sublist.refl _

/-- An operation hands out nothing, or the copy that its caller has in hand. -/
theorem Operation.handsOut_cases {operation : Operation} {hand : Hand} {value : operation.Result}
    (ends : operation.Ends hand value) :
    operation.handsOut value = [] ∨
      ∃ copy, hand = .copy copy ∧ operation.handsOut value = [copy] := by
  cases operation with
  | claimNext worker =>
    change Option Job at value
    cases value with
    | none => exact Or.inl rfl
    | some copy => exact Or.inr ⟨copy, ends copy rfl, rfl⟩
  | schedule content publishAt => exact Or.inl rfl
  | unschedule id => exact Or.inl rfl
  | reschedule id publishAt => exact Or.inl rfl
  | execute copy => exact Or.inl rfl
  | runDue worker maxJobs => exact Or.inl rfl
  | listRange start stop statuses => exact Or.inl rfl
  | tally => exact Or.inl rfl

namespace Custody

variable {custody : Custody} {act : Act}

/-- A copy stays held through an act that does not use it up. -/
theorem mem_heldAfter {copy : Job} (held : copy ∈ custody.held)
    (unspent : act.spent? ≠ some copy.id) : copy ∈ (custody.after act).held := by
  change copy ∈ custody.heldAfter act
  cases act with
  | claim id worker now => exact List.mem_append_right _ held
  | conclude own concluded =>
    have different : copy ≠ own := by
      rintro rfl
      exact unspent rfl
    exact (List.mem_erase_of_ne different).mpr held
  | enlist job => exact held
  | move moved => exact held
  | delete id => exact held

/-- Only a saved new job uses a name. -/
theorem mem_usedAfter {id : JobId} (used : id ∈ (custody.after act).used) :
    id ∈ custody.used ∨ act.spent? = some id := by
  change id ∈ custody.usedAfter act at used
  cases act with
  | enlist job =>
    rcases List.mem_cons.mp used with own | old
    · exact Or.inr (congrArg some own.symm)
    · exact Or.inl old
  | claim id worker now => exact Or.inl used
  | move moved => exact Or.inl used
  | delete id => exact Or.inl used
  | conclude copy concluded => exact Or.inl used

end Custody

namespace Hand.Backed

variable {issued : List JobId} {custody : Custody} {hand : Hand}

/-- A hand stays backed through every act that does not use up what is in it. -/
theorem after (backed : hand.Backed issued custody) {act : Act}
    (unspent : ∀ id, hand.token? = some id → act.spent? ≠ some id) :
    hand.Backed issued (custody.after act) := by
  cases hand with
  | empty => trivial
  | name id =>
    refine ⟨backed.1, ?_⟩
    intro used
    rcases Custody.mem_usedAfter used with old | own
    · exact backed.2 old
    · exact unspent id rfl own
  | read version => exact List.mem_append_right _ backed
  | copy job => exact Custody.mem_heldAfter backed (unspent job.id rfl)
  | answered job reply => exact Custody.mem_heldAfter backed (unspent job.id rfl)

/-- More names do not unback a hand. -/
theorem issue (backed : hand.Backed issued custody) (id : JobId) :
    hand.Backed (id :: issued) custody := by
  cases hand with
  | name own => exact ⟨List.mem_cons_of_mem id backed.1, backed.2⟩
  | empty => trivial
  | read version => exact backed
  | copy job => exact backed
  | answered job reply => exact backed

end Hand.Backed

/-- What a scheduler saves for an answer is an outcome of the copy. -/
theorem Scheduler.outcome_concludes {scheduler : Scheduler} {copy concluded : Job}
    {reply : PublishReply} {now : Instant}
    (entered : copy.change (scheduler.outcome copy reply now) = .ok concluded) :
    copy.Concludes concluded := by
  rcases outcome_cases entered with
    ⟨_, succeeds⟩ | ⟨_, reason, nextRetryAt, _, waits⟩ | ⟨_, _, reason, fails⟩
  · exact .succeeded now succeeds
  · exact .retried reason nextRetryAt now waits
  · exact .failed reason now fails

namespace Hand

variable {hand : Hand} {scheduler : Scheduler} {call : StoreCall}
variable {act : Act} {same : act.call = call}

/-- A new job is saved by the caller that has its name in hand. -/
theorem named_of_enlist {job : Job} {same : (Act.enlist job).call = call}
    (permitted : hand.Permits scheduler (.store call))
    (acts : hand.act? call = some ⟨.enlist job, same⟩) :
    hand = .name job.id ∧ ∃ content publishAt now, job = .create job.id content publishAt now := by
  cases same
  rcases permitted with ⟨content, publishAt, now, named, new⟩ | ⟨own, reply, now, answered, _⟩
  · exact ⟨named, content, publishAt, now, new⟩
  · subst answered
    cases acts

/-- An outcome is saved by the caller that has the answer in hand, and follows from it. -/
theorem answered_of_conclude {copy concluded : Job}
    {same : (Act.conclude copy concluded).call = call}
    (permitted : hand.Permits scheduler (.store call))
    (acts : hand.act? call = some ⟨.conclude copy concluded, same⟩) :
    ∃ reply now, hand = .answered copy reply ∧
      copy.change (scheduler.outcome copy reply now) = .ok concluded := by
  cases same
  rcases permitted with ⟨content, publishAt, now, named, _⟩ | ⟨own, reply, now, answered, entered⟩
  · change hand = .name concluded.id at named
    subst named
    cases acts
  · subst answered
    cases acts
    exact ⟨reply, now, rfl, entered⟩

/-- A right request of a backed hand is an act that the discipline allows. -/
theorem Backed.allows {issued : List JobId} {custody : Custody}
    (backed : hand.Backed issued custody)
    (permitted : hand.Permits scheduler (.store call)) (acts : hand.act? call = some ⟨act, same⟩) :
    custody.Allows act := by
  cases act with
  | enlist job =>
    obtain ⟨rfl, new⟩ := named_of_enlist permitted acts
    exact ⟨backed.2, new⟩
  | conclude copy concluded =>
    obtain ⟨reply, now, rfl, entered⟩ := answered_of_conclude permitted acts
    exact ⟨backed, Scheduler.outcome_concludes entered⟩
  | move moved =>
    cases same
    obtain ⟨version, publishAt, now, rfl, moves⟩ := permitted
    exact ⟨version, backed, publishAt, now, moves⟩
  | claim id worker now => trivial
  | delete id => trivial

/-- An act uses up nothing but what its caller lays claim to. -/
theorem token_of_spent (permitted : hand.Permits scheduler (.store call))
    (acts : hand.act? call = some ⟨act, same⟩) {id : JobId} (spent : act.spent? = some id) :
    hand.token? = some id := by
  cases act with
  | enlist job =>
    obtain ⟨rfl, _⟩ := named_of_enlist permitted acts
    exact spent
  | conclude copy concluded =>
    obtain ⟨reply, now, rfl, _⟩ := answered_of_conclude permitted acts
    exact spent
  | claim id worker now => cases spent
  | move moved => cases spent
  | delete id => cases spent

/-- Only a save uses anything up. -/
theorem unspent_of_not_save (acts : hand.act? call = some ⟨act, same⟩)
    (looks : ∀ job, call ≠ .save job) : act.spent? = none := by
  cases act with
  | enlist job => exact absurd same.symm (looks job)
  | conclude copy concluded => exact absurd same.symm (looks concluded)
  | claim id worker now => rfl
  | move moved => rfl
  | delete id => rfl

/-- A request that is no act leaves the store as it is. -/
theorem store_of_look (store : Store) (looks : hand.act? call = none) :
    (store.answer call).2 = store := by
  cases call with
  | save job => cases hand <;> cases looks
  | updateIfQueued moved => cases looks
  | claim id worker now => cases looks
  | delete id => cases looks
  | findByKey key => rfl
  | find id => rfl
  | listDue now limit => rfl
  | listRange start stop statuses => rfl
  | tally => rfl

/-- After a request to the store a hand is empty, or as before, or it has the job that was
found, or the copy of a claim that was won and reported. -/
theorem next_cases (hand : Hand) (store : Store) (call : StoreCall) (course : Course) :
    hand.next (.store call) (course.reply (store.answer call).1) = .empty ∨
      (hand.next (.store call) (course.reply (store.answer call).1) = hand ∧
        ∀ job, call ≠ .save job) ∨
      (∃ id job, store.find id = some job ∧
        hand.next (.store call) (course.reply (store.answer call).1) = .read job) ∨
      ∃ id worker now copy, course = .regular ∧ call = .claim id worker now ∧
        (store.claim id worker now).1 = some copy ∧
        hand.next (.store call) (course.reply (store.answer call).1) = .copy copy := by
  cases call with
  | save job => exact Or.inl rfl
  | find id =>
    cases course with
    | regular =>
      cases found : store.find id with
      | none =>
        have unchanged : hand.next (.store (.find id)) (.ok (store.find id)) = hand := by
          rw [found]
          rfl
        exact Or.inr (Or.inl ⟨unchanged, by simp⟩)
      | some job =>
        have read : hand.next (.store (.find id)) (.ok (store.find id)) = .read job := by
          rw [found]
          rfl
        exact Or.inr (Or.inr (Or.inl ⟨id, job, found, read⟩))
    | unwritten detail => exact Or.inr (Or.inl ⟨rfl, by simp⟩)
    | unreported detail => exact Or.inr (Or.inl ⟨rfl, by simp⟩)
  | claim id worker now =>
    cases course with
    | regular =>
      cases won : (store.claim id worker now).1 with
      | none =>
        have unchanged : hand.next (.store (.claim id worker now))
            (.ok (store.claim id worker now).1) = hand := by
          rw [won]
          rfl
        exact Or.inr (Or.inl ⟨unchanged, by simp⟩)
      | some copy =>
        have taken : hand.next (.store (.claim id worker now))
            (.ok (store.claim id worker now).1) = .copy copy := by
          rw [won]
          rfl
        exact Or.inr (Or.inr (Or.inr ⟨id, worker, now, copy, rfl, rfl, won, taken⟩))
    | unwritten detail => exact Or.inr (Or.inl ⟨rfl, by simp⟩)
    | unreported detail => exact Or.inr (Or.inl ⟨rfl, by simp⟩)
  | updateIfQueued moved => exact Or.inr (Or.inl ⟨rfl, by simp⟩)
  | delete id => exact Or.inr (Or.inl ⟨rfl, by simp⟩)
  | findByKey key => exact Or.inr (Or.inl ⟨rfl, by simp⟩)
  | listDue now limit => exact Or.inr (Or.inl ⟨rfl, by simp⟩)
  | listRange start stop statuses => exact Or.inr (Or.inl ⟨rfl, by simp⟩)
  | tally => exact Or.inr (Or.inl ⟨rfl, by simp⟩)

end Hand

end TimedPublishing
