import TimedPublishing.Proofs.Interleaving.Hands
import TimedPublishing.Proofs.Interleaving.Protocols

/-!
# Callers keep the discipline

What callers have in hand is backed by the store's custody. No two callers have the same job in
hand, and none has one that is handed out, so what one of them uses up is no other's. Every
interleaving of callers is therefore a run of custody, and the sound store of the latter is theirs.

The invariant is carried past a step by taking the caller out, letting its request happen among
the others, and putting it back with what it has in hand then.
-/

namespace TimedPublishing

namespace System

/-- Someone lays claim to a job: a caller, or whoever takes a copy that is handed out. -/
def Claimed (system : System) (id : JobId) : Prop :=
  (∃ copy ∈ system.handedOut, copy.id = id) ∨
    ∃ index caller, system.callers index = some caller ∧ caller.hand.token? = some id

/-- Whoever is put at a place last is there. -/
theorem put_put (system : System) (index : Nat) (first second : Option Caller) :
    (system.put index first).put index second = system.put index second := by
  simp [put, Function.update_idem]

/-- What holds between callers and the custody of their store, in every interleaving. -/
structure Backed (system : System) (custody : Custody) : Prop where
  sound : custody.Sound
  sameStore : system.store = custody.store
  issued : ∀ id ∈ custody.used, id ∈ system.issued
  handed : ∀ copy ∈ system.handedOut, copy ∈ custody.held
  /-- A copy is handed out once. -/
  handedOnce : (system.handedOut.map Job.id).Nodup
  follows : ∀ {index caller}, system.callers index = some caller →
    caller.left.Follows caller.scheduler caller.operation.Ends caller.hand
  hands : ∀ {index caller}, system.callers index = some caller →
    caller.hand.Backed system.issued custody
  /-- A caller's claim is exclusive among callers. -/
  alone : ∀ {left right leftCaller rightCaller id}, system.callers left = some leftCaller →
    system.callers right = some rightCaller → leftCaller.hand.token? = some id →
    rightCaller.hand.token? = some id → left = right
  /-- A caller's claim is exclusive against the copies that are handed out. -/
  apart : ∀ {index caller id}, system.callers index = some caller →
    caller.hand.token? = some id → ∀ copy ∈ system.handedOut, copy.id ≠ id

namespace Backed

variable {system : System} {custody : Custody}

/-- Nobody at the empty store. -/
theorem initial : System.initial.Backed .empty where
  sound := Custody.Sound.empty
  sameStore := rfl
  issued := by simp [Custody.empty]
  handed := by simp [System.initial]
  handedOnce := List.nodup_nil
  follows := by
    intro index caller absent
    cases absent
  hands := by
    intro index caller absent
    cases absent
  alone := by
    intro left right leftCaller rightCaller id absent
    cases absent
  apart := by
    intro index caller id absent
    cases absent

/-- A caller may leave. -/
theorem leave (backed : system.Backed custody) (index : Nat) :
    (system.put index none).Backed custody where
  sound := backed.sound
  sameStore := backed.sameStore
  issued := backed.issued
  handed := backed.handed
  handedOnce := backed.handedOnce
  follows := by
    intro other caller found
    rcases put_cases found with ⟨_, impossible⟩ | ⟨_, found⟩
    · cases impossible
    · exact backed.follows found
  hands := by
    intro other caller found
    rcases put_cases found with ⟨_, impossible⟩ | ⟨_, found⟩
    · cases impossible
    · exact backed.hands found
  alone := by
    intro left right leftCaller rightCaller id leftFound rightFound
    rcases put_cases leftFound with ⟨_, impossible⟩ | ⟨_, leftFound⟩
    · cases impossible
    rcases put_cases rightFound with ⟨_, impossible⟩ | ⟨_, rightFound⟩
    · cases impossible
    exact backed.alone leftFound rightFound
  apart := by
    intro other caller id found
    rcases put_cases found with ⟨_, impossible⟩ | ⟨_, found⟩
    · cases impossible
    · exact backed.apart found

/-- Nobody else lays claim to what a caller does. -/
theorem unclaimed (backed : system.Backed custody) {index : Nat} {caller : Caller}
    (found : system.callers index = some caller) (id : JobId)
    (token : caller.hand.token? = some id) : ¬ (system.put index none).Claimed id := by
  rintro (⟨copy, handed, same⟩ | ⟨other, another, present, shared⟩)
  · exact backed.apart found token copy handed same
  · rcases put_cases present with ⟨_, impossible⟩ | ⟨different, present⟩
    · cases impossible
    · exact different (backed.alone present found shared token)

/-- A caller may come, with a program that follows the rule and a hand that is backed and lays
claim to nothing that is another's. -/
theorem join (backed : system.Backed custody) (index : Nat) {caller : Caller}
    (follows : caller.left.Follows caller.scheduler caller.operation.Ends caller.hand)
    (hand : caller.hand.Backed system.issued custody)
    (free : ∀ id, caller.hand.token? = some id → ¬ system.Claimed id) :
    (system.put index (some caller)).Backed custody where
  sound := backed.sound
  sameStore := backed.sameStore
  issued := backed.issued
  handed := backed.handed
  handedOnce := backed.handedOnce
  follows := by
    intro other another found
    rcases put_cases found with ⟨_, same⟩ | ⟨_, found⟩
    · cases same
      exact follows
    · exact backed.follows found
  hands := by
    intro other another found
    rcases put_cases found with ⟨_, same⟩ | ⟨_, found⟩
    · cases same
      exact hand
    · exact backed.hands found
  alone := by
    intro left right leftCaller rightCaller id leftFound rightFound leftToken rightToken
    rcases put_cases leftFound with ⟨leftHere, leftSame⟩ | ⟨_, leftFound⟩
    · rcases put_cases rightFound with ⟨rightHere, _⟩ | ⟨_, rightFound⟩
      · exact leftHere.trans rightHere.symm
      · cases leftSame
        exact absurd (Or.inr ⟨right, rightCaller, rightFound, rightToken⟩) (free id leftToken)
    · rcases put_cases rightFound with ⟨_, rightSame⟩ | ⟨_, rightFound⟩
      · cases rightSame
        exact absurd (Or.inr ⟨left, leftCaller, leftFound, leftToken⟩) (free id rightToken)
      · exact backed.alone leftFound rightFound leftToken rightToken
  apart := by
    intro other another id found token copy handed same
    rcases put_cases found with ⟨_, here⟩ | ⟨_, found⟩
    · cases here
      exact free id token (Or.inl ⟨copy, handed, same⟩)
    · exact backed.apart found token copy handed same

/-- An act happens among callers that lay no claim to what it uses up. -/
theorem acted (backed : system.Backed custody) {act : Act} (allowed : custody.Allows act)
    (spent : ∀ id, act.spent? = some id → id ∈ system.issued ∧ ¬ system.Claimed id) :
    ({ system with store := (custody.store.answer act.call).2 } : System).Backed
      (custody.after act) where
  sound := backed.sound.after allowed
  sameStore := rfl
  issued := by
    intro id used
    rcases Custody.mem_usedAfter used with old | own
    · exact backed.issued id old
    · exact (spent id own).1
  handed := by
    intro copy handed
    apply Custody.mem_heldAfter (backed.handed copy handed)
    intro own
    exact (spent copy.id own).2 (Or.inl ⟨copy, handed, rfl⟩)
  handedOnce := backed.handedOnce
  follows := backed.follows
  hands := by
    intro index caller found
    apply (backed.hands found).after
    intro id token own
    exact (spent id own).2 (Or.inr ⟨index, caller, found, token⟩)
  alone := backed.alone
  apart := backed.apart

/-- A held copy is of a job that was named. -/
theorem issued_of_held (backed : system.Backed custody) {copy : Job} (held : copy ∈ custody.held) :
    copy.id ∈ system.issued :=
  backed.issued copy.id (backed.sound.named (backed.sound.stored copy held))

/-- What a backed hand lays claim to was named. -/
theorem issued_of_token (backed : system.Backed custody) {hand : Hand}
    (held : hand.Backed system.issued custody) {id : JobId} (token : hand.token? = some id) :
    id ∈ system.issued := by
  cases hand with
  | empty => cases token
  | name own =>
    cases token
    exact held.1
  | read version => cases token
  | copy job =>
    cases token
    exact backed.issued_of_held held
  | answered job reply =>
    cases token
    exact backed.issued_of_held held

/-- Whoever lays claim to a job lays claim to a new name or to a held copy. -/
theorem claimed_cases (backed : system.Backed custody) {id : JobId} (claimed : system.Claimed id) :
    id ∉ custody.used ∨ ∃ copy ∈ custody.held, copy.id = id := by
  rcases claimed with ⟨copy, handed, same⟩ | ⟨index, caller, found, token⟩
  · exact Or.inr ⟨copy, backed.handed copy handed, same⟩
  · have held := backed.hands found
    cases hand : caller.hand with
    | empty =>
      rw [hand] at token
      cases token
    | name own =>
      rw [hand] at token held
      cases token
      exact Or.inl held.2
    | read version =>
      rw [hand] at token
      cases token
    | copy job =>
      rw [hand] at token held
      exact Or.inr ⟨job, held, Option.some.inj token⟩
    | answered job reply =>
      rw [hand] at token held
      exact Or.inr ⟨job, held, Option.some.inj token⟩

/-- A request that is right happens among callers that lay no claim to what it may use up. The
custody after it knows every version from before, and a claim that was made. -/
theorem recorded (backed : system.Backed custody) {scheduler : Scheduler} {hand : Hand}
    (held : hand.Backed system.issued custody)
    (free : ∀ id, hand.token? = some id → ¬ system.Claimed id) {call : StoreCall}
    (permitted : hand.Permits scheduler (.store call)) (course : Course) :
    ∃ present : Custody,
      (system.served call course).Backed present ∧
      (∀ version ∈ custody.versions, version ∈ present.versions) ∧
      ((∀ job, call ≠ .save job) → hand.Backed system.issued present) ∧
      ∀ id worker now, course = .regular → call = .claim id worker now →
        present = custody.after (.claim id worker now) := by
  unfold served Course.store
  cases reaches : course.writes with
  | false =>
    refine ⟨custody, backed, fun version noted => noted, fun _ => held, ?_⟩
    rintro id worker now rfl
    cases reaches
  | true =>
    cases acts : hand.act? call with
    | none =>
      refine ⟨custody, ?_, fun version noted => noted, fun _ => held, ?_⟩
      · rw [if_pos rfl, Hand.store_of_look system.store acts]
        exact backed
      · rintro id worker now _ rfl
        cases acts
    | some pair =>
      obtain ⟨act, rfl⟩ := pair
      refine ⟨custody.after act, ?_, ?_, ?_, ?_⟩
      · rw [if_pos rfl, backed.sameStore]
        apply backed.acted (held.allows permitted acts)
        intro id spent
        have token := Hand.token_of_spent permitted acts spent
        exact ⟨backed.issued_of_token held token, free id token⟩
      · intro version noted
        exact List.mem_append_right _ noted
      · intro looks
        apply held.after
        intro id _ spent
        rw [Hand.unspent_of_not_save acts looks] at spent
        cases spent
      · intro id worker now _ claims
        cases act with
        | claim own other instant =>
          cases claims
          rfl
        | enlist job => cases claims
        | move moved => cases claims
        | delete own => cases claims
        | conclude copy concluded => cases claims

/-- What a caller that was taken out has in hand after its request is backed and nobody
else's. -/
theorem asked (backed : system.Backed custody) {scheduler : Scheduler} {hand : Hand}
    (held : hand.Backed system.issued custody)
    (free : ∀ id, hand.token? = some id → ¬ system.Claimed id) {call : StoreCall}
    (permitted : hand.Permits scheduler (.store call)) (course : Course) :
    ∃ present : Custody,
      (system.served call course).Backed present ∧
      (hand.next (.store call) (course.reply (system.store.answer call).1)).Backed system.issued
        present ∧
      ∀ id, (hand.next (.store call) (course.reply (system.store.answer call).1)).token? = some id →
        ¬ system.Claimed id := by
  obtain ⟨present, among, known, kept, claims⟩ := backed.recorded held free permitted course
  refine ⟨present, among, ?_⟩
  rcases hand.next_cases system.store call course with
    emptied | ⟨same, looks⟩ | ⟨id, job, found, read⟩ |
      ⟨id, worker, now, copy, regular, claim, won, taken⟩
  · rw [emptied]
    exact ⟨trivial, fun id token => by cases token⟩
  · rw [same]
    exact ⟨kept looks, free⟩
  · rw [read]
    refine ⟨known job (backed.sound.noted (backed.sameStore ▸ found)), ?_⟩
    intro other token
    cases token
  · rw [taken]
    rw [backed.sameStore] at won
    obtain ⟨sameId, _, _, elsewhere⟩ := backed.sound.claim_won won
    refine ⟨?_, ?_⟩
    · rw [claims id worker now regular claim]
      exact List.mem_append_left _ (Option.mem_toList.mpr won)
    · rintro other token claimed
      cases token
      rcases backed.claimed_cases claimed with new | ⟨another, heldBefore, same⟩
      · obtain ⟨row, found, _⟩ := Store.row_of_claimed (congrArg Except.ok won)
        exact new (sameId ▸ backed.sound.named found)
      · exact elsewhere another heldBefore (same.trans sameId)

/-- Copies that were handed out may be taken away. -/
theorem fewer (backed : system.Backed custody) {remaining : List Job}
    (fewer : remaining.Sublist system.handedOut) :
    ({ system with handedOut := remaining } : System).Backed custody where
  sound := backed.sound
  sameStore := backed.sameStore
  issued := backed.issued
  handed := by
    intro copy handed
    exact backed.handed copy (fewer.subset handed)
  handedOnce := backed.handedOnce.sublist (fewer.map Job.id)
  follows := backed.follows
  hands := backed.hands
  alone := backed.alone
  apart := by
    intro index caller id found token copy handed
    exact backed.apart found token copy (fewer.subset handed)

/-- A held copy of a job that nobody lays claim to may be handed out. -/
theorem handOut (backed : system.Backed custody) {copy : Job} (held : copy ∈ custody.held)
    (free : ¬ system.Claimed copy.id) :
    ({ system with handedOut := copy :: system.handedOut } : System).Backed custody where
  sound := backed.sound
  sameStore := backed.sameStore
  issued := backed.issued
  handed := by
    intro other handed
    rcases List.mem_cons.mp handed with rfl | before
    · exact held
    · exact backed.handed other before
  handedOnce := by
    refine List.nodup_cons.mpr ⟨?_, backed.handedOnce⟩
    intro repeated
    obtain ⟨other, handed, same⟩ := List.mem_map.mp repeated
    exact free (Or.inl ⟨other, handed, same⟩)
  follows := backed.follows
  hands := backed.hands
  alone := backed.alone
  apart := by
    intro index caller id found token other handed same
    rcases List.mem_cons.mp handed with rfl | before
    · exact free (Or.inr ⟨index, caller, found, same ▸ token⟩)
    · exact backed.apart found token other before same

/-- A name that was never made up may be. -/
theorem issue (backed : system.Backed custody) (id : JobId) :
    ({ system with issued := id :: system.issued } : System).Backed custody where
  sound := backed.sound
  sameStore := backed.sameStore
  issued := by
    intro other used
    exact List.mem_cons_of_mem id (backed.issued other used)
  handed := backed.handed
  handedOnce := backed.handedOnce
  follows := backed.follows
  hands := by
    intro index caller found
    exact (backed.hands found).issue id
  alone := backed.alone
  apart := backed.apart

/-- Whatever anybody lays claim to was named. -/
theorem issued_of_claimed (backed : system.Backed custody) {id : JobId}
    (claimed : system.Claimed id) : id ∈ system.issued := by
  rcases claimed with ⟨copy, handed, rfl⟩ | ⟨index, caller, found, token⟩
  · exact backed.issued_of_held (backed.handed copy handed)
  · exact backed.issued_of_token (backed.hands found) token

/-- A caller may begin any operation. A copy that it takes to execute is no longer handed
out. -/
theorem begin (backed : system.Backed custody) (index : Nat) (scheduler : Scheduler)
    {operation : Operation}
    (taken : ∀ copy, operation = .execute copy → copy ∈ system.handedOut) :
    ({ system with handedOut := operation.leaves system.handedOut }.put index
      (some (.start scheduler operation))).Backed custody := by
  apply (backed.fewer (operation.leaves_sublist system.handedOut)).join index
    (Operation.follows scheduler operation)
  · change (Hand.initial operation).Backed system.issued custody
    rcases Hand.initial_cases operation with emptied | ⟨copy, executes, inHand⟩
    · rw [emptied]
      trivial
    · rw [inHand]
      exact backed.handed copy (taken copy executes)
  · intro id token
    change (Hand.initial operation).token? = some id at token
    rcases Hand.initial_cases operation with emptied | ⟨copy, rfl, inHand⟩
    · rw [emptied] at token
      cases token
    · cases token
      have present := taken copy rfl
      rintro (⟨other, handed, same⟩ | ⟨another, caller, found, shared⟩)
      · have once : system.handedOut.Nodup := backed.handedOnce.of_map Job.id
        obtain ⟨different, before⟩ := once.mem_erase_iff.mp handed
        exact different (List.inj_on_of_nodup_map backed.handedOnce before present same)
      · exact backed.apart found shared copy present rfl

/-- A caller may end. The copy that it hands out is the one it has in hand. -/
theorem finish (backed : system.Backed custody) {index : Nat} {caller : Caller}
    (found : system.callers index = some caller) {value : caller.operation.Result}
    (done : caller.left = .done value) :
    ({ system with handedOut := caller.operation.handsOut value ++ system.handedOut }.put index
      none).Backed custody := by
  have ends : caller.operation.Ends caller.hand value := by
    have follows := backed.follows found
    rw [done] at follows
    exact follows
  rcases Operation.handsOut_cases ends with none | ⟨copy, inHand, one⟩
  · rw [none]
    exact backed.leave index
  · have held := backed.hands found
    have free := backed.unclaimed found copy.id
    rw [inHand] at held free
    rw [one]
    exact (backed.leave index).handOut held (free rfl)

/-- One step of one caller keeps the invariant, for some custody of the store after it.

Proof: by the kinds of steps. A caller that begins follows the rule by its program, and a copy
that it takes is no longer handed out. A caller that was replied to has what it had in hand,
or a name that nobody was ever given, or what its request left it with. One that ends hands out
the copy it has in hand, if any. -/
theorem step (backed : system.Backed custody) {event : System.Event} {after : System}
    (step : system.Step event after) : ∃ present : Custody, after.Backed present := by
  cases step with
  | @begin index scheduler operation idle taken =>
    exact ⟨custody, backed.begin index scheduler taken⟩
  | @look index caller resume found asks now =>
    have follows := backed.follows found
    rw [asks] at follows
    have held := backed.hands found
    have free := backed.unclaimed found
    refine ⟨custody, ?_⟩
    rw [← put_put system index none]
    exact (backed.leave index).join index (follows.2 now) held free
  | @name index caller resume found asks id fresh =>
    have follows := backed.follows found
    rw [asks] at follows
    refine ⟨custody, ?_⟩
    apply (backed.issue id).join index (follows.2 id)
    · refine ⟨List.mem_cons_self, ?_⟩
      intro used
      exact fresh (backed.issued id used)
    · rintro other token claimed
      cases token
      exact fresh (backed.issued_of_claimed claimed)
  | @publish index caller content resume found asks reply =>
    have follows := backed.follows found
    rw [asks] at follows
    obtain ⟨⟨copy, inHand, _⟩, continues⟩ := follows
    have answered : caller.hand.next (.publish content) reply = .answered copy reply := by
      rw [inHand]
      rfl
    have held := backed.hands found
    have free := backed.unclaimed found
    rw [inHand] at held free
    refine ⟨custody, ?_⟩
    rw [← put_put system index none]
    apply (backed.leave index).join index (continues reply)
    · change (caller.hand.next (.publish content) reply).Backed _ _
      rw [answered]
      exact held
    · change ∀ id, (caller.hand.next (.publish content) reply).token? = some id → _
      rw [answered]
      exact free
  | @ask index caller call resume found asks course =>
    have follows := backed.follows found
    rw [asks] at follows
    obtain ⟨permitted, continues⟩ := follows
    obtain ⟨present, among, hand, free⟩ := (backed.leave index).asked (backed.hands found)
      (backed.unclaimed found) permitted course
    refine ⟨present, ?_⟩
    rw [← put_put _ index none]
    exact among.join index (continues _) hand free
  | @finish index caller value found done => exact ⟨custody, backed.finish found done⟩
  | @fail index caller cause found failed => exact ⟨custody, backed.leave index⟩

end Backed

/-- Callers keep the discipline of custody in every interleaving. -/
theorem Run.backed {events : List System.Event} {present : System}
    (run : Run .initial events present) : ∃ custody : Custody, present.Backed custody := by
  induction run with
  | none => exact ⟨.empty, Backed.initial⟩
  | snoc _ step inductionHypothesis =>
    obtain ⟨custody, backed⟩ := inductionHypothesis
    exact backed.step step

end System

end TimedPublishing
