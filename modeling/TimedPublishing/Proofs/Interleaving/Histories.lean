import TimedPublishing.Proofs.Interleaving.Backing
import TimedPublishing.Proofs.Interleaving.Life

/-!
# What a run remembers

Every interleaving leads every job along a life: the history of its events is the history of a
life, and the stage that it tells is the one that store and hands show. A copy that is in hand
unpublished, or handed out, stands for a claimed stage, and an answer in hand for an answered one.
That a call of the publisher leaves nobody else with the copy is what the exclusive claims of
callers are for.
-/

namespace TimedPublishing

/-- The mark that an event leaves in the history of a job. -/
def System.Event.mark? : System.Event → Option Mark
  | .published _ (.copy copy) _ reply => some (.published copy reply)
  | .asked _ hand call course answer =>
    if course.writes then
      match hand.act? call with
      | some ⟨act, same⟩ => act.mark? (same ▸ answer)
      | none => none
    else none
  | _ => none

/-- What is remembered of a run. -/
def history (events : List System.Event) : List Mark := events.filterMap System.Event.mark?

/-- An event adds the mark that it leaves, if any. -/
theorem history_snoc (events : List System.Event) (event : System.Event) :
    history (events ++ [event]) = history events ++ event.mark?.toList := by
  unfold history
  rw [List.filterMap_append]
  cases marked : event.mark? <;> simp [marked]

namespace System

/-- Some caller has something in hand. -/
def Has (system : System) (hand : Hand) : Prop :=
  ∃ index caller, system.callers index = some caller ∧ caller.hand = hand

/-- A claimed copy may still be published: it is handed out or in some caller's hand. -/
def Unspent (system : System) (copy : Job) : Prop :=
  copy ∈ system.handedOut ∨ system.Has (.copy copy)

/-- A caller was put at a place: what is in hand then is its own, or was before. -/
theorem Has.of_put_some {system : System} {index : Nat} {caller : Caller} {hand : Hand}
    (has : (system.put index (some caller)).Has hand) :
    caller.hand = hand ∨ (system.put index none).Has hand := by
  obtain ⟨other, another, found, same⟩ := has
  rcases put_cases found with ⟨_, here⟩ | ⟨different, elsewhere⟩
  · cases here
    exact Or.inl same
  · refine Or.inr ⟨other, another, ?_, same⟩
    change Function.update system.callers index none other = some another
    rw [Function.update_of_ne different]
    exact elsewhere

/-- A caller was taken out: what is in hand then was before. -/
theorem Has.of_put_none {system : System} {index : Nat} {hand : Hand}
    (has : (system.put index none).Has hand) : system.Has hand := by
  obtain ⟨other, another, found, same⟩ := has
  rcases put_cases found with ⟨_, impossible⟩ | ⟨_, elsewhere⟩
  · cases impossible
  · exact ⟨other, another, elsewhere, same⟩

/-- What is in hand may be laid claim to. -/
theorem Has.claimed {system : System} {hand : Hand} {id : JobId} (has : system.Has hand)
    (token : hand.token? = some id) : system.Claimed id := by
  obtain ⟨index, caller, found, rfl⟩ := has
  exact Or.inr ⟨index, caller, found, token⟩

end System

/-- The stage of a job that store and hands show. -/
structure Stage.Fits (stage : Stage) (id : JobId) (system : System) : Prop where
  row : system.store.find id = stage.row
  copies : ∀ copy, copy.id = id → system.Unspent copy → stage = .claimed copy
  answers : ∀ copy reply, copy.id = id → system.Has (.answered copy reply) →
    stage = .answered copy reply

namespace Stage.Fits

variable {stage : Stage} {id : JobId} {system : System}

/-- Nothing shows of a job at the empty store. -/
theorem initial (id : JobId) : Stage.absent.Fits id .initial where
  row := rfl
  copies := by
    rintro copy _ (impossible | ⟨index, caller, impossible, _⟩)
    · cases impossible
    · cases impossible
  answers := by
    rintro copy reply _ ⟨index, caller, impossible, _⟩
    cases impossible

/-- A stage still fits when the row is the same and no hand is new. -/
theorem quiet (fits : stage.Fits id system) {after : System}
    (sameStore : after.store = system.store)
    (copies : ∀ copy, after.Unspent copy → system.Unspent copy)
    (answers : ∀ copy reply, after.Has (.answered copy reply) → system.Has (.answered copy reply)) :
    stage.Fits id after where
  row := sameStore ▸ fits.row
  copies copy own unspent := fits.copies copy own (copies copy unspent)
  answers copy reply own has := fits.answers copy reply own (answers copy reply has)

end Stage.Fits

namespace Life

variable {inUse : Scheduler → Prop} {id : JobId} {past : List Mark} {stage : Stage}
  {system : System} {custody : Custody}

/-- A call of the publisher for a copy spends it: nobody else had that job in hand. -/
theorem publish (life : Life inUse id past stage) (fits : stage.Fits id system)
    (backed : system.Backed custody) {index : Nat} {caller : Caller} {copy : Job}
    (found : system.callers index = some caller) (inHand : caller.hand = .copy copy)
    {reply : PublishReply} {answered : Caller} (turned : answered.hand = .answered copy reply) :
    ∃ next, Life inUse id (past ++ [.published copy reply]) next ∧
      next.Fits id (system.put index (some answered)) := by
  have alone : ¬ (system.put index none).Claimed copy.id :=
    backed.unclaimed found copy.id (by rw [inHand]; rfl)
  by_cases own : copy.id = id
  · have claimed : stage = .claimed copy :=
      fits.copies copy own (Or.inr ⟨index, caller, found, inHand⟩)
    subst claimed
    refine ⟨_, .next life own (.published copy reply), fits.row, ?_, ?_⟩
    · rintro other same (handed | has)
      · exact absurd (Or.inl ⟨other, handed, same.trans own.symm⟩) alone
      · rcases has.of_put_some with impossible | elsewhere
        · cases turned.symm.trans impossible
        · exact absurd (elsewhere.claimed (congrArg some (same.trans own.symm))) alone
    · intro other otherReply same has
      rcases has.of_put_some with here | elsewhere
      · cases turned.symm.trans here
        rfl
      · exact absurd (elsewhere.claimed (congrArg some (same.trans own.symm))) alone
  · refine ⟨stage, .elsewhere life own, fits.row, ?_, ?_⟩
    · rintro other same (handed | has)
      · exact fits.copies other same (Or.inl handed)
      · rcases has.of_put_some with impossible | elsewhere
        · cases turned.symm.trans impossible
        · exact fits.copies other same (Or.inr elsewhere.of_put_none)
    · intro other otherReply same has
      rcases has.of_put_some with here | elsewhere
      · cases turned.symm.trans here
        exact absurd same own
      · exact fits.answers other otherReply same elsewhere.of_put_none

/-- What a request does to the row of a job, the life of that job follows. Only a save by the
caller that has the answer in hand ends a claim. -/
theorem request (life : Life inUse id past stage) (fits : stage.Fits id system)
    (backed : system.Backed custody) {index : Nat} {caller : Caller}
    (found : system.callers index = some caller) (used : inUse caller.scheduler)
    {call : StoreCall} (permitted : caller.hand.Permits caller.scheduler (.store call))
    (course : Course) {mark : Option Mark}
    (marks : System.Event.mark?
      (.asked index caller.hand call course (system.store.answer call).1) = mark) :
    ∃ next, Life inUse id (past ++ mark.toList) next ∧
      (system.served call course).store.find id = next.row ∧
      stage.Moves id mark
        (fun copy => (∃ job, call = .save job) ∧ ∃ reply, caller.hand = .answered copy reply)
        next := by
  simp only [System.Event.mark?] at marks
  cases reaches : course.writes with
  | false =>
    rw [reaches] at marks
    subst marks
    have same : (system.served call course).store = system.store := by
      simp [System.served, Course.store, reaches]
    exact ⟨stage, life.pass (by simp), by rw [same, fits.row], .stay (by simp)⟩
  | true =>
    rw [reaches, if_pos rfl] at marks
    cases acts : caller.hand.act? call with
    | none =>
      rw [acts] at marks
      subst marks
      have same : (system.served call course).store = system.store := by
        simp [System.served, Course.store, Hand.store_of_look system.store acts]
      exact ⟨stage, life.pass (by simp), by rw [same, fits.row], .stay (by simp)⟩
    | some pair =>
      obtain ⟨act, rfl⟩ := pair
      rw [acts] at marks
      change act.mark? (system.store.answer act.call).1 = mark at marks
      have written : (system.served act.call course).store = (custody.after act).store := by
        rw [System.served, Course.store, reaches, if_pos rfl, backed.sameStore]
        rfl
      have concludes : ∀ copy concluded, act = .conclude copy concluded → concluded.id = id →
          ∃ reply scheduler now, inUse scheduler ∧ stage = .answered copy reply ∧
            copy.change (scheduler.outcome copy reply now) = .ok concluded := by
        rintro copy concluded rfl about
        obtain ⟨reply, now, inHand, entered⟩ := Hand.answered_of_conclude permitted acts
        have own : copy.id = id := (Scheduler.outcome_concludes entered).sameId.symm.trans about
        exact ⟨reply, caller.scheduler, now, used,
          fits.answers copy reply own ⟨index, caller, found, inHand⟩, entered⟩
      have allowed := (backed.hands found).allows permitted acts
      obtain ⟨next, lives, row, moves⟩ :=
        life.act backed.sound allowed (backed.sameStore ▸ fits.row) concludes
      rw [backed.sameStore] at marks
      rw [marks] at lives moves
      refine ⟨next, lives, by rw [written, row], moves.won, moves.waits, ?_⟩
      intro copy reply before
      rcases moves.answered copy reply before with stays | ⟨concluded, rfl⟩
      · exact Or.inl stays
      · obtain ⟨own, _, inHand, _⟩ := Hand.answered_of_conclude permitted acts
        exact Or.inr ⟨⟨concluded, rfl⟩, own, inHand⟩

/-- After a request the stage still shows in store and hands. -/
theorem ask (life : Life inUse id past stage) (fits : stage.Fits id system)
    (backed : system.Backed custody) {index : Nat} {caller : Caller}
    (found : system.callers index = some caller) (used : inUse caller.scheduler)
    {call : StoreCall} (permitted : caller.hand.Permits caller.scheduler (.store call))
    (course : Course) {resumed : Caller}
    (turned : resumed.hand =
      caller.hand.next (.store call) (course.reply (system.store.answer call).1)) :
    ∃ next,
      Life inUse id
        (past ++ (System.Event.mark?
          (.asked index caller.hand call course (system.store.answer call).1)).toList) next ∧
      next.Fits id ((system.served call course).put index (some resumed)) := by
  obtain ⟨next, lives, row, moves⟩ := life.request fits backed found used permitted course rfl
  refine ⟨next, lives, row, ?_, ?_⟩
  · rintro copy own (handed | has)
    · exact moves.waits copy (fits.copies copy own (Or.inl handed))
    · rcases has.of_put_some with here | elsewhere
      · rw [turned] at here
        rcases caller.hand.next_cases system.store call course with
          emptied | ⟨same, _⟩ | ⟨_, _, _, read⟩ | ⟨_, _, _, _, rfl, rfl, claim, copied⟩
        · cases emptied.symm.trans here
        · have before : system.Has (.copy copy) := ⟨index, caller, found, same.symm.trans here⟩
          exact moves.waits copy (fits.copies copy own (Or.inr before))
        · cases read.symm.trans here
        · cases copied.symm.trans here
          exact moves.won copy own (congrArg (Option.map Mark.claimed) claim)
      · have before : system.Has (.copy copy) := System.Has.of_put_none elsewhere
        exact moves.waits copy (fits.copies copy own (Or.inr before))
  · intro copy reply own has
    rcases has.of_put_some with here | elsewhere
    · rw [turned] at here
      rcases caller.hand.next_cases system.store call course with
        emptied | ⟨same, looks⟩ | ⟨_, _, _, read⟩ | ⟨_, _, _, _, _, _, _, copied⟩
      · cases emptied.symm.trans here
      · have answers := fits.answers copy reply own ⟨index, caller, found, same.symm.trans here⟩
        rcases moves.answered copy reply answers with stays | ⟨⟨job, saves⟩, _⟩
        · exact stays
        · exact absurd saves (looks job)
      · cases read.symm.trans here
      · cases copied.symm.trans here
    · have answers := fits.answers copy reply own elsewhere.of_put_none
      rcases moves.answered copy reply answers with stays | ⟨_, otherReply, inHand⟩
      · exact stays
      · have alone := backed.unclaimed found copy.id (by rw [inHand]; rfl)
        exact absurd (elsewhere.claimed rfl) alone

/-- One step of the system leads the life of every job on, or leaves it where it is. -/
theorem step (life : Life inUse id past stage) (fits : stage.Fits id system)
    (backed : system.Backed custody)
    (used : ∀ index caller, system.callers index = some caller → inUse caller.scheduler)
    {event : System.Event} {after : System} (step : system.Step event after) :
    ∃ next, Life inUse id (past ++ event.mark?.toList) next ∧ next.Fits id after := by
  have quiet (unmarked : event.mark? = none) (shows : stage.Fits id after) :
      ∃ next, Life inUse id (past ++ event.mark?.toList) next ∧ next.Fits id after := by
    refine ⟨stage, ?_, shows⟩
    rw [unmarked]
    simpa using life
  cases step with
  | @begin index scheduler operation idle taken =>
    apply quiet rfl
    refine fits.quiet (by rfl) ?_ ?_
    · rintro copy (handed | has)
      · exact Or.inl ((operation.leaves_sublist system.handedOut).subset handed)
      · rcases has.of_put_some with here | elsewhere
        · change Hand.initial operation = .copy copy at here
          rcases Hand.initial_cases operation with emptied | ⟨_, executes, inHand⟩
          · cases emptied.symm.trans here
          · cases inHand.symm.trans here
            exact Or.inl (taken copy executes)
        · exact Or.inr elsewhere.of_put_none
    · intro copy reply has
      rcases has.of_put_some with here | elsewhere
      · change Hand.initial operation = .answered copy reply at here
        rcases Hand.initial_cases operation with emptied | ⟨_, _, inHand⟩
        · cases emptied.symm.trans here
        · cases inHand.symm.trans here
      · exact elsewhere.of_put_none
  | @look index caller resume found asks now =>
    have kept : ∀ hand, (system.put index (some (caller.resumed .clock resume now))).Has hand →
        system.Has hand := by
      intro hand has
      rcases has.of_put_some with here | elsewhere
      · exact ⟨index, caller, found, here⟩
      · exact elsewhere.of_put_none
    exact quiet rfl (fits.quiet rfl (fun copy => Or.imp_right (kept _)) fun copy reply => kept _)
  | @name index caller resume found asks name fresh =>
    have kept : ∀ hand, hand ≠ .name name →
        (system.put index (some (caller.resumed .freshId resume name))).Has hand →
        system.Has hand := by
      intro hand different has
      rcases has.of_put_some with here | elsewhere
      · exact absurd here.symm different
      · exact elsewhere.of_put_none
    exact quiet rfl (fits.quiet rfl (fun copy => Or.imp_right (kept _ (by simp)))
      fun copy reply => kept _ (by simp))
  | @publish index caller content resume found asks reply =>
    have follows := backed.follows found
    rw [asks] at follows
    obtain ⟨⟨copy, inHand, _⟩, _⟩ := follows
    have turned : (caller.resumed (.publish content) resume reply).hand = .answered copy reply := by
      change caller.hand.next (.publish content) reply = _
      rw [inHand]
      rfl
    rw [inHand]
    exact life.publish fits backed found inHand turned
  | @ask index caller call resume found asks course =>
    have follows := backed.follows found
    rw [asks] at follows
    exact life.ask fits backed found (used index caller found) follows.1 course rfl
  | @finish index caller value found done =>
    have ends : caller.operation.Ends caller.hand value := by
      have follows := backed.follows found
      rw [done] at follows
      exact follows
    apply quiet rfl
    refine fits.quiet (by rfl) ?_ ?_
    · rintro copy (handed | has)
      · rcases List.mem_append.mp handed with new | before
        · rcases Operation.handsOut_cases ends with none | ⟨own, inHand, one⟩
          · rw [none] at new
            cases new
          · rw [one, List.mem_singleton] at new
            subst new
            exact Or.inr ⟨index, caller, found, inHand⟩
        · exact Or.inl before
      · exact Or.inr (System.Has.of_put_none has)
    · intro copy reply has
      exact System.Has.of_put_none has
  | @fail index caller cause found failed =>
    exact quiet rfl (fits.quiet rfl (fun copy => Or.imp_right System.Has.of_put_none)
      fun copy reply => System.Has.of_put_none)

end Life

/-- Whoever is at work after a step was at work before under the same settings, or just began. -/
theorem System.Step.caller_cases {system after : System} {event : System.Event}
    (step : system.Step event after) {index : Nat} {caller : Caller}
    (present : after.callers index = some caller) :
    (∃ former, system.callers index = some former ∧ former.scheduler = caller.scheduler) ∨
      event.settings? = some caller.scheduler := by
  have replied : ∀ {base : System} {place : Nat} {former resumed : Caller},
      base.callers = system.callers → system.callers place = some former →
      (base.put place (some resumed)).callers index = some caller →
      former.scheduler = resumed.scheduler →
      ∃ former, system.callers index = some former ∧ former.scheduler = caller.scheduler := by
    intro base place former resumed sameCallers found present sameScheduler
    rcases put_cases present with ⟨rfl, same⟩ | ⟨_, present⟩
    · cases same
      exact ⟨former, found, sameScheduler⟩
    · exact ⟨caller, sameCallers ▸ present, rfl⟩
  have left : ∀ {base : System} {place : Nat}, base.callers = system.callers →
      (base.put place none).callers index = some caller →
      ∃ former, system.callers index = some former ∧ former.scheduler = caller.scheduler := by
    intro base place sameCallers present
    rcases put_cases present with ⟨_, impossible⟩ | ⟨_, present⟩
    · cases impossible
    · exact ⟨caller, sameCallers ▸ present, rfl⟩
  cases step with
  | begin idle taken =>
    rcases put_cases present with ⟨_, same⟩ | ⟨_, present⟩
    · cases same
      exact Or.inr rfl
    · exact Or.inl ⟨caller, present, rfl⟩
  | look found asks now => exact Or.inl (replied rfl found present rfl)
  | name found asks fresh => exact Or.inl (replied rfl found present rfl)
  | publish found asks reply => exact Or.inl (replied rfl found present rfl)
  | ask found asks course => exact Or.inl (replied rfl found present rfl)
  | finish found done => exact Or.inl (left rfl present)
  | fail found failed => exact Or.inl (left rfl present)

/-- Every caller runs under settings in use. -/
theorem System.Run.uses {events : List System.Event} {present : System}
    (run : Run .initial events present) {inUse : Scheduler → Prop}
    (begun : ∀ settings ∈ settingsInUse events, inUse settings) :
    ∀ index caller, present.callers index = some caller → inUse caller.scheduler := by
  induction run with
  | none =>
    intro index caller absent
    cases absent
  | @snoc events system after event _ step inductionHypothesis =>
    rw [settingsInUse_append] at begun
    intro index caller present
    rcases step.caller_cases present with ⟨former, found, same⟩ | began
    · have earlier := inductionHypothesis fun settings used =>
        begun settings (List.mem_append_left _ used)
      exact same ▸ earlier index former found
    · apply begun
      exact List.mem_append_right _ (List.mem_filterMap.mpr ⟨event, List.mem_cons_self, began⟩)

/-- In every interleaving every job lives a life, and store and hands show its stage. -/
theorem System.Run.life {events : List System.Event} {present : System}
    (run : Run .initial events present) {inUse : Scheduler → Prop}
    (begun : ∀ settings ∈ settingsInUse events, inUse settings)
    (id : JobId) :
    ∃ stage, Life inUse id (history events) stage ∧ stage.Fits id present := by
  induction run with
  | none => exact ⟨.absent, .unborn, .initial id⟩
  | @snoc events system after event past step inductionHypothesis =>
    have earlier : ∀ settings ∈ settingsInUse events, inUse settings := by
      intro settings began
      apply begun
      rw [settingsInUse_append]
      exact List.mem_append_left _ began
    obtain ⟨stage, life, fits⟩ := inductionHypothesis earlier
    obtain ⟨custody, backed⟩ := past.backed
    rw [history_snoc]
    exact life.step fits backed (past.uses earlier) step

/-- The same, whatever settings are in use. -/
theorem System.Run.anyLife {events : List System.Event} {present : System}
    (run : Run .initial events present) (id : JobId) :
    ∃ stage, Life (fun _ => True) id (history events) stage ∧ stage.Fits id present :=
  run.life (fun _ _ => trivial) id

end TimedPublishing
