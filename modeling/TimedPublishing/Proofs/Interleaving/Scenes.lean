import TimedPublishing.Proofs.Interleaving.Hands
import TimedPublishing.Proofs.Interleaving.Protocols

/-!
# Scenes

A scene is a system together with every version of a job that its store ever held. Nobody keeps
count of copies in a scene: a caller may execute a running job again and again, and pass it on to
others, as long as the store held that version at some time, whoever found it there and how. The
runs of a scene are therefore more than those of a system, where each claimed copy is executed
once at most.

A run can be cut at every moment. What a caller says between two moments of its call is a
dialogue of its program, and each request in that dialogue is answered by the store as it is at
one moment of the run.
-/

open TimedPublishing.System (Event)

namespace TimedPublishing

/-- The rest of an operation and what its caller has in hand are those that a dialogue has led
to. -/
structure Caller.Said (caller : Caller) (said : Dialogue) : Prop where
  leads : (caller.operation.program caller.scheduler).Leads said caller.left
  holds : caller.hand = (Hand.initial caller.operation).after said

namespace Caller.Said

/-- At the start nothing was said. -/
theorem start (scheduler : Scheduler) (operation : Operation) :
    (Caller.start scheduler operation).Said [] := ⟨.none, rfl⟩

variable {caller : Caller} {said : Dialogue}

/-- A reply is added to what was said. -/
theorem resumed (speaks : caller.Said said) {call : Call}
    {resume : call.Reply → Program caller.operation.Result} (asks : caller.left = .ask call resume)
    (reply : call.Reply) : (caller.resumed call resume reply).Said (said ++ [⟨call, reply⟩]) where
  leads := .snoc (asks ▸ speaks.leads) reply
  holds := by
    rw [Hand.after_snoc]
    exact congrArg (fun hand : Hand => hand.next call reply) speaks.holds

/-- What a caller asks is what its operation may ask after what was said. -/
theorem asks (speaks : caller.Said said) {call : Call}
    {resume : call.Reply → Program caller.operation.Result}
    (asks : caller.left = .ask call resume) :
    (caller.operation.protocol caller.scheduler).asks said call := by
  have obeys := (caller.operation.obeys caller.scheduler).leads speaks.leads
  rw [asks] at obeys
  exact obeys.1

/-- What a caller asks is right with what it has in hand. -/
theorem permitted (speaks : caller.Said said) {call : Call}
    {resume : call.Reply → Program caller.operation.Result}
    (asks : caller.left = .ask call resume) : caller.hand.Permits caller.scheduler call := by
  rw [speaks.holds]
  exact Operation.permitted_of_asks (Operation.asks_of_protocol (speaks.asks asks))

/-- What a call gives its caller is what its operation may give after what was said. -/
theorem gives (speaks : caller.Said said) {value : caller.operation.Result}
    (done : caller.left = .done value) :
    (caller.operation.protocol caller.scheduler).gives said (.ok value) := by
  have obeys := (caller.operation.obeys caller.scheduler).leads speaks.leads
  rw [done] at obeys
  exact obeys

/-- A caller ends with what fits its hand. -/
theorem ends (speaks : caller.Said said) {value : caller.operation.Result}
    (done : caller.left = .done value) : caller.operation.Ends caller.hand value := by
  rw [speaks.holds]
  exact Operation.ends_of_gives (speaks.gives done)

/-- An error that ends a call is one that its operation may end with after what was said. -/
theorem fails (speaks : caller.Said said) {cause : ScheduleError}
    (failed : caller.left = .fail cause) :
    (caller.operation.protocol caller.scheduler).gives said (.error cause) := by
  have obeys := (caller.operation.obeys caller.scheduler).leads speaks.leads
  rw [failed] at obeys
  exact obeys

end Caller.Said

namespace System

namespace Event

/-- The caller of a step. -/
def caller : Event → Nat
  | began index _ _ => index
  | looked index _ => index
  | named index _ => index
  | published index _ _ _ => index
  | asked index _ _ _ _ => index
  | ended index _ _ => index

/-- What is said in a step, as the caller hears it. -/
def exchange? : Event → Option Exchange
  | began _ _ _ => none
  | looked _ now => some (.clock now)
  | named _ id => some (.freshId id)
  | published _ _ content reply => some (.publish content reply)
  | asked _ _ call course answer => some (.store call (course.reply answer))
  | ended _ _ _ => none

/-- What a caller says in a step. -/
def saidBy? (index : Nat) (event : Event) : Option Exchange :=
  if event.caller = index then event.exchange? else none

end Event

variable {system after : System} {event : Event} {index : Nat}

/-- A step of one caller leaves the others where they are. -/
theorem Step.callers_of_ne (step : system.Step event after) (other : event.caller ≠ index) :
    after.callers index = system.callers index := by
  have elsewhere (base : System) (caller : Option Caller) :
      (base.put event.caller caller).callers index = base.callers index := by
    simp [put, Ne.symm other]
  cases step with
  | begin idle taken => exact elsewhere _ _
  | look found asks now => exact elsewhere _ _
  | name found asks fresh => exact elsewhere _ _
  | publish found asks reply => exact elsewhere _ _
  | ask found asks course => exact elsewhere _ _
  | finish found done => exact elsewhere _ _
  | fail found failed => exact elsewhere _ _

/-- A request is made by a caller that has come to it, and is answered by the store. -/
theorem Step.asked {hand : Hand} {call : StoreCall} {course : Course} {reply : call.Reply}
    (step : system.Step (.asked index hand call course reply) after) :
    ∃ caller resume, system.callers index = some caller ∧
      caller.left = .ask (.store call) resume ∧ caller.hand = hand ∧
      (system.store.answer call).1 = reply ∧
      after.store = course.store system.store (system.store.answer call).2 := by
  cases step with
  | ask found asks course => exact ⟨_, _, found, asks, rfl, rfl, rfl⟩

/-- A call ends where its program does. -/
theorem Step.ended {operation : Operation} {outcome : Except ScheduleError operation.Result}
    (step : system.Step (.ended index operation outcome) after) :
    ∃ scheduler left hand, system.callers index = some ⟨scheduler, operation, left, hand⟩ ∧
      ((∃ value, outcome = .ok value ∧ left = .done value) ∨
        ∃ cause, outcome = .error cause ∧ left = .fail cause) := by
  cases step with
  | @finish _ caller value found done =>
    obtain ⟨scheduler, operation, left, hand⟩ := caller
    exact ⟨scheduler, left, hand, found, Or.inl ⟨value, rfl, done⟩⟩
  | @fail _ caller cause found failed =>
    obtain ⟨scheduler, operation, left, hand⟩ := caller
    exact ⟨scheduler, left, hand, found, Or.inr ⟨cause, rfl, failed⟩⟩

/-- A step of a call in progress ends it, or is an exchange. -/
theorem Step.speaks (step : system.Step event after) (own : event.caller = index)
    {caller : Caller} (found : system.callers index = some caller) :
    (∃ outcome, event = .ended index caller.operation outcome) ∨
      ∃ call resume reply, event.exchange? = some ⟨call, reply⟩ ∧ caller.left = .ask call resume ∧
        after.callers index = some (caller.resumed call resume reply) := by
  subst own
  cases step with
  | begin idle taken => cases idle.symm.trans found
  | look present asks now =>
    cases present.symm.trans found
    exact Or.inr ⟨_, _, _, rfl, asks, callers_put _ _ _⟩
  | name present asks fresh =>
    cases present.symm.trans found
    exact Or.inr ⟨_, _, _, rfl, asks, callers_put _ _ _⟩
  | publish present asks reply =>
    cases present.symm.trans found
    exact Or.inr ⟨_, _, _, rfl, asks, callers_put _ _ _⟩
  | ask present asks course =>
    cases present.symm.trans found
    exact Or.inr ⟨_, _, _, rfl, asks, callers_put _ _ _⟩
  | finish present done =>
    cases present.symm.trans found
    exact Or.inl ⟨_, rfl⟩
  | fail present failed =>
    cases present.symm.trans found
    exact Or.inl ⟨_, rfl⟩

end System

/-- What a caller said in the course of some events. -/
def dialogue (index : Nat) (events : List Event) : Dialogue :=
  events.filterMap (Event.saidBy? index)

/-- A dialogue goes on where it stopped. -/
theorem dialogue_append (index : Nat) (earlier later : List Event) :
    dialogue index (earlier ++ later) = dialogue index earlier ++ dialogue index later :=
  List.filterMap_append

/-- A system, and every version of a job that its store ever held. -/
structure Scene where
  system : System
  versions : List Job

namespace Scene

/-- The store of a scene. -/
abbrev store (scene : Scene) : Store := scene.system.store

/-- The empty store, nobody at it, and no past. -/
def initial : Scene := ⟨.initial, []⟩

/-- The scene once the system has gone on. The rows that are there then are noted. -/
def noting (scene : Scene) (after : System) : Scene :=
  ⟨after, after.store.rows.values ++ scene.versions⟩

/-- One step of one caller, where also a copy that is not handed out may be executed. -/
inductive Step (scene : Scene) : Event → Scene → Prop
  | usual {event : Event} {after : System} (step : scene.system.Step event after) :
    Step scene event (scene.noting after)
  | again {index : Nat} {scheduler : Scheduler} {copy : Job}
      (idle : scene.system.callers index = none)
      (known : copy.status = .running → copy ∈ scene.versions) :
    Step scene (.began index scheduler (.execute copy))
      (scene.noting (scene.system.put index (some (.start scheduler (.execute copy)))))

/-- Any number of steps, in any interleaving of callers. -/
inductive Run (start : Scene) : List Event → Scene → Prop
  | none : Run start [] start
  | snoc {events : List Event} {scene after : Scene} {event : Event}
      (past : Run start events scene) (step : Step scene event after) :
      Run start (events ++ [event]) after

/-- At some moment of a run the store shows something. -/
def Sometime (start : Scene) (events : List Event) (present : Scene) (shows : Store → Prop) :
    Prop :=
  ∃ earlier later middle, events = earlier ++ later ∧ Run start earlier middle ∧
    Run middle later present ∧ shows middle.store

/-- At every moment of a run the store shows something. -/
def Throughout (start : Scene) (events : List Event) (present : Scene) (shows : Store → Prop) :
    Prop :=
  ∀ earlier later middle, events = earlier ++ later → Run start earlier middle →
    Run middle later present → shows middle.store

/-- A call that began right after one scene is in progress at another. -/
structure Underway (start : Scene) (index : Nat) (scheduler : Scheduler) (operation : Operation)
    (events : List Event) (present : Scene) : Prop where
  run : Run start (.began index scheduler operation :: events) present
  unended : ∀ own outcome, Event.ended index own outcome ∉ events

/-- A call that began right after one scene ends right after another, and this is its outcome. -/
structure Finishes (start : Scene) (index : Nat) (scheduler : Scheduler) (operation : Operation)
    (events : List Event) (last : Scene) (outcome : Except ScheduleError operation.Result) : Prop
    extends Underway start index scheduler operation events last where
  ends : ∃ after, last.Step (.ended index operation outcome) after

namespace Step

variable {scene after : Scene} {event : Event} {index : Nat}

/-- A step notes versions for good. -/
theorem versions_subset (step : scene.Step event after) :
    ∀ version ∈ scene.versions, version ∈ after.versions := by
  intro version noted
  cases step with
  | usual step => exact List.mem_append_right _ noted
  | again idle known => exact List.mem_append_right _ noted

/-- Every row that a step leaves is noted. -/
theorem noted (step : scene.Step event after) {id : JobId} {row : Job}
    (found : after.store.find id = some row) : row ∈ after.versions := by
  have present : row ∈ after.store.rows.values := (Table.mem_values_iff _ _).mpr ⟨id, found⟩
  cases step with
  | usual step => exact List.mem_append_left _ present
  | again idle known => exact List.mem_append_left _ present

/-- A version that is noted after a step was noted before, or is a row then. -/
theorem mem_versions (step : scene.Step event after) {version : Job}
    (noted : version ∈ after.versions) :
    version ∈ scene.versions ∨ ∃ id, after.store.find id = some version := by
  have shown (system : System) (noted : version ∈ (scene.noting system).versions) :
      version ∈ scene.versions ∨ ∃ id, system.store.find id = some version := by
    rcases List.mem_append.mp noted with row | before
    · exact Or.inr ((Table.mem_values_iff _ _).mp row)
    · exact Or.inl before
  cases step with
  | usual step => exact shown _ noted
  | again idle known => exact shown _ noted

/-- Names stay issued. -/
theorem issued_subset (step : scene.Step event after) :
    ∀ id ∈ scene.system.issued, id ∈ after.system.issued := by
  intro id issued
  cases step with
  | again idle known => exact issued
  | usual step =>
    cases step with
    | name found asks fresh => exact List.mem_cons_of_mem _ issued
    | begin idle taken => exact issued
    | look found asks now => exact issued
    | publish found asks reply => exact issued
    | ask found asks course => exact issued
    | finish found done => exact issued
    | fail found failed => exact issued

/-- A step leaves the store as it is, or is a request that reaches the tables. -/
theorem store_cases (step : scene.Step event after) :
    after.store = scene.store ∨
      ∃ index caller call resume course, scene.system.callers index = some caller ∧
        caller.left = .ask (.store call) resume ∧
        event = .asked index caller.hand call course (scene.store.answer call).1 ∧
        course.writes = true ∧ after.store = (scene.store.answer call).2 := by
  cases step with
  | again idle known => exact Or.inl rfl
  | usual step =>
    cases step with
    | begin idle taken => exact Or.inl rfl
    | look found asks now => exact Or.inl rfl
    | name found asks fresh => exact Or.inl rfl
    | publish found asks reply => exact Or.inl rfl
    | finish found done => exact Or.inl rfl
    | fail found failed => exact Or.inl rfl
    | ask found asks course =>
      cases reaches : course.writes with
      | false => exact Or.inl (if_neg (by simp [reaches]))
      | true => exact Or.inr ⟨_, _, _, _, course, found, asks, rfl, reaches, if_pos reaches⟩

/-- A request is made by a caller that has come to it, and is answered by the store. -/
theorem asked {hand : Hand} {call : StoreCall} {course : Course} {reply : call.Reply}
    (step : scene.Step (.asked index hand call course reply) after) :
    ∃ caller resume, scene.system.callers index = some caller ∧
      caller.left = .ask (.store call) resume ∧ caller.hand = hand ∧
      (scene.store.answer call).1 = reply ∧
      after.store = course.store scene.store (scene.store.answer call).2 := by
  cases step with
  | usual step => exact step.asked

/-- A caller that began an operation is at its start. -/
theorem callers_of_began {scheduler : Scheduler} {operation : Operation}
    (step : scene.Step (.began index scheduler operation) after) :
    after.system.callers index = some (.start scheduler operation) := by
  cases step with
  | usual step =>
    cases step
    exact System.callers_put _ _ _
  | again idle known => exact System.callers_put _ _ _

/-- A caller that ended is no longer there. -/
theorem callers_of_ended {operation : Operation}
    {outcome : Except ScheduleError operation.Result}
    (step : scene.Step (.ended index operation outcome) after) :
    after.system.callers index = none := by
  cases step with
  | usual step =>
    cases step with
    | finish found done => exact System.callers_put _ _ _
    | fail found failed => exact System.callers_put _ _ _

/-- A call ends where its program does. -/
theorem ended {operation : Operation} {outcome : Except ScheduleError operation.Result}
    (step : scene.Step (.ended index operation outcome) after) :
    ∃ scheduler left hand,
      scene.system.callers index = some ⟨scheduler, operation, left, hand⟩ ∧
      ((∃ value, outcome = .ok value ∧ left = .done value) ∨
        ∃ cause, outcome = .error cause ∧ left = .fail cause) := by
  cases step with
  | usual step => exact step.ended

/-- Who was not there can only begin. -/
theorem began_of_idle (step : scene.Step event after) (own : event.caller = index)
    (idle : scene.system.callers index = none) :
    ∃ scheduler operation, event = .began index scheduler operation := by
  subst own
  cases step with
  | again idle known => exact ⟨_, _, rfl⟩
  | usual step =>
    cases step with
    | begin idle taken => exact ⟨_, _, rfl⟩
    | look found asks now => cases idle.symm.trans found
    | name found asks fresh => cases idle.symm.trans found
    | publish found asks reply => cases idle.symm.trans found
    | ask found asks course => cases idle.symm.trans found
    | finish found done => cases idle.symm.trans found
    | fail found failed => cases idle.symm.trans found

/-- A step of one caller leaves the others where they are. -/
theorem callers_of_ne (step : scene.Step event after) (other : event.caller ≠ index) :
    after.system.callers index = scene.system.callers index := by
  cases step with
  | usual step => exact step.callers_of_ne other
  | again idle known => exact Function.update_of_ne (fun same => other same.symm) _ _

/-- A step of a call in progress ends it, or is an exchange. -/
theorem speaks (step : scene.Step event after) (own : event.caller = index) {caller : Caller}
    (found : scene.system.callers index = some caller) :
    (∃ outcome, event = .ended index caller.operation outcome) ∨
      ∃ call resume reply, event.exchange? = some ⟨call, reply⟩ ∧ caller.left = .ask call resume ∧
        after.system.callers index = some (caller.resumed call resume reply) := by
  cases step with
  | usual step => exact step.speaks own found
  | again idle known =>
    subst own
    cases idle.symm.trans found

end Step

namespace Run

variable {start middle present : Scene} {earlier later events : List Event} {index : Nat}

/-- A run goes on with another. -/
theorem append (past : Run start earlier middle) (since : Run middle later present) :
    Run start (earlier ++ later) present := by
  induction since with
  | none => simpa using past
  | snoc _ step inductionHypothesis =>
    rw [← List.append_assoc]
    exact inductionHypothesis.snoc step

/-- A step is a run. -/
theorem one {event : Event} (step : start.Step event present) : Run start [event] present :=
  Run.none.snoc step

/-- A run can be cut between any two of its events. -/
theorem cut (run : Run start (earlier ++ later) present) :
    ∃ middle, Run start earlier middle ∧ Run middle later present := by
  generalize whole : earlier ++ later = events at run
  induction run generalizing later with
  | none =>
    obtain ⟨rfl, rfl⟩ := List.append_eq_nil_iff.mp whole
    exact ⟨start, .none, .none⟩
  | @snoc events scene after event past step inductionHypothesis =>
    rcases List.eq_nil_or_concat later with rfl | ⟨rest, last, rfl⟩
    · rw [List.append_nil] at whole
      exact ⟨after, whole ▸ past.snoc step, .none⟩
    · rw [List.concat_eq_append, ← List.append_assoc] at whole
      obtain ⟨same, sameLast⟩ := List.append_inj' whole rfl
      cases sameLast
      obtain ⟨middle, before, since⟩ := inductionHypothesis same
      exact ⟨middle, before, List.concat_eq_append ▸ since.snoc step⟩

/-- A run can be cut around any one of its events. -/
theorem cut_around {event : Event} (run : Run start (earlier ++ event :: later) present) :
    ∃ before after,
      Run start earlier before ∧ before.Step event after ∧ Run after later present := by
  rw [← List.singleton_append, ← List.append_assoc] at run
  obtain ⟨after, past, since⟩ := run.cut
  generalize whole : earlier ++ [event] = events at past
  cases past with
  | none => simp at whole
  | snoc past step =>
    obtain ⟨rfl, same⟩ := List.append_inj' whole rfl
    cases same
    exact ⟨_, after, past, step, since⟩

/-- Versions are noted for good. -/
theorem versions_subset (run : Run start events present) :
    ∀ version ∈ start.versions, version ∈ present.versions := by
  induction run with
  | none => exact fun _ noted => noted
  | snoc _ step inductionHypothesis =>
    intro version noted
    exact step.versions_subset version (inductionHypothesis version noted)

/-- A call in progress that does not end is where its dialogue has led it, and all that its
caller does is to go on with that dialogue. -/
theorem said (run : Run start events present) {caller : Caller} {said : Dialogue}
    (found : start.system.callers index = some caller) (speaks : caller.Said said)
    (unended : ∀ own outcome, Event.ended index own outcome ∉ events) :
    (∃ left hand,
      present.system.callers index = some { caller with left := left, hand := hand } ∧
        Caller.Said { caller with left := left, hand := hand } (said ++ dialogue index events)) ∧
      ∀ event ∈ events, event.caller = index → (Event.saidBy? index event).isSome := by
  induction run with
  | none => exact ⟨⟨caller.left, caller.hand, found, by simpa [dialogue] using speaks⟩, by simp⟩
  | @snoc events scene after event _ step inductionHypothesis =>
    obtain ⟨⟨left, hand, before, spoke⟩, all⟩ := inductionHypothesis fun own outcome ended =>
      unended own outcome (List.mem_append_left _ ended)
    have onlyLast (last : event.caller = index → (Event.saidBy? index event).isSome) :
        ∀ one ∈ events ++ [event], one.caller = index → (Event.saidBy? index one).isSome := by
      intro one member
      rcases List.mem_append.mp member with old | new
      · exact all one old
      · rw [List.mem_singleton.mp new]
        exact last
    rw [dialogue_append, ← List.append_assoc]
    by_cases own : event.caller = index
    · rcases step.speaks own before with
        ⟨outcome, rfl⟩ | ⟨call, resume, reply, spoken, asks, resumed⟩
      · exact absurd (List.mem_append_right _ List.mem_cons_self) (unended _ outcome)
      · have adds : Event.saidBy? index event = some ⟨call, reply⟩ := by
          rw [Event.saidBy?, if_pos own, spoken]
        have one : dialogue index [event] = [⟨call, reply⟩] := by simp [dialogue, adds]
        rw [one]
        exact ⟨⟨_, _, resumed, spoke.resumed asks reply⟩, onlyLast fun _ => by simp [adds]⟩
    · have nothing : dialogue index [event] = [] := by simp [dialogue, Event.saidBy?, own]
      rw [nothing, List.append_nil]
      exact ⟨⟨left, hand, (step.callers_of_ne own).trans before, spoke⟩,
        onlyLast fun same => absurd same own⟩

/-- Each exchange of a dialogue has its moment in the run. -/
theorem moment (run : Run start events present) {before after : Dialogue} {exchange : Exchange}
    (said : dialogue index events = before ++ exchange :: after) :
    ∃ earlier event later scene next, events = earlier ++ event :: later ∧
      dialogue index earlier = before ∧ dialogue index later = after ∧
      Event.saidBy? index event = some exchange ∧
      Run start earlier scene ∧ scene.Step event next ∧ Run next later present := by
  obtain ⟨first, rest, rfl, sameFirst, restSaid⟩ := List.filterMap_eq_append_iff.mp said
  obtain ⟨silent, event, later, rfl, quiet, spoken, sameLater⟩ :=
    List.filterMap_eq_cons_iff.mp restSaid
  rw [← List.append_assoc] at run
  obtain ⟨scene, next, past, step, since⟩ := run.cut_around
  refine ⟨first ++ silent, event, later, scene, next, by rw [List.append_assoc], ?_, sameLater,
    spoken, past, step, since⟩
  have none : dialogue index silent = [] := List.filterMap_eq_nil_iff.mpr quiet
  rw [dialogue_append, none, List.append_nil]
  exact sameFirst

/-- Each request to the store in a dialogue is treated at one moment of the run, by the store as it
is then. -/
theorem answered (run : Run start events present) {before after : Dialogue} {call : StoreCall}
    {reply : call.Reply} (said : dialogue index events = before ++ .store call reply :: after) :
    ∃ earlier hand course later scene next,
      events = earlier ++ .asked index hand call course (scene.store.answer call).1 :: later ∧
      dialogue index earlier = before ∧ dialogue index later = after ∧
      course.reply (scene.store.answer call).1 = reply ∧
      Run start earlier scene ∧
      scene.Step (.asked index hand call course (scene.store.answer call).1) next ∧
      Run next later present ∧
      next.store = course.store scene.store (scene.store.answer call).2 := by
  obtain ⟨earlier, event, later, scene, next, rfl, sameBefore, sameAfter, spoken, past, step,
    since⟩ := run.moment said
  unfold Event.saidBy? at spoken
  split at spoken
  · next own =>
    subst own
    cases step with
    | again idle known => cases spoken
    | usual step =>
      cases step with
      | begin idle taken => cases spoken
      | look found asks now => cases spoken
      | name found asks fresh => cases spoken
      | publish found asks reply => cases spoken
      | finish found done => cases spoken
      | fail found failed => cases spoken
      | ask found asks course =>
        cases spoken
        exact ⟨earlier, _, course, later, scene, _, rfl, sameBefore, sameAfter, rfl, past,
          .usual (.ask found asks course), since, rfl⟩
  · cases spoken

/-- A request that was answered was done by the store as it was at that moment. -/
theorem answered_ok (run : Run start events present) {before after : Dialogue} {call : StoreCall}
    {answer : call.Answer}
    (said : dialogue index events = before ++ .store call (.ok answer) :: after) :
    ∃ earlier hand later scene next,
      events = earlier ++ .asked index hand call .regular (.ok answer) :: later ∧
      dialogue index earlier = before ∧ dialogue index later = after ∧
      (scene.store.answer call).1 = .ok answer ∧ next.store = (scene.store.answer call).2 ∧
      Run start earlier scene ∧ scene.Step (.asked index hand call .regular (.ok answer)) next ∧
      Run next later present := by
  obtain ⟨earlier, hand, course, later, scene, next, rfl, sameBefore, sameAfter, reply, past, step,
    since, left⟩ := run.answered said
  cases course with
  | unwritten detail => cases reply
  | unreported detail => cases reply
  | regular =>
    change (scene.store.answer call).1 = .ok answer at reply
    rw [reply] at step ⊢
    exact ⟨earlier, hand, later, scene, next, rfl, sameBefore, sameAfter, reply, left, past, step,
      since⟩

end Run

/-- What the store shows at the end of the first part of a run it shows at some moment of the
whole. -/
theorem Sometime.of_runs {start middle present : Scene} {earlier later : List Event}
    {shows : Store → Prop} (past : Run start earlier middle) (since : Run middle later present)
    (shown : shows middle.store) : start.Sometime (earlier ++ later) present shows :=
  ⟨earlier, later, middle, rfl, past, since, shown⟩

/-- The beginning of a call says nothing. -/
theorem dialogue_of_began (index : Nat) (scheduler : Scheduler) (operation : Operation)
    (events : List Event) :
    dialogue index (.began index scheduler operation :: events) = dialogue index events := by
  simp [dialogue, Event.saidBy?, Event.exchange?]

variable {start present : Scene} {index : Nat} {scheduler : Scheduler} {operation : Operation}
variable {events : List Event}

/-- A call in progress is where its dialogue has led it, and all that its caller did was to go on
with that dialogue. -/
theorem Underway.said (call : start.Underway index scheduler operation events present) :
    (∃ left hand, present.system.callers index = some ⟨scheduler, operation, left, hand⟩ ∧
      Caller.Said ⟨scheduler, operation, left, hand⟩ (dialogue index events)) ∧
      ∀ event ∈ events, event.caller = index → (Event.saidBy? index event).isSome := by
  obtain ⟨before, begun, past, step, since⟩ := @Run.cut_around _ _ [] _ _ call.run
  exact since.said step.callers_of_began (.start scheduler operation) call.unended

/-- The outcome of a call is one that its operation may give after its dialogue. -/
theorem Finishes.gives {outcome : Except ScheduleError operation.Result}
    (call : start.Finishes index scheduler operation events present outcome) :
    (operation.protocol scheduler).gives (dialogue index events) outcome := by
  obtain ⟨⟨left, hand, found, said⟩, _⟩ := call.toUnderway.said
  obtain ⟨after, ends⟩ := call.ends
  obtain ⟨_, rest, _, present, finished⟩ := ends.ended
  cases present.symm.trans found
  rcases finished with ⟨value, rfl, done⟩ | ⟨cause, rfl, failed⟩
  · exact said.gives done
  · exact said.fails failed

/-- Whoever is in the middle of a call was so at the start of a run, or began since. -/
theorem Run.begun (run : Run start events present) {caller : Caller}
    (found : present.system.callers index = some caller) :
    (∃ former, start.system.callers index = some former) ∨
      ∃ ahead during before,
        events = ahead ++ .began index caller.scheduler caller.operation :: during ∧
        Run start ahead before ∧
        before.Underway index caller.scheduler caller.operation during present := by
  induction run generalizing caller with
  | none => exact Or.inl ⟨caller, found⟩
  | @snoc events scene after event past step inductionHypothesis =>
    have goesOn {former : Caller} (before : scene.system.callers index = some former)
        (sameScheduler : former.scheduler = caller.scheduler)
        (sameOperation : former.operation = caller.operation)
        (continues : ∀ own outcome, event ≠ .ended index own outcome) :
        (∃ former, start.system.callers index = some former) ∨
          ∃ ahead during before,
            events ++ [event] = ahead ++ .began index caller.scheduler caller.operation :: during ∧
            Run start ahead before ∧
            before.Underway index caller.scheduler caller.operation during after := by
      rcases inductionHypothesis before with old | ⟨ahead, during, first, rfl, toFirst, underway⟩
      · exact Or.inl old
      · rw [sameScheduler, sameOperation] at underway ⊢
        refine Or.inr ⟨ahead, during ++ [event], first, by simp, toFirst,
          underway.run.snoc step, ?_⟩
        intro own outcome ended
        rcases List.mem_append.mp ended with before | last
        · exact underway.unended own outcome before
        · exact continues own outcome (List.mem_singleton.mp last).symm
    by_cases own : event.caller = index
    · cases before : scene.system.callers index with
      | none =>
        obtain ⟨scheduler, operation, rfl⟩ := step.began_of_idle own before
        cases step.callers_of_began.symm.trans found
        exact Or.inr ⟨events, [], scene, rfl, past, .one step, by simp⟩
      | some former =>
        rcases step.speaks own before with
          ⟨outcome, rfl⟩ | ⟨call, resume, reply, spoken, _, resumed⟩
        · cases step.callers_of_ended.symm.trans found
        · cases resumed.symm.trans found
          refine goesOn before rfl rfl ?_
          rintro _ _ rfl
          cases spoken
    · refine goesOn ((step.callers_of_ne own).symm.trans found) rfl rfl ?_
      rintro _ _ rfl
      exact own rfl

end Scene

/-- Every run of a system is one of a scene. -/
theorem System.Run.scene {start present : System} {events : List Event}
    (run : System.Run start events present) (versions : List Job) :
    ∃ noted, Scene.Run ⟨start, versions⟩ events ⟨present, noted⟩ := by
  induction run with
  | none => exact ⟨versions, .none⟩
  | snoc _ step inductionHypothesis =>
    obtain ⟨noted, past⟩ := inductionHypothesis
    exact ⟨_, past.snoc (.usual step)⟩

/-- Whoever is in the middle of a call is where its dialogue since the beginning has led it. -/
theorem System.Run.said {events : List Event} {present : System}
    (run : System.Run .initial events present) {index : Nat} {caller : Caller}
    (found : present.callers index = some caller) :
    ∃ ahead during, events = ahead ++ .began index caller.scheduler caller.operation :: during ∧
      (∀ own outcome, Event.ended index own outcome ∉ during) ∧
      caller.Said (dialogue index during) := by
  obtain ⟨scheduler, operation, rest, own⟩ := caller
  obtain ⟨noted, scene⟩ := run.scene []
  rcases Scene.Run.begun scene found with ⟨former, absent⟩ | ⟨ahead, during, _, split, _, underway⟩
  · cases absent
  · obtain ⟨⟨left, hand, here, said⟩, _⟩ := underway.said
    cases here.symm.trans found
    exact ⟨ahead, during, split, underway.unended, said⟩

end TimedPublishing
