import TimedPublishing.Proofs.Interleaving.Dialogue
import TimedPublishing.Proofs.Store.Index
import TimedPublishing.Schedule.Run

/-!
# A call that runs alone

While a call runs alone, the store is touched by nobody else and answers each of its requests.
The clock, the names and the publisher surround it. Each may go by all that was said before, and
is otherwise free: a clock may jump, a name may come twice, and a publisher may reply anything. A
call in such surroundings always comes to an end, with one outcome, after one dialogue that the
store and the surroundings have answered reply by reply. What a protocol says of every dialogue is
therefore true of that one.
-/

namespace TimedPublishing

/-- A publication with the reply of the publisher. -/
def Exchange.publication? : Exchange → Option (ContentId × PublishReply)
  | ⟨.publish content, reply⟩ => some (content, reply)
  | _ => none

/-- The calls of the publisher in a dialogue with its replies, the first one first. -/
def Dialogue.publications (said : Dialogue) : List (ContentId × PublishReply) :=
  said.filterMap Exchange.publication?

/-- The publications of one dialogue after another. -/
theorem Dialogue.publications_append (earlier later : Dialogue) :
    Dialogue.publications (earlier ++ later) =
      Dialogue.publications earlier ++ Dialogue.publications later :=
  List.filterMap_append

/-- A program that came to its end. -/
def Run.ended {α : Type} : Except ScheduleError α → Run α
  | .ok value => finished value
  | .error cause => failed cause

/-- What surrounds a call, by what the call has said before. -/
structure Surroundings where
  clock : Dialogue → Instant
  name : Dialogue → JobId
  publisher : Dialogue → ContentId → PublishReply

/-- A store and what was said in the one call that runs at it. -/
structure Solo where
  store : Store
  said : Dialogue

namespace Surroundings

/-- The reply to a request, and the store that it leaves. -/
def answer (surroundings : Surroundings) (solo : Solo) : (call : Call) → call.Reply × Store
  | .clock => (surroundings.clock solo.said, solo.store)
  | .freshId => (surroundings.name solo.said, solo.store)
  | .publish content => (surroundings.publisher solo.said content, solo.store)
  | .store call => solo.store.answer call

/-- Every request is replied to. -/
def react (surroundings : Surroundings) (call : Call) (solo : Solo) :
    Reaction call.Reply × Solo :=
  let (reply, store) := surroundings.answer solo call
  (.reply reply, ⟨store, solo.said ++ [⟨call, reply⟩]⟩)

/-- The same with a clock that stands still. -/
def still (surroundings : Surroundings) (now : Instant) : Surroundings :=
  { surroundings with clock := fun _ => now }

/-- A program that runs alone at a store ends with an outcome. -/
def Ends {α : Type} (surroundings : Surroundings) (store : Store) (program : Program α)
    (outcome : Except ScheduleError α) (after : Solo) : Prop :=
  program.run surroundings.react ⟨store, []⟩ = (.ended outcome, after)

/-- A dialogue in which every reply is the one that the surroundings and the store give, with what
it leaves. -/
def Hears (surroundings : Surroundings) : Solo → Dialogue → Solo → Prop
  | solo, [], after => after = solo
  | solo, ⟨call, reply⟩ :: more, after =>
    (surroundings.answer solo call).1 = reply ∧
      surroundings.Hears ⟨(surroundings.answer solo call).2, solo.said ++ [⟨call, reply⟩]⟩ more
        after

variable {surroundings : Surroundings}

/-- What was said is noted. -/
theorem Hears.said {solo after : Solo} {more : Dialogue}
    (heard : surroundings.Hears solo more after) : after.said = solo.said ++ more := by
  induction more generalizing solo with
  | nil =>
    obtain rfl : after = solo := heard
    exact (List.append_nil _).symm
  | cons exchange rest inductionHypothesis =>
    have noted := inductionHypothesis heard.2
    simpa using noted

/-- A dialogue that goes on is heard part by part. -/
theorem hears_append {solo after : Solo} {earlier later : Dialogue} :
    surroundings.Hears solo (earlier ++ later) after ↔
      ∃ middle, surroundings.Hears solo earlier middle ∧ surroundings.Hears middle later after := by
  induction earlier generalizing solo with
  | nil =>
    constructor
    · intro heard
      exact ⟨solo, rfl, heard⟩
    · rintro ⟨_, rfl, heard⟩
      exact heard
  | cons exchange rest inductionHypothesis =>
    constructor
    · rintro ⟨answered, heard⟩
      obtain ⟨middle, first, second⟩ := inductionHypothesis.mp heard
      exact ⟨middle, ⟨answered, first⟩, second⟩
    · rintro ⟨middle, ⟨answered, first⟩, second⟩
      exact ⟨answered, inductionHypothesis.mpr ⟨middle, first, second⟩⟩

/-- The two tables of the store correspond after a dialogue if they did before. -/
theorem Hears.indexed {solo after : Solo} {said : Dialogue}
    (heard : surroundings.Hears solo said after) (indexed : solo.store.Indexed) :
    after.store.Indexed := by
  induction said generalizing solo with
  | nil =>
    obtain rfl : after = solo := heard
    exact indexed
  | cons exchange rest inductionHypothesis =>
    obtain ⟨call, reply⟩ := exchange
    apply inductionHypothesis heard.2
    cases call with
    | clock => exact indexed
    | freshId => exact indexed
    | publish content => exact indexed
    | store call => exact indexed.answer call

/-- A program that obeys a protocol and runs alone ends, after a dialogue that was heard, with an
outcome that the protocol allows after it. -/
theorem run_obeys {α : Type} {protocol : Protocol α} {program : Program α} {said : Dialogue}
    (obeys : program.Obeys protocol said) (surroundings : Surroundings) (solo : Solo) :
    ∃ outcome more after, program.run surroundings.react solo = (.ended outcome, after) ∧
      surroundings.Hears solo more after ∧ protocol.gives (said ++ more) outcome := by
  induction program generalizing said solo with
  | done value => exact ⟨.ok value, [], solo, rfl, rfl, (List.append_nil said).symm ▸ obeys⟩
  | fail cause => exact ⟨.error cause, [], solo, rfl, rfl, (List.append_nil said).symm ▸ obeys⟩
  | ask call resume inductionHypothesis =>
    have goesOn := obeys.2 (surroundings.answer solo call).1
    obtain ⟨outcome, more, after, ran, heard, gives⟩ := inductionHypothesis _ goesOn
      ⟨(surroundings.answer solo call).2,
        solo.said ++ [⟨call, (surroundings.answer solo call).1⟩]⟩
    refine ⟨outcome, ⟨call, _⟩ :: more, after, ran, ⟨rfl, heard⟩, ?_⟩
    rwa [List.append_assoc] at gives

/-- A program that obeys a protocol from its start ends with an outcome that the protocol allows
after what was heard. -/
theorem ends_of_obeys {α : Type} {protocol : Protocol α} {program : Program α}
    (obeys : program.Obeys protocol []) (surroundings : Surroundings) (store : Store) :
    ∃ outcome after, surroundings.Ends store program outcome after ∧
      surroundings.Hears ⟨store, []⟩ after.said after ∧ protocol.gives after.said outcome := by
  obtain ⟨outcome, said, after, ran, heard, gives⟩ := run_obeys obeys surroundings ⟨store, []⟩
  have noted : after.said = said := heard.said
  rw [← noted] at heard gives
  exact ⟨outcome, after, ran, heard, gives⟩

end Surroundings

end TimedPublishing
