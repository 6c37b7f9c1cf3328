import TimedPublishing.Schedule.Service

/-!
# Dialogues

What a call has asked of the world so far, with the replies, is its dialogue. A program and a
dialogue determine the rest of the program, and nothing is assumed of the replies: they may
contradict each other, come from a store that loses its rows, or from a clock that runs
backwards. What holds after every dialogue therefore holds in every world.

A protocol says what may be asked after a dialogue, and what a call may give its caller in the
end. `Program.Obeys` is the check of a program against a protocol along the tree, one node after
the other; its two consequences are that a rest obeys what is left of the protocol, and that
nothing in a dialogue was asked against it.
-/

namespace TimedPublishing

/-- A request and the reply to it. -/
structure Exchange where
  call : Call
  reply : call.Reply

namespace Exchange

/-- The clock was read. -/
abbrev clock (now : Instant) : Exchange := ⟨.clock, now⟩

/-- A name was made up. -/
abbrev freshId (id : JobId) : Exchange := ⟨.freshId, id⟩

/-- The store was asked. -/
abbrev store (call : StoreCall) (reply : call.Reply) : Exchange := ⟨.store call, reply⟩

/-- The publisher was called. -/
abbrev publish (content : ContentId) (reply : PublishReply) : Exchange := ⟨.publish content, reply⟩

end Exchange

/-- The requests of a call so far with their replies, the first one first. -/
abbrev Dialogue := List Exchange

/-- What a call may ask, and what it may give its caller, by what was said before. -/
structure Protocol (α : Type) where
  asks : Dialogue → Call → Prop
  gives : Dialogue → Except ScheduleError α → Prop

/-- Every request can be replied to. -/
theorem Call.nonempty_reply (call : Call) : Nonempty call.Reply := by
  cases call with
  | clock => exact ⟨Instant.epoch⟩
  | freshId => exact ⟨JobId.timeOrdered 0 0⟩
  | store call => exact ⟨.error (.storage "")⟩
  | publish content => exact ⟨PublishReply.published⟩

namespace Program

variable {α β γ : Type}

/-- A program that has ended. -/
def ended : Except ScheduleError α → Program α
  | .ok value => done value
  | .error cause => fail cause

/-- A program with its outcome as its value, an error included. -/
def caught : Program α → Program (Except ScheduleError α)
  | done value => done (.ok value)
  | fail cause => done (.error cause)
  | ask call resume => ask call fun reply => (resume reply).caught

/-- Three programs in a row may be grouped either way. -/
theorem bind_assoc (first : Program α) (second : α → Program β) (third : β → Program γ) :
    (first.bind second).bind third = first.bind fun value => (second value).bind third := by
  induction first with
  | done value => rfl
  | fail cause => rfl
  | ask call resume inductionHypothesis =>
    simp only [bind, Program.ask.injEq, heq_eq_eq, true_and]
    funext reply
    exact inductionHypothesis reply

/-- What follows a program follows its caught outcome, where an error is not followed. -/
theorem bind_eq_caught_bind (first : Program α) (next : α → Program β) :
    first.bind next = first.caught.bind fun
      | .ok value => next value
      | .error cause => fail cause := by
  induction first with
  | done value => rfl
  | fail cause => rfl
  | ask call resume inductionHypothesis =>
    simp only [bind, caught, Program.ask.injEq, heq_eq_eq, true_and]
    funext reply
    exact inductionHypothesis reply

/-- A dialogue leads a program to the rest of it. -/
inductive Leads (program : Program α) : Dialogue → Program α → Prop
  | none : Leads program [] program
  | snoc {said : Dialogue} {call : Call} {resume : call.Reply → Program α}
      (leads : Leads program said (ask call resume)) (reply : call.Reply) :
      Leads program (said ++ [⟨call, reply⟩]) (resume reply)

/-- A dialogue of a program is one of everything that the program begins. -/
theorem Leads.bind {program rest : Program α} {said : Dialogue} (leads : program.Leads said rest)
    (next : α → Program β) : (program.bind next).Leads said (rest.bind next) := by
  induction leads with
  | none => exact .none
  | snoc _ reply inductionHypothesis => exact .snoc inductionHypothesis reply

/-- One dialogue after another leads to where the second one leads. -/
theorem Leads.trans {program middle rest : Program α} {said more : Dialogue}
    (leads : program.Leads said middle) (onwards : middle.Leads more rest) :
    program.Leads (said ++ more) rest := by
  induction onwards with
  | none => simpa using leads
  | snoc _ reply inductionHypothesis =>
    rw [← List.append_assoc]
    exact .snoc inductionHypothesis reply

/-- Every program comes to an end, whatever it has been replied before. -/
theorem exists_ended (program : Program α) :
    ∃ said outcome, program.Leads said (ended outcome) := by
  induction program with
  | done value => exact ⟨[], .ok value, .none⟩
  | fail cause => exact ⟨[], .error cause, .none⟩
  | ask call resume inductionHypothesis =>
    obtain ⟨reply⟩ := call.nonempty_reply
    obtain ⟨said, outcome, leads⟩ := inductionHypothesis reply
    exact ⟨_, outcome, (Leads.snoc .none reply).trans leads⟩

/-- A program that only turns the value of another into an outcome asks what the other asks. -/
theorem Leads.of_bind_ended {program : Program α} {outcome : α → Except ScheduleError β}
    {said : Dialogue} {rest : Program β}
    (leads : (program.bind fun value => ended (outcome value)).Leads said rest) :
    ∃ own, program.Leads said own ∧ rest = own.bind fun value => ended (outcome value) := by
  induction leads with
  | none => exact ⟨program, .none, rfl⟩
  | @snoc said call resume _ reply inductionHypothesis =>
    obtain ⟨own, leads, same⟩ := inductionHypothesis
    cases own with
    | done value =>
      change Program.ask call resume = ended (outcome value) at same
      cases result : outcome value <;> rw [result] at same <;> cases same
    | fail cause => cases same
    | ask asked goOn =>
      cases same
      exact ⟨goOn reply, .snoc leads reply, rfl⟩

/-- A program asks and gives what a protocol allows, whatever it is replied. -/
def Obeys (protocol : Protocol α) : Dialogue → Program α → Prop
  | said, done value => protocol.gives said (.ok value)
  | said, fail cause => protocol.gives said (.error cause)
  | said, ask call resume =>
    protocol.asks said call ∧ ∀ reply, Obeys protocol (said ++ [⟨call, reply⟩]) (resume reply)

namespace Obeys

variable {protocol : Protocol β} {said : Dialogue}

/-- The rest of a program obeys the protocol from where the dialogue has come. -/
theorem leads {program rest : Program β} {more : Dialogue} (obeys : program.Obeys protocol said)
    (leads : program.Leads more rest) : rest.Obeys protocol (said ++ more) := by
  induction leads with
  | none => simpa using obeys
  | snoc _ reply inductionHypothesis =>
    rw [← List.append_assoc]
    exact inductionHypothesis.2 reply

/-- What a program gives its caller is allowed by what was said. -/
theorem gives {program : Program β} {more : Dialogue} {outcome : Except ScheduleError β}
    (obeys : program.Obeys protocol said) (leads : program.Leads more (ended outcome)) :
    protocol.gives (said ++ more) outcome := by
  have rest := obeys.leads leads
  cases outcome <;> exact rest

/-- The last request of a dialogue was allowed by what was said before it. -/
theorem asked {program rest : Program β} {more : Dialogue} {last : Exchange}
    (obeys : program.Obeys protocol said) (leads : program.Leads (more ++ [last]) rest) :
    protocol.asks (said ++ more) last.call := by
  generalize whole : more ++ [last] = dialogue at leads
  cases leads with
  | none => simp at whole
  | snoc before reply =>
    obtain ⟨rfl, same⟩ := List.append_inj' whole rfl
    cases same
    exact (obeys.leads before).1

/-- A sequence obeys a protocol when its second part does from where the first one ends. -/
theorem bind {first : Program α} {next : α → Program β}
    (obeys : first.Obeys
      ⟨protocol.asks, fun after outcome =>
        match outcome with
        | .ok value => (next value).Obeys protocol after
        | .error cause => protocol.gives after (.error cause)⟩ said) :
    (first >>= next).Obeys protocol said := by
  change (first.bind next).Obeys protocol said
  induction first generalizing said with
  | done value => exact obeys
  | fail cause => exact obeys
  | ask call resume inductionHypothesis =>
    exact ⟨obeys.1, fun reply => inductionHypothesis reply (obeys.2 reply)⟩

/-- A program that obeys a protocol obeys every laxer one. -/
theorem mono {laxer : Protocol β} {program : Program β} (obeys : program.Obeys protocol said)
    (asks : ∀ after call, protocol.asks after call → laxer.asks after call)
    (gives : ∀ after outcome, protocol.gives after outcome → laxer.gives after outcome) :
    program.Obeys laxer said := by
  induction program generalizing said with
  | done value => exact gives said (.ok value) obeys
  | fail cause => exact gives said (.error cause) obeys
  | ask call resume inductionHypothesis =>
    exact ⟨asks said call obeys.1, fun reply => inductionHypothesis reply (obeys.2 reply)⟩

/-- A reading of the clock goes on with any instant. -/
theorem clock {next : Instant → Program β} (allowed : protocol.asks said .clock)
    (continues : ∀ now, (next now).Obeys protocol (said ++ [.clock now])) :
    (Program.clock >>= next).Obeys protocol said :=
  bind ⟨allowed, continues⟩

/-- A name is made up and gone on with. -/
theorem freshId {next : JobId → Program β} (allowed : protocol.asks said .freshId)
    (continues : ∀ id, (next id).Obeys protocol (said ++ [.freshId id])) :
    (Program.freshId >>= next).Obeys protocol said :=
  bind ⟨allowed, continues⟩

/-- A call of the publisher goes on with any reply. -/
theorem publish {content : ContentId} {next : PublishReply → Program β}
    (allowed : protocol.asks said (.publish content))
    (continues : ∀ reply, (next reply).Obeys protocol (said ++ [.publish content reply])) :
    (Program.publish content >>= next).Obeys protocol said :=
  bind ⟨allowed, continues⟩

/-- A request that must be answered goes on with its answer, or its error ends the call. -/
theorem request {call : StoreCall} {next : call.Answer → Program β}
    (allowed : protocol.asks said (.store call))
    (continues : ∀ answer, (next answer).Obeys protocol (said ++ [.store call (.ok answer)]))
    (fails : ∀ cause,
      protocol.gives (said ++ [.store call (.error cause)]) (.error (.store cause))) :
    (Program.request call >>= next).Obeys protocol said := by
  refine bind ⟨allowed, ?_⟩
  intro reply
  cases reply with
  | ok answer => exact continues answer
  | error cause => exact fails cause

/-- A request goes on with its reply, an error included. -/
theorem attempt {call : StoreCall} {next : call.Reply → Program β}
    (allowed : protocol.asks said (.store call))
    (continues : ∀ reply, (next reply).Obeys protocol (said ++ [.store call reply])) :
    (Program.attempt call >>= next).Obeys protocol said :=
  bind ⟨allowed, continues⟩

/-- A transition says nothing: the program goes on with the next version, or the refusal ends the
call. -/
theorem change {result : Except JobError Job} {next : Job → Program β}
    (continues : ∀ job, result = .ok job → (next job).Obeys protocol said)
    (fails : ∀ cause, result = .error cause → protocol.gives said (.error (.job cause))) :
    (Program.ofChange result >>= next).Obeys protocol said := by
  apply bind
  cases result with
  | ok job => exact continues job rfl
  | error cause => exact fails cause rfl

/-- A caught program obeys its protocol and never fails. -/
theorem caught {program : Program β} (obeys : program.Obeys protocol said) :
    program.caught.Obeys
      ⟨protocol.asks, fun after result => ∃ outcome, result = .ok outcome ∧
        protocol.gives after outcome⟩ said := by
  induction program generalizing said with
  | done value => exact ⟨.ok value, rfl, obeys⟩
  | fail cause => exact ⟨.error cause, rfl, obeys⟩
  | ask call resume inductionHypothesis =>
    exact ⟨obeys.1, fun reply => inductionHypothesis reply (obeys.2 reply)⟩

end Obeys

end Program

end TimedPublishing
