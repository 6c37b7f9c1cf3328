import TimedPublishing.Schedule.Error

/-!
# Programs that ask the world

A scheduling operation reads the clock, makes up names, asks a store and calls a
publisher. Written as a program it is a tree: at each node one request, and a branch for
every reply the world could give. Running an operation alone means answering its requests
one after the other; running several at once means answering them in any interleaving;
both read the same tree. A store or a publisher may give whatever reply it likes, so what
holds on every branch holds in every world.
-/

namespace TimedPublishing

/-- What a publisher does with a content. -/
inductive PublishReply
  | published
  /-- The publisher answered and refused. -/
  | rejected (reason : String)
  /-- The publisher could not be reached or did not answer. -/
  | failed (reason : String)
  /-- The publisher crashed, with a text to say why if it left one. -/
  | crashed (detail : Option String)
deriving DecidableEq, Repr

/-- A request to the world. -/
inductive Call
  /-- The current instant. -/
  | clock
  /-- A job name that was never given before. -/
  | freshId
  | store (call : StoreCall)
  | publish (content : ContentId)
deriving DecidableEq, Repr

/-- What a request is replied to with. -/
def Call.Reply : Call → Type
  | .clock => Instant
  | .freshId => JobId
  | .store call => call.Reply
  | .publish _ => PublishReply

/-- A program that ends with a value, ends with an error, or makes a request and goes on
as the reply tells it. -/
inductive Program (α : Type) : Type
  | done (value : α)
  | fail (cause : ScheduleError)
  | ask (call : Call) (resume : call.Reply → Program α)

namespace Program

variable {α β : Type}

/-- Run a second program on the value of a first one. An error ends both. -/
def bind : Program α → (α → Program β) → Program β
  | done value, next => next value
  | fail cause, _ => fail cause
  | ask call resume, next => ask call fun reply => (resume reply).bind next

instance : Monad Program where
  pure := done
  bind := bind

/-- Read the clock. -/
def clock : Program Instant := ask .clock done

/-- Make up a name. -/
def freshId : Program JobId := ask .freshId done

/-- Call the publisher. -/
def publish (content : ContentId) : Program PublishReply := ask (.publish content) done

/-- Ask the store and go on with its reply, an error included. -/
def attempt (call : StoreCall) : Program call.Reply := ask (.store call) done

/-- A reply as a program: an error of the store ends it. -/
def ofReply : Except StoreError α → Program α
  | .ok value => done value
  | .error cause => fail (.store cause)

/-- Ask the store and go on with its answer; an error ends the program. -/
def request (call : StoreCall) : Program call.Answer :=
  ask (.store call) ofReply

/-- A transition as a program: a refusal ends it. -/
def ofChange : Except JobError α → Program α
  | .ok value => done value
  | .error cause => fail (.job cause)

end Program

end TimedPublishing
