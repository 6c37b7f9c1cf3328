import TimedPublishing.Schedule.Program

/-!
# Running a program alone

A world reacts to each request from a state of its own. Running a program alone puts its
requests to the world one after the other, each to the state that the one before left,
until the program ends, a request crashes it, or a request has no reply yet. In the last
case the rest of the program is kept and can be run later, in whatever state the world is
in by then.
-/

namespace TimedPublishing

/-- How a world reacts to a request. -/
inductive Reaction (α : Type)
  | reply (value : α)
  /-- The request takes the program down with it. -/
  | crash (detail : String)
  /-- There is no reply yet. -/
  | pending

/-- How far a program came. -/
inductive Run (α : Type)
  | finished (value : α)
  | failed (cause : ScheduleError)
  | crashed (detail : String)
  /-- The program waits for the reply to a request. -/
  | waiting (call : Call) (resume : call.Reply → Program α)

namespace Program

variable {σ α : Type}

/-- Put the requests of a program to a world. -/
def run (react : (call : Call) → σ → Reaction call.Reply × σ) : Program α → σ → Run α × σ
  | done value, world => (.finished value, world)
  | fail cause, world => (.failed cause, world)
  | ask call resume, world =>
    match react call world with
    | (.reply reply, after) => run react (resume reply) after
    | (.crash detail, after) => (.crashed detail, after)
    | (.pending, after) => (.waiting call resume, after)

end Program

/-- The rest of a program that waits for a publisher, once the publisher has replied. -/
def Run.afterPublish {α : Type} : Run α → PublishReply → Option (Program α)
  | .waiting (.publish _) resume, reply => some (resume reply)
  | _, _ => none

end TimedPublishing
