import Mathlib.Logic.Function.Basic
import TimedPublishing.Schedule.Service
import TimedPublishing.Store.Memory

/-!
# Many callers at one store

Any number of callers run the scheduler's operations over one store in memory. Each runs the
very program of its operation, and the programs are interleaved in any order at their
requests: a request to the store is one atomic step, and so is a call of the publisher, a
reading of the clock and the making of a name. The world is as free as it can be. A clock
reading is any instant, a publisher answers anything, and a store may fail any request, after
it has written as well as before. Only names are never given twice.

A copy that a lone claim returned is handed out, and may be taken by one execution, of any
caller. A pass over the due jobs claims and executes by itself. A caller that is never
resumed is one that crashed or was cancelled where it waits.
-/

namespace TimedPublishing

/-- What a caller asks the scheduler to do. -/
inductive Operation
  | schedule (content : ContentId) (publishAt : Instant)
  | unschedule (id : JobId)
  | reschedule (id : JobId) (publishAt : Instant)
  | claimNext (worker : WorkerId)
  /-- Execute a copy that was handed out. -/
  | execute (copy : Job)
  | runDue (worker : WorkerId) (maxJobs : Nat)
  | listRange (start stop : Instant) (statuses : Option (List JobStatus))
  | tally

namespace Operation

/-- What an operation gives its caller. -/
def Result : Operation → Type
  | schedule _ _ => Job
  | unschedule _ => Bool
  | reschedule _ _ => Job
  | claimNext _ => Option Job
  | execute _ => Execution
  | runDue _ _ => List Execution
  | listRange _ _ _ => List Job
  | tally => Tally

/-- The program of an operation. -/
def program (scheduler : Scheduler) : (operation : Operation) → Program operation.Result
  | schedule content publishAt => scheduler.schedule content publishAt
  | unschedule id => Scheduler.unschedule id
  | reschedule id publishAt => scheduler.reschedule id publishAt
  | claimNext worker => Scheduler.claimNext worker
  | execute copy => scheduler.execute copy
  | runDue worker maxJobs => scheduler.runDue worker maxJobs
  | listRange start stop statuses => Scheduler.listRange start stop statuses
  | tally => Scheduler.tally

/-- The copies handed out that an operation leaves to others. -/
def leaves (handedOut : List Job) : Operation → List Job
  | execute copy => handedOut.erase copy
  | _ => handedOut

/-- The copies that an operation hands out with its result. -/
def handsOut : (operation : Operation) → operation.Result → List Job
  | claimNext _, claimed => Option.toList claimed
  | _, _ => []

end Operation

/-- What a caller has in hand, by its own last requests. -/
inductive Hand
  | empty
  /-- A name that was just made up. -/
  | name (id : JobId)
  /-- A job as it was last looked up by name. -/
  | read (job : Job)
  /-- A claimed copy, not published yet. -/
  | copy (job : Job)
  /-- A claimed copy and what the publisher replied for it. -/
  | answered (job : Job) (reply : PublishReply)
deriving DecidableEq, Repr

namespace Hand

/-- What a caller has in hand after a reply. -/
def next (hand : Hand) : (call : Call) → call.Reply → Hand
  | .freshId, id => .name id
  | .publish _, reply =>
    match hand with
    | .copy job => .answered job reply
    | other => other
  | .store (.find _), .ok (some job) => .read job
  | .store (.save _), _ => .empty
  | .store (.claim _ _ _), .ok (some job) => .copy job
  | _, _ => hand

/-- What a caller begins an operation with. -/
def initial : Operation → Hand
  | .execute job => .copy job
  | _ => .empty

end Hand

/-- A caller in the middle of an operation, under settings of its own. -/
structure Caller where
  scheduler : Scheduler
  operation : Operation
  /-- The rest of the operation's program. -/
  left : Program operation.Result
  hand : Hand

namespace Caller

/-- A caller at the start of an operation. -/
def start (scheduler : Scheduler) (operation : Operation) : Caller :=
  ⟨scheduler, operation, operation.program scheduler, .initial operation⟩

/-- A caller that got a reply. -/
def resumed (caller : Caller) (call : Call)
    (resume : call.Reply → Program caller.operation.Result) (reply : call.Reply) : Caller :=
  { caller with left := resume reply, hand := caller.hand.next call reply }

end Caller

/-- How the store treats a request. -/
inductive Course
  | regular
  /-- It fails before it writes anything. -/
  | unwritten (detail : String)
  /-- It does what was asked and fails to say so. -/
  | unreported (detail : String)
deriving DecidableEq, Repr

namespace Course

/-- Whether the request reaches the tables. -/
def writes : Course → Bool
  | unwritten _ => false
  | _ => true

/-- The store after a request. -/
def store (course : Course) (before after : Store) : Store :=
  if course.writes then after else before

/-- What the caller is told. -/
def reply {call : StoreCall} (answer : call.Reply) : Course → call.Reply
  | regular => answer
  | unwritten detail => .error (.storage detail)
  | unreported detail => .error (.storage detail)

end Course

/-- What happens in one step. A step of a caller at the publisher or the store is noted with
what the caller has in hand, and a request with what the store answered to it. -/
inductive System.Event
  | began (caller : Nat) (scheduler : Scheduler) (operation : Operation)
  | looked (caller : Nat) (now : Instant)
  | named (caller : Nat) (id : JobId)
  | published (caller : Nat) (hand : Hand) (content : ContentId) (reply : PublishReply)
  | asked (caller : Nat) (hand : Hand) (call : StoreCall) (course : Course) (answer : call.Reply)
  | ended (caller : Nat) (operation : Operation) (outcome : Except ScheduleError operation.Result)

/-- The settings that a caller began with. -/
def System.Event.settings? : System.Event → Option Scheduler
  | began _ scheduler _ => some scheduler
  | _ => none

/-- The settings in use in a run. -/
def settingsInUse (events : List System.Event) : List Scheduler :=
  events.filterMap System.Event.settings?

/-- The settings in use in a run that goes on stay in use. -/
theorem settingsInUse_append (earlier later : List System.Event) :
    settingsInUse (earlier ++ later) = settingsInUse earlier ++ settingsInUse later :=
  List.filterMap_append

/-- The store, the world and the callers at one moment. -/
structure System where
  store : Store
  /-- Every name that was made up. -/
  issued : List JobId
  /-- The copies that lone claims returned and no execution has taken. -/
  handedOut : List Job
  /-- The calls in progress. -/
  callers : Nat → Option Caller

namespace System

/-- The empty store, and nobody at it. -/
def initial : System := ⟨.empty, [], [], fun _ => none⟩

/-- Put a call in progress, or end one. -/
def put (system : System) (index : Nat) (caller : Option Caller) : System :=
  { system with callers := Function.update system.callers index caller }

/-- Who was put at a place is there. -/
theorem callers_put (system : System) (index : Nat) (caller : Option Caller) :
    (system.put index caller).callers index = caller := by
  simp [put]

/-- A caller after a place was filled or emptied is the one put there, or another as before. -/
theorem put_cases {system : System} {index other : Nat} {caller : Option Caller} {found : Caller}
    (present : (system.put index caller).callers other = some found) :
    (other = index ∧ caller = some found) ∨
      (other ≠ index ∧ system.callers other = some found) := by
  change Function.update system.callers index caller other = some found at present
  by_cases same : other = index
  · rw [same, Function.update_self] at present
    exact Or.inl ⟨same, present⟩
  · rw [Function.update_of_ne same] at present
    exact Or.inr ⟨same, present⟩

/-- The system once the store has treated a request. -/
def served (system : System) (call : StoreCall) (course : Course) : System :=
  { system with store := course.store system.store (system.store.answer call).2 }

/-- One step of one caller. -/
inductive Step (system : System) : System.Event → System → Prop
  | begin {index : Nat} {scheduler : Scheduler} {operation : Operation}
      (idle : system.callers index = none)
      (taken : ∀ copy, operation = .execute copy → copy ∈ system.handedOut) :
      Step system (.began index scheduler operation)
        ({ system with handedOut := operation.leaves system.handedOut }.put index
          (some (.start scheduler operation)))
  | look {index : Nat} {caller : Caller} {resume : Instant → Program caller.operation.Result}
      (found : system.callers index = some caller) (asks : caller.left = .ask .clock resume)
      (now : Instant) :
      Step system (.looked index now)
        (system.put index (some (caller.resumed .clock resume now)))
  | name {index : Nat} {caller : Caller} {resume : JobId → Program caller.operation.Result}
      (found : system.callers index = some caller) (asks : caller.left = .ask .freshId resume)
      {id : JobId} (fresh : id ∉ system.issued) :
      Step system (.named index id)
        ({ system with issued := id :: system.issued }.put index
          (some (caller.resumed .freshId resume id)))
  | publish {index : Nat} {caller : Caller} {content : ContentId}
      {resume : PublishReply → Program caller.operation.Result}
      (found : system.callers index = some caller)
      (asks : caller.left = .ask (.publish content) resume) (reply : PublishReply) :
      Step system (.published index caller.hand content reply)
        (system.put index (some (caller.resumed (.publish content) resume reply)))
  | ask {index : Nat} {caller : Caller} {call : StoreCall}
      {resume : call.Reply → Program caller.operation.Result}
      (found : system.callers index = some caller)
      (asks : caller.left = .ask (.store call) resume) (course : Course) :
      Step system (.asked index caller.hand call course (system.store.answer call).1)
        ((system.served call course).put index
          (some (caller.resumed (.store call) resume
            (course.reply (system.store.answer call).1))))
  | finish {index : Nat} {caller : Caller} {value : caller.operation.Result}
      (found : system.callers index = some caller) (done : caller.left = .done value) :
      Step system (.ended index caller.operation (.ok value))
        ({ system with handedOut := caller.operation.handsOut value ++ system.handedOut }.put index
          none)
  | fail {index : Nat} {caller : Caller} {cause : ScheduleError}
      (found : system.callers index = some caller) (failed : caller.left = .fail cause) :
      Step system (.ended index caller.operation (.error cause)) (system.put index none)

/-- A request, where it is known what the store answers. -/
theorem Step.answered {system : System} {index : Nat} {caller : Caller} {call : StoreCall}
    {resume : call.Reply → Program caller.operation.Result}
    (found : system.callers index = some caller) (asks : caller.left = .ask (.store call) resume)
    (course : Course) {answer : call.Reply} (answers : (system.store.answer call).1 = answer) :
    Step system (.asked index caller.hand call course answer)
      ((system.served call course).put index
        (some (caller.resumed (.store call) resume (course.reply answer)))) :=
  answers ▸ .ask found asks course

/-- Any number of steps, in any interleaving of callers. -/
inductive Run (start : System) : List System.Event → System → Prop
  | none : Run start [] start
  | snoc {events : List System.Event} {system after : System} {event : System.Event}
      (past : Run start events system) (step : Step system event after) :
      Run start (events ++ [event]) after

/-- A run goes on with another. -/
theorem Run.append {start middle present : System} {earlier later : List System.Event}
    (past : Run start earlier middle) (since : Run middle later present) :
    Run start (earlier ++ later) present := by
  induction since with
  | none => simpa using past
  | snoc _ step inductionHypothesis =>
    rw [← List.append_assoc]
    exact inductionHypothesis.snoc step

end System

end TimedPublishing
