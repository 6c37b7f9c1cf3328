import TimedPublishing.Schedule.Run
import TimedPublishing.Store.Memory

/-!
# Faults of a rehearsed store

A rehearsal puts faults in the way of a store in memory. A fault is armed for a kind of
request and strikes the next request of that kind: it takes the reply's place, changes
what is asked, or does something to the store first, as another worker could have done
between two requests of the program under rehearsal. What it does first may be refused by
the store, and then nothing has happened.
-/

namespace TimedPublishing

/-- The kinds of requests to a store. -/
inductive StoreCall.Kind
  | findByKey
  | find
  | save
  | updateIfQueued
  | delete
  | listDue
  | claim
  | listRange
  | tally
deriving DecidableEq, Repr

/-- The kind of a request. -/
def StoreCall.kind : StoreCall → StoreCall.Kind
  | .findByKey _ => .findByKey
  | .find _ => .find
  | .save _ => .save
  | .updateIfQueued _ => .updateIfQueued
  | .delete _ => .delete
  | .listDue _ _ => .listDue
  | .claim _ _ _ => .claim
  | .listRange _ _ _ => .listRange
  | .tally => .tally

/-- The job that a request is about. -/
def StoreCall.target? : StoreCall → Option JobId
  | .find id => some id
  | .save job => some job.id
  | .updateIfQueued job => some job.id
  | .delete id => some id
  | .claim id _ _ => some id
  | _ => none

namespace Rehearsal

/-- What happens to a request. -/
inductive Fault
  /-- Nothing, but the fault is used up. -/
  | pass
  /-- The store fails. -/
  | fail (detail : String)
  /-- The stored row is no job. -/
  | corrupt (detail : String)
  /-- The store crashes. -/
  | crash (detail : String)
  /-- A job that is looked for is not found, and no job is due. -/
  | hide
  /-- The jobs due at another instant are listed. -/
  | asOf (now : Instant)
  /-- This job is found or listed, whatever is stored. -/
  | serve (job : Job)
  /-- A job is saved first. -/
  | insert (job : Job)
  /-- A worker claims the job that the request is about first. -/
  | claim (worker : WorkerId) (now : Instant)
  /-- The job that the request is about is removed first. -/
  | delete
  /-- The job that the request is about changes first. -/
  | finish (change : Change)
deriving DecidableEq, Repr

namespace Fault

/-- Change a stored job and save it, if the change is allowed. -/
def changed (store : Store) (id : JobId) (change : Change) : Store :=
  match store.find id with
  | some job =>
    match job.change change with
    | .ok after => (store.save after).2
    | .error _ => store
  | none => store

/-- What a fault does to the store before the request about a job is answered. -/
def disturb (fault : Fault) (target : Option JobId) (store : Store) : Store :=
  match fault, target with
  | insert job, _ => (store.save job).2
  | claim worker now, some id => (store.claim id worker now).2
  | delete, some id => (store.delete id).2
  | finish change, some id => changed store id change
  | _, _ => store

/-- The reply to a look-up or a listing that finds nothing. -/
def emptyReply? : (call : StoreCall) → Option call.Reply
  | .findByKey _ => some (.ok none)
  | .find _ => some (.ok none)
  | .listDue _ _ => some (.ok [])
  | _ => none

/-- The reply to a look-up or a listing that finds a job. -/
def servedReply? (job : Job) : (call : StoreCall) → Option call.Reply
  | .findByKey _ => some (.ok (some job))
  | .find _ => some (.ok (some job))
  | .listDue _ _ => some (.ok [job])
  | _ => none

/-- The reaction that a fault puts in the place of the store's answer. -/
def reaction? (fault : Fault) (call : StoreCall) : Option (Reaction call.Reply) :=
  match fault with
  | fail detail => some (.reply (.error (.storage detail)))
  | corrupt detail => some (.reply (.error (.corrupt (.corruptRecord (.reported detail)))))
  | crash detail => some (.crash detail)
  | hide => (emptyReply? call).map .reply
  | serve job => (servedReply? job call).map .reply
  | _ => none

/-- Answer a request from the store, as of the instant that a fault may set. -/
def answer (fault : Fault) (store : Store) : (call : StoreCall) → call.Reply × Store
  | .listDue now limit =>
    match fault with
    | asOf other => store.answer (.listDue other limit)
    | _ => store.answer (.listDue now limit)
  | call => store.answer call

/-- How a store with a fault reacts to a request. -/
def react (fault : Fault) (call : StoreCall) (store : Store) : Reaction call.Reply × Store :=
  match fault.reaction? call with
  | some reaction => (reaction, store)
  | none =>
    let (reply, after) := fault.answer (fault.disturb call.target? store) call
    (.reply reply, after)

end Fault

end Rehearsal

end TimedPublishing
