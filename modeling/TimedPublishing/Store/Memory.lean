import TimedPublishing.Store.Call
import TimedPublishing.Store.Table

/-!
# The job store in memory

Two tables: the jobs by name, and the name of the job that has each intent. Writing a job
is refused before anything changes when another job has its intent; otherwise the intent
it had before is freed, the new one is taken, and the row is replaced. Listings are
ordered by publish time and then by name, so the order in which the tables hold their
entries never shows.
-/

namespace TimedPublishing

/-- Listings put the earlier publish time first, and the smaller name among equals. -/
def Job.precedes (left right : Job) : Bool :=
  decide (left.publishAt < right.publishAt) ||
    (decide (left.publishAt = right.publishAt) && left.id.precedes right.id)

/-- Jobs in the order of listings. -/
def inListingOrder (jobs : List Job) : List Job := jobs.mergeSort Job.precedes

/-- The jobs of a store, and the owner of each intent. -/
structure Store where
  rows : Table JobId Job
  owners : Table JobKey JobId

namespace Store

/-- The store without jobs. -/
def empty : Store := ⟨.empty, .empty⟩

/-- The job with a name. -/
def find (store : Store) (id : JobId) : Option Job := store.rows.find? id

/-- The job with an intent, through the table of owners. -/
def findByKey (store : Store) (key : JobKey) : Option Job := do
  let owner ← store.owners.find? key
  store.rows.find? owner

/-- The owners once the job with this name gives up the intent it has, if that differs
from the one it is about to take. -/
def ownersWithout (store : Store) (id : JobId) (key : JobKey) : Table JobKey JobId :=
  match store.rows.find? id with
  | some previous => if previous.key = key then store.owners else store.owners.erase previous.key
  | none => store.owners

/-- Write a job and move its intent. -/
def write (store : Store) (job : Job) : Store :=
  { rows := store.rows.insert job.id job
    owners := (store.ownersWithout job.id job.key).insert job.key job.id }

/-- Write a job, unless another one has its intent. -/
def put (store : Store) (job : Job) : Except StoreError Store :=
  match store.owners.find? job.key with
  | some owner => if owner = job.id then .ok (store.write job) else .error (.duplicateKey job.key)
  | none => .ok (store.write job)

/-- Insert or replace a job; a job that has ended stays as it is. -/
def save (store : Store) (job : Job) : Except StoreError Job × Store :=
  let ended := (store.find job.id).any fun stored => stored.status.isTerminal
  if ended then (.error (.terminal job.id), store)
  else
    match store.put job with
    | .ok written => (.ok job, written)
    | .error cause => (.error cause, store)

/-- Replace a job that is queued. -/
def updateIfQueued (store : Store) (job : Job) : Except StoreError (Option Job) × Store :=
  let queued := (store.find job.id).any fun stored => stored.status == .queued
  if queued then
    match store.put job with
    | .ok written => (.ok (some job), written)
    | .error cause => (.error cause, store)
  else (.ok none, store)

/-- Remove a job that is queued, with its intent. -/
def delete (store : Store) (id : JobId) : Bool × Store :=
  match store.find id with
  | some stored =>
    if stored.status = .queued then
      (true, { rows := store.rows.erase id, owners := store.owners.erase stored.key })
    else (false, store)
  | none => (false, store)

/-- Hand a due job to a worker. The intent stays where it is. -/
def claim (store : Store) (id : JobId) (worker : WorkerId) (now : Instant) : Option Job × Store :=
  match store.find id with
  | some stored =>
    match stored.claim worker now with
    | .ok claimed => (some claimed, { store with rows := store.rows.insert id claimed })
    | .error _ => (none, store)
  | none => (none, store)

/-- Every job, in the order of listings. -/
def jobs (store : Store) : List Job := inListingOrder store.rows.values

/-- The due jobs that come first, up to a number of them. -/
def listDue (store : Store) (now : Instant) (limit : Nat) : List Job :=
  (inListingOrder (store.rows.values.filter fun job => job.isDue now)).take limit

/-- Whether a status passes a filter; without a filter every status does. -/
def passes (statuses : Option (List JobStatus)) (status : JobStatus) : Bool :=
  match statuses with
  | none => true
  | some wanted => wanted.contains status

/-- The jobs with a publish time from `start` up to but not including `stop`. -/
def listRange (store : Store) (start stop : Instant) (statuses : Option (List JobStatus)) :
    List Job :=
  inListingOrder (store.rows.values.filter fun job =>
    decide (start ≤ job.publishAt) && decide (job.publishAt < stop) && passes statuses job.status)

/-- The number of jobs in each status. -/
def tally (store : Store) : Tally :=
  store.rows.values.foldl (fun tally job => tally.record job.status 1) .zero

/-- Answer a request. The store in memory never fails by itself. -/
def answer (store : Store) : (call : StoreCall) → call.Reply × Store
  | .findByKey key => (.ok (store.findByKey key), store)
  | .find id => (.ok (store.find id), store)
  | .save job => store.save job
  | .updateIfQueued job => store.updateIfQueued job
  | .delete id => let (removed, after) := store.delete id; (.ok removed, after)
  | .listDue now limit => (.ok (store.listDue now limit), store)
  | .claim id worker now => let (claimed, after) := store.claim id worker now; (.ok claimed, after)
  | .listRange start stop statuses => (.ok (store.listRange start stop statuses), store)
  | .tally => (.ok store.tally, store)

end Store

end TimedPublishing
