import TimedPublishing.Postgres.Query

/-!
# What the replies of the database mean

A reply is a list of rows, a count, or a failure. A failure is an error of the store,
except that a broken uniqueness is a duplicate intent where a job was written. Rows are
first read, all of them, and then rebuilt as jobs in their order; where one job at most is
asked for, the rows behind the first are left alone.
-/

namespace TimedPublishing.Postgres

/-- A row of the count by status. -/
structure StatusCount where
  status : Value
  count : Value
deriving DecidableEq, Repr

/-- Why there are no rows. -/
inductive Failure
  /-- The database refuses the statement, with a code. -/
  | database (code message : String)
  | closed
  /-- The connection fails. -/
  | connection (detail : String)
deriving DecidableEq, Repr

/-- A reply of the database. -/
inductive Reply
  | rows (items : List Row)
  | counts (items : List StatusCount)
  | affected (number : Nat)
  | failure (cause : Failure)

/-- The code of a broken uniqueness. -/
def uniqueViolation : String := "23505"

/-- The name of a request in messages. -/
def operation : StoreCall → String
  | .findByKey _ => "get_by_idempotency_key"
  | .find _ => "get"
  | .save _ => "save"
  | .updateIfQueued _ => "update_if_queued"
  | .delete _ => "delete"
  | .listDue _ _ => "list_due_jobs"
  | .claim _ _ _ => "claim_job"
  | .listRange _ _ _ => "list_in_range"
  | .tally => "stats"

/-- A fault of the database in an operation. -/
def faultIn (operation detail : String) : StoreError :=
  .storage ("database error in " ++ operation ++ ": " ++ detail)

/-- A failure as an error of the store. -/
def Failure.toStoreError (operation : String) : Failure → StoreError
  | .database code message =>
    .storage ("database error in " ++ operation ++ " (" ++ code ++ "): " ++ message)
  | .closed => .storage ("connection pool closed during " ++ operation)
  | .connection detail => faultIn operation detail

/-- The intent that a request writes. -/
def writtenKey? : StoreCall → Option JobKey
  | .save job => some job.key
  | .updateIfQueued job => some job.key
  | _ => none

/-- The error of a request that failed. -/
def failed (call : StoreCall) (cause : Failure) : StoreError :=
  match cause, writtenKey? call with
  | .database code message, some key =>
    if code = uniqueViolation then .duplicateKey key
    else Failure.toStoreError (operation call) (.database code message)
  | cause, _ => cause.toStoreError (operation call)

/-- A column that cannot be read, as an error of the store. -/
def unreadable (operation : String) (fault : ColumnFault) : StoreError :=
  faultIn operation fault.message

/-- Read some rows and rebuild their jobs. -/
def jobs (operation : String) (rows : List Row) : Except StoreError (List Job) := do
  let read ← (rows.mapM Row.fields).mapError (unreadable operation)
  read.mapM Fields.toJob?

/-- Read the first row, if there is one, and rebuild its job. -/
def job? (operation : String) : List Row → Except StoreError (Option Job)
  | [] => .ok none
  | row :: _ => do
    let fields ← row.fields.mapError (unreadable operation)
    return some (← fields.toJob?)

/-- The rows of a reply; a count comes without rows. -/
def Reply.toRows : Reply → List Row
  | .rows items => items
  | _ => []

/-- The number of rows that a statement removed. -/
def Reply.affectedRows : Reply → Nat
  | .rows items => items.length
  | .counts items => items.length
  | .affected number => number
  | .failure _ => 0

/-- The counts by status of a reply. -/
def Reply.toCounts : Reply → List StatusCount
  | .counts items => items
  | _ => []

/-- Count the jobs of one status. A negative count counts for nothing. -/
def recordCount (operation : String) (tally : Tally) (row : StatusCount) :
    Except StoreError Tally := do
  let word ← (row.status.required "status" Value.toText?).mapError (unreadable operation)
  let count ← (row.count.required "count" Value.toInt?).mapError (unreadable operation)
  let status ← (JobStatus.read word).mapError .corrupt
  return tally.record status count.toNat

/-- The answer that a reply without failure gives. A save that returned no row was kept
from a job that has ended. -/
def answer (reply : Reply) : (call : StoreCall) → call.Reply
  | .findByKey key => job? (operation (.findByKey key)) reply.toRows
  | .find id => job? (operation (.find id)) reply.toRows
  | .save job => do
    match ← job? (operation (.save job)) reply.toRows with
    | some saved => .ok saved
    | none => .error (.terminal job.id)
  | .updateIfQueued job => job? (operation (.updateIfQueued job)) reply.toRows
  | .delete _ => .ok (decide (0 < reply.affectedRows))
  | .listDue now limit => jobs (operation (.listDue now limit)) reply.toRows
  | .claim id worker now => job? (operation (.claim id worker now)) reply.toRows
  | .listRange start stop statuses => jobs (operation (.listRange start stop statuses)) reply.toRows
  | .tally => reply.toCounts.foldlM (recordCount (operation .tally)) Tally.zero

/-- The reply to a request, from the reply of the database. -/
def interpret (call : StoreCall) : Reply → call.Reply
  | .failure cause => .error (failed call cause)
  | reply => answer reply call

/-- The reply to making the table where it is missing. -/
def schemaApplied : Reply → Except StoreError Unit
  | .failure cause => .error (cause.toStoreError "ensure_schema")
  | _ => .ok ()

end TimedPublishing.Postgres
