import TimedPublishing.Job.Row
import TimedPublishing.Postgres.Statement
import TimedPublishing.Store.Call

/-!
# Rows of the table of jobs

A row gives each column a value. Writing a job fills the columns of its flat form.
Reading a row back first takes the value of each column, in the order of the columns, and
then asks whether the values make a job. The two faults are different ones: a column
without the value it has to have is an error of the database, and a row that is no job is
a corrupt record.
-/

namespace TimedPublishing.Postgres

/-- A value as the database has it. -/
inductive Value
  | null
  | uuid (id : JobId)
  | text (words : String)
  | time (instant : Instant)
  | integer (number : Int)
  | texts (items : List String)
deriving DecidableEq, Repr

/-- A value for each column. -/
abbrev Row : Type := Column → Value

/-- A value that may be missing. -/
def Value.ofOption {α : Type} (make : α → Value) : Option α → Value
  | some value => make value
  | none => .null

/-- The row of a job. -/
def Row.ofJob (job : Job) : Row
  | .id => .uuid job.id
  | .content => .text job.content.text
  | .publishAt => .time job.publishAt
  | .status => .text job.status.text
  | .attempts => .integer job.attempts.count
  | .lastAttemptAt => .ofOption .time job.lastAttemptAt
  | .nextRetryAt => .ofOption .time job.nextRetryAt
  | .completedAt => .ofOption .time job.completedAt
  | .actualPublishAt => .ofOption .time job.actualPublishAt
  | .errorMessage => .ofOption .text job.errorMessage
  | .claimedBy => .ofOption (fun owner => .text owner.text) job.claimedBy
  | .createdAt => .time job.createdAt
  | .updatedAt => .time job.updatedAt

/-- Why a column cannot be read. -/
inductive ColumnFault
  | unexpectedNull (column : String)
  /-- The value is of another kind. -/
  | mismatch (column : String)
deriving DecidableEq, Repr

/-- The wording of a fault. -/
def ColumnFault.message : ColumnFault → String
  | .unexpectedNull column =>
    "error occurred while decoding column \"" ++ column ++
      "\": unexpected null; try decoding as an \x60Option\x60"
  | .mismatch column =>
    "error occurred while decoding column \"" ++ column ++ "\": mismatched types"

namespace Value

/-- The name in a value. -/
def toId? : Value → Option JobId
  | .uuid id => some id
  | _ => none

/-- The text in a value. -/
def toText? : Value → Option String
  | .text words => some words
  | _ => none

/-- The instant in a value. -/
def toInstant? : Value → Option Instant
  | .time instant => some instant
  | _ => none

/-- The number in a value. -/
def toInt? : Value → Option Int
  | .integer number => some number
  | _ => none

/-- Read the value of a column that has to have one. -/
def required {α : Type} (column : String) (read : Value → Option α) :
    Value → Except ColumnFault α
  | .null => .error (.unexpectedNull column)
  | value =>
    match read value with
    | some found => .ok found
    | none => .error (.mismatch column)

/-- Read the value of a column that may have none. -/
def nullable {α : Type} (column : String) (read : Value → Option α) :
    Value → Except ColumnFault (Option α)
  | .null => .ok none
  | value => (required column read value).map some

end Value

/-- The values of a row, column by column. -/
structure Fields where
  id : JobId
  content : String
  publishAt : Instant
  status : String
  attempts : Int
  lastAttemptAt : Option Instant
  nextRetryAt : Option Instant
  completedAt : Option Instant
  actualPublishAt : Option Instant
  errorMessage : Option String
  claimedBy : Option String
  createdAt : Instant
  updatedAt : Instant
deriving DecidableEq, Repr

namespace Row

/-- Read a column that has to have a value. -/
def get {α : Type} (row : Row) (column : Column) (read : Value → Option α) :
    Except ColumnFault α :=
  (row column).required column.text read

/-- Read a column that may have no value. -/
def get? {α : Type} (row : Row) (column : Column) (read : Value → Option α) :
    Except ColumnFault (Option α) :=
  (row column).nullable column.text read

/-- Read a row. The first column that cannot be read is reported. -/
def fields (row : Row) : Except ColumnFault Fields := do
  let id ← row.get .id Value.toId?
  let content ← row.get .content Value.toText?
  let publishAt ← row.get .publishAt Value.toInstant?
  let status ← row.get .status Value.toText?
  let attempts ← row.get .attempts Value.toInt?
  let lastAttemptAt ← row.get? .lastAttemptAt Value.toInstant?
  let nextRetryAt ← row.get? .nextRetryAt Value.toInstant?
  let completedAt ← row.get? .completedAt Value.toInstant?
  let actualPublishAt ← row.get? .actualPublishAt Value.toInstant?
  let errorMessage ← row.get? .errorMessage Value.toText?
  let claimedBy ← row.get? .claimedBy Value.toText?
  let createdAt ← row.get .createdAt Value.toInstant?
  let updatedAt ← row.get .updatedAt Value.toInstant?
  return ⟨id, content, publishAt, status, attempts, lastAttemptAt, nextRetryAt, completedAt,
    actualPublishAt, errorMessage, claimedBy, createdAt, updatedAt⟩

end Row

namespace Fields

/-- The count of attempts in a column. A column holds no more than its field, so only a
negative number is none. -/
def attempts? (fields : Fields) : Option Attempts :=
  if 0 ≤ fields.attempts then Attempts.ofNat? fields.attempts.toNat else none

/-- The stored form that the values of a row describe. -/
def toJobRow? (fields : Fields) : Except JobError JobRow := do
  let attempts ←
    match fields.attempts? with
    | some attempts => .ok attempts
    | none => .error (.corruptRecord (.negativeAttempts fields.id))
  let content ← ContentId.read fields.content
  let status ← JobStatus.read fields.status
  let claimedBy ←
    match fields.claimedBy with
    | some name => (WorkerId.read name).map some
    | none => .ok none
  return {
    id := fields.id
    content := content
    publishAt := fields.publishAt
    status := status
    attempts := attempts
    lastAttemptAt := fields.lastAttemptAt
    nextRetryAt := fields.nextRetryAt
    completedAt := fields.completedAt
    actualPublishAt := fields.actualPublishAt
    errorMessage := fields.errorMessage
    claimedBy := claimedBy
    createdAt := fields.createdAt
    updatedAt := fields.updatedAt }

/-- The job that the values of a row describe. -/
def toJob? (fields : Fields) : Except StoreError Job :=
  (fields.toJobRow? >>= JobRow.toJob?).mapError .corrupt

end Fields

end TimedPublishing.Postgres
