import TimedPublishing.Postgres.Row

/-!
# The statement for a request

Each request to a store in the database is a single statement, so the database makes it
atomic. The conditional requests carry their condition in the statement. A job whose count
of attempts does not fit the column is refused before anything is sent.
-/

namespace TimedPublishing.Postgres

/-- A statement with the values of its parameters. -/
structure Query where
  statement : Statement
  parameters : List Value

/-- The largest number that the column of attempts holds. -/
def maxAttemptsColumn : Nat := 2147483647

/-- The largest limit of a listing. -/
def maxLimit : Nat := 9223372036854775807

/-- A column is equal to a parameter. -/
def columnIs (column : Column) (number : Nat) : Condition :=
  .equal (.column column) (.parameter number)

/-- The row has a status. -/
def statusIs (status : JobStatus) : Condition := .equal (.column .status) (.word status.text)

/-- A column is at most a parameter. -/
def columnAtMost (column : Column) (number : Nat) : Condition :=
  .compare .atMost (.column column) (.parameter number)

/-- The job of a row waits and is due at the instant that a parameter holds, its publish
time apart. -/
def dueStatus (number : Nat) : Condition :=
  .either (statusIs .queued) (.both (statusIs .retryWait) (columnAtMost .nextRetryAt number))

/-- What a save changes in the row that has the name already. -/
def saveAssignments : List Assignment :=
  [⟨.content, .proposed .content⟩, ⟨.publishAt, .proposed .publishAt⟩,
    ⟨.status, .proposed .status⟩, ⟨.attempts, .proposed .attempts⟩,
    ⟨.lastAttemptAt, .proposed .lastAttemptAt⟩, ⟨.nextRetryAt, .proposed .nextRetryAt⟩,
    ⟨.completedAt, .proposed .completedAt⟩, ⟨.actualPublishAt, .proposed .actualPublishAt⟩,
    ⟨.errorMessage, .proposed .errorMessage⟩, ⟨.claimedBy, .proposed .claimedBy⟩,
    ⟨.updatedAt, .proposed .updatedAt⟩]

/-- Insert a job, or replace the one with its name unless that one has ended. -/
def saveStatement : Statement :=
  .insert saveAssignments
    (.notAmong (.stored .status) [JobStatus.succeeded.text, JobStatus.failed.text])

/-- What an update changes in the row of a queued job. -/
def updateAssignments : List Assignment :=
  [⟨.content, .parameter 2⟩, ⟨.publishAt, .parameter 3⟩, ⟨.status, .parameter 4⟩,
    ⟨.attempts, .parameter 5⟩, ⟨.lastAttemptAt, .parameter 6⟩, ⟨.nextRetryAt, .parameter 7⟩,
    ⟨.completedAt, .parameter 8⟩, ⟨.actualPublishAt, .parameter 9⟩,
    ⟨.errorMessage, .parameter 10⟩, ⟨.claimedBy, .parameter 11⟩, ⟨.updatedAt, .parameter 12⟩]

/-- Replace a job while it is queued. -/
def updateStatement : Statement :=
  .update updateAssignments (.both (columnIs .id 1) (statusIs .queued))

/-- What a claim changes in the row of a due job. -/
def claimAssignments : List Assignment :=
  [⟨.status, .word JobStatus.running.text⟩, ⟨.claimedBy, .parameter 2⟩, ⟨.nextRetryAt, .null⟩,
    ⟨.updatedAt, .parameter 3⟩]

/-- Hand a due job to a worker. -/
def claimStatement : Statement :=
  .update claimAssignments
    (.both (columnIs .id 1) (.both (columnAtMost .publishAt 3) (dueStatus 3)))

/-- The due jobs. -/
def listDueStatement : Statement :=
  .selectInOrder (.both (columnAtMost .publishAt 1) (dueStatus 1)) (some 2)

/-- The jobs whose publish time lies in a range. -/
def listRangeStatement : Statement :=
  .selectInOrder
    (.both (.compare .atLeast (.column .publishAt) (.parameter 1))
      (.both (.compare .less (.column .publishAt) (.parameter 2))
        (.either (.noList 3) (.inList (.column .status) 3))))
    none

/-- The values that a save sends, in the order of their parameters. -/
def saveParameters (job : Job) : List Value :=
  [.uuid job.id, .text job.content.text, .time job.publishAt, .text job.status.text,
    .integer job.attempts.count, .ofOption .time job.lastAttemptAt,
    .ofOption .time job.nextRetryAt, .ofOption .time job.completedAt,
    .ofOption .time job.actualPublishAt, .ofOption .text job.errorMessage,
    .ofOption (fun owner => .text owner.text) job.claimedBy, .time job.createdAt,
    .time job.updatedAt]

/-- The values that an update sends: all but the time of the making. -/
def updateParameters (job : Job) : List Value :=
  [.uuid job.id, .text job.content.text, .time job.publishAt, .text job.status.text,
    .integer job.attempts.count, .ofOption .time job.lastAttemptAt,
    .ofOption .time job.nextRetryAt, .ofOption .time job.completedAt,
    .ofOption .time job.actualPublishAt, .ofOption .text job.errorMessage,
    .ofOption (fun owner => .text owner.text) job.claimedBy, .time job.updatedAt]

/-- Let a job pass whose count of attempts fits its column. -/
def fitting (job : Job) (query : Query) : Except StoreError Query :=
  if job.attempts.count ≤ maxAttemptsColumn then .ok query
  else .error (.storage ("attempts out of range: " ++ toString job.attempts.count))

/-- The statement and the parameters of a request. -/
def query : StoreCall → Except StoreError Query
  | .findByKey key =>
    .ok ⟨.select (.both (columnIs .content 1) (columnIs .publishAt 2)),
      [.text key.content.text, .time key.publishAt]⟩
  | .find id => .ok ⟨.select (columnIs .id 1), [.uuid id]⟩
  | .save job => fitting job ⟨saveStatement, saveParameters job⟩
  | .updateIfQueued job => fitting job ⟨updateStatement, updateParameters job⟩
  | .delete id => .ok ⟨.delete (.both (columnIs .id 1) (statusIs .queued)), [.uuid id]⟩
  | .listDue now limit => .ok ⟨listDueStatement, [.time now, .integer (min limit maxLimit)]⟩
  | .claim id worker now => .ok ⟨claimStatement, [.uuid id, .text worker.text, .time now]⟩
  | .listRange start stop statuses =>
    .ok ⟨listRangeStatement,
      [.time start, .time stop,
        .ofOption (fun wanted => .texts (wanted.map JobStatus.text)) statuses]⟩
  | .tally => .ok ⟨.countByStatus, []⟩

end TimedPublishing.Postgres
