/-!
# Statements on the table of jobs

The statements that keep jobs in a relational table, as terms. A statement is written out
by its `text`; a condition puts brackets where one connective stands inside the other. One
table and a handful of forms are all that is needed, so the terms cover no more than that.
-/

namespace TimedPublishing.Postgres

/-- A column of the table of jobs. -/
inductive Column
  | id
  | content
  | publishAt
  | status
  | attempts
  | lastAttemptAt
  | nextRetryAt
  | completedAt
  | actualPublishAt
  | errorMessage
  | claimedBy
  | createdAt
  | updatedAt
deriving DecidableEq, Repr

namespace Column

/-- The columns in the order in which they are listed and read. -/
def all : List Column :=
  [id, content, publishAt, status, attempts, lastAttemptAt, nextRetryAt, completedAt,
    actualPublishAt, errorMessage, claimedBy, createdAt, updatedAt]

/-- The name of a column. -/
def text : Column → String
  | id => "id"
  | content => "content_id"
  | publishAt => "publish_at_utc"
  | status => "status"
  | attempts => "attempts"
  | lastAttemptAt => "last_attempt_at"
  | nextRetryAt => "next_retry_at"
  | completedAt => "completed_at"
  | actualPublishAt => "actual_publish_at"
  | errorMessage => "error_message"
  | claimedBy => "claimed_by"
  | createdAt => "created_at"
  | updatedAt => "updated_at"

end Column

/-- The name of the table. -/
def tableName : String := "publish_jobs"

/-- Parts of a statement, separated by commas. -/
def listed (parts : List String) : String := ", ".intercalate parts

/-- The names of all columns. -/
def columnNames : String := listed (Column.all.map Column.text)

/-- A value in a statement. -/
inductive Operand
  | column (name : Column)
  /-- The column of the stored row, where a proposed one has it too. -/
  | stored (name : Column)
  /-- The column of the row that was to be inserted. -/
  | proposed (name : Column)
  /-- A parameter; the first one has the number 1. -/
  | parameter (number : Nat)
  | word (text : String)
  | null
deriving DecidableEq, Repr

/-- A parameter by its number. -/
def parameterText (number : Nat) : String := "$" ++ toString number

/-- A word in quotes. The words in statements contain none. -/
def quotedWord (word : String) : String := "'" ++ word ++ "'"

/-- A value as written in a statement. -/
def Operand.text : Operand → String
  | .column name => name.text
  | .stored name => tableName ++ "." ++ name.text
  | .proposed name => "EXCLUDED." ++ name.text
  | .parameter number => parameterText number
  | .word text => quotedWord text
  | .null => "NULL"

/-- A comparison of two values. -/
inductive Comparison
  | equal
  | less
  | atMost
  | atLeast
deriving DecidableEq, Repr

/-- The sign of a comparison. -/
def Comparison.text : Comparison → String
  | equal => "="
  | less => "<"
  | atMost => "<="
  | atLeast => ">="

/-- What joins two conditions. -/
inductive Connective
  | and
  | or
deriving DecidableEq, Repr

/-- The word of a connective. -/
def Connective.text : Connective → String
  | and => "AND"
  | or => "OR"

/-- A condition on a row. -/
inductive Condition
  | compare (comparison : Comparison) (left right : Operand)
  | notAmong (operand : Operand) (words : List String)
  /-- A parameter that holds a list of words is null. -/
  | noList (number : Nat)
  /-- A value is in the list of words that a parameter holds. -/
  | inList (operand : Operand) (number : Nat)
  | join (connective : Connective) (left right : Condition)
deriving Repr

namespace Condition

/-- A condition inside a connective, or on its own. Another connective gets brackets. -/
def textInside (outer : Option Connective) : Condition → String
  | compare comparison left right => left.text ++ " " ++ comparison.text ++ " " ++ right.text
  | notAmong operand words =>
    operand.text ++ " NOT IN (" ++ listed (words.map quotedWord) ++ ")"
  | noList number => parameterText number ++ "::text[] IS NULL"
  | inList operand number => operand.text ++ " = ANY(" ++ parameterText number ++ ")"
  | join connective left right =>
    let joined :=
      left.textInside (some connective) ++ " " ++ connective.text ++ " " ++
        right.textInside (some connective)
    if outer.any (· ≠ connective) then "(" ++ joined ++ ")" else joined

/-- A condition as written in a statement. -/
def text (condition : Condition) : String := condition.textInside none

/-- Both conditions hold. -/
def both (left right : Condition) : Condition := join .and left right

/-- One of the conditions holds. -/
def either (left right : Condition) : Condition := join .or left right

/-- Two values are equal. -/
def equal (left right : Operand) : Condition := compare .equal left right

end Condition

/-- A column and the value that it is set to. -/
structure Assignment where
  column : Column
  operand : Operand
deriving DecidableEq, Repr

/-- An assignment as written in a statement. -/
def Assignment.text (assignment : Assignment) : String :=
  assignment.column.text ++ " = " ++ assignment.operand.text

/-- Assignments as written in a statement. -/
def assignmentList (assignments : List Assignment) : String :=
  listed (assignments.map Assignment.text)

/-- A statement. -/
inductive Statement
  /-- Insert a row whose columns are the parameters in their order. Where a row has its
  name already, change that one instead, if it meets the condition. The row that was
  written is returned. -/
  | insert (assignments : List Assignment) (condition : Condition)
  /-- Change the rows that meet the condition and return them. -/
  | update (assignments : List Assignment) (condition : Condition)
  /-- Remove the rows that meet the condition. -/
  | delete (condition : Condition)
  /-- The rows that meet the condition. -/
  | select (condition : Condition)
  /-- The rows that meet the condition, by publish time and then by name, up to the number
  that a parameter gives. -/
  | selectInOrder (condition : Condition) (limit : Option Nat)
  /-- The number of rows with each status. -/
  | countByStatus
deriving Repr

/-- A statement as it is sent. -/
def Statement.text : Statement → String
  | insert assignments condition =>
    "INSERT INTO " ++ tableName ++ " (" ++ columnNames ++ ") VALUES (" ++
      listed ((List.range Column.all.length).map fun index => parameterText (index + 1)) ++
      ") ON CONFLICT (" ++ Column.id.text ++ ") DO UPDATE SET " ++ assignmentList assignments ++
      " WHERE " ++ condition.text ++ " RETURNING " ++ columnNames
  | update assignments condition =>
    "UPDATE " ++ tableName ++ " SET " ++ assignmentList assignments ++ " WHERE " ++
      condition.text ++ " RETURNING " ++ columnNames
  | delete condition => "DELETE FROM " ++ tableName ++ " WHERE " ++ condition.text
  | select condition =>
    "SELECT " ++ columnNames ++ " FROM " ++ tableName ++ " WHERE " ++ condition.text
  | selectInOrder condition limit =>
    "SELECT " ++ columnNames ++ " FROM " ++ tableName ++ " WHERE " ++ condition.text ++
      " ORDER BY " ++ Column.publishAt.text ++ " ASC, " ++ Column.id.text ++ " ASC" ++
      match limit with
      | some number => " LIMIT " ++ parameterText number
      | none => ""
  | countByStatus =>
    "SELECT " ++ Column.status.text ++ ", COUNT(*) AS count FROM " ++ tableName ++
      " GROUP BY " ++ Column.status.text

end TimedPublishing.Postgres
