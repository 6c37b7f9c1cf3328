import Mathlib.Data.List.Dedup
import TimedPublishing.Postgres.Message
import TimedPublishing.Postgres.Reply

/-!
# What a statement does to the table

The table is a list of rows whose order means nothing. A statement is one step: it answers with a
reply and leaves a table, and when it fails it leaves the table as it was. Conditions have three
truth values, because a comparison with a missing value is neither true nor false, and a row is
selected only where the condition is true. The schema takes part: a row has to meet its checks, and
no two rows may have the same name or the same intent. An insertion looks for a row of its name
first, and only if there is none may it run into the intent of another row.

This is what is assumed of the database. Nothing here refers to jobs or to a store, so what the
statements do for them is left to be proved. A comparison that no request makes, such as one of
texts by their order, is given no truth.
-/

namespace TimedPublishing.Postgres

/-- The truth of a condition: it holds, or it does not, or neither because a value is missing. -/
abbrev Truth : Type := Option Bool

namespace Truth

/-- Both conditions hold; one that does not hold decides alone. -/
def both : Truth → Truth → Truth
  | some true, some true => some true
  | some false, _ => some false
  | _, some false => some false
  | _, _ => none

/-- One of the conditions holds; one that holds decides alone. -/
def either : Truth → Truth → Truth
  | some false, some false => some false
  | some true, _ => some true
  | _, some true => some true
  | _, _ => none

/-- Two conditions hold together exactly if each does. -/
theorem both_eq_true {left right : Truth} :
    both left right = some true ↔ left = some true ∧ right = some true := by
  rcases left with - | - | - <;> rcases right with - | - | - <;> simp [both]

/-- One of two conditions holds exactly if one of them does. -/
theorem either_eq_true {left right : Truth} :
    either left right = some true ↔ left = some true ∨ right = some true := by
  rcases left with - | - | - <;> rcases right with - | - | - <;> simp [either]

end Truth

/-- The value of a parameter; the first one has the number 1. -/
def parameterAt (parameters : List Value) (number : Nat) : Value :=
  parameters.getD (number - 1) .null

/-- What the operands of a statement can refer to: a stored row, the row that was to be inserted,
if there is one, and the parameters. -/
structure Scope where
  row : Row
  proposed : Option Row
  parameters : List Value

/-- The value of an operand. -/
def Scope.value (scope : Scope) : Operand → Value
  | .column name => scope.row name
  | .stored name => scope.row name
  | .proposed name => (scope.proposed.map fun row => row name).getD .null
  | .parameter number => parameterAt scope.parameters number
  | .word text => .text text
  | .null => .null

/-- The truth of a test of two instants. Values of other kinds are not compared by their order. -/
def Value.instants (test : Instant → Instant → Bool) : Value → Value → Truth
  | .time left, .time right => some (test left right)
  | _, _ => none

/-- A test of two values holds exactly of two instants that pass it. -/
theorem Value.instants_eq_true {test : Instant → Instant → Bool} {left right : Value} :
    instants test left right = some true ↔
      ∃ first second, left = .time first ∧ right = .time second ∧ test first second = true := by
  cases left <;> cases right <;> simp [instants]

/-- The truth of a comparison. -/
def Comparison.truth (comparison : Comparison) (left right : Value) : Truth :=
  match comparison with
  | .equal => if left = .null ∨ right = .null then none else some (decide (left = right))
  | .less => Value.instants (fun first second => decide (first < second)) left right
  | .atMost => Value.instants (fun first second => decide (first ≤ second)) left right
  | .atLeast => Value.instants (fun first second => decide (second ≤ first)) left right

namespace Condition

/-- The truth of a condition. -/
def truth (scope : Scope) : Condition → Truth
  | compare comparison left right => comparison.truth (scope.value left) (scope.value right)
  | notAmong operand words =>
    if scope.value operand = .null then none
    else some (words.all fun word => scope.value operand ≠ .text word)
  | noList number => some (decide (parameterAt scope.parameters number = .null))
  | inList operand number =>
    match scope.value operand, parameterAt scope.parameters number with
    | _, .texts [] => some false
    | .text word, .texts items => some (items.contains word)
    | _, _ => none
  | join .and left right => Truth.both (left.truth scope) (right.truth scope)
  | join .or left right => Truth.either (left.truth scope) (right.truth scope)

/-- A condition selects a row only if it is true of it. -/
def Holds (condition : Condition) (scope : Scope) : Prop := condition.truth scope = some true

instance (condition : Condition) (scope : Scope) : Decidable (condition.Holds scope) :=
  inferInstanceAs (Decidable (_ = _))

variable {scope : Scope}

/-- Two joined conditions both hold. -/
theorem holds_both {left right : Condition} :
    (left.both right).Holds scope ↔ left.Holds scope ∧ right.Holds scope :=
  Truth.both_eq_true

/-- One of two joined conditions holds. -/
theorem holds_either {left right : Condition} :
    (left.either right).Holds scope ↔ left.Holds scope ∨ right.Holds scope :=
  Truth.either_eq_true

/-- Two values are equal, and there are two. -/
theorem holds_equal {left right : Operand} :
    (equal left right).Holds scope ↔
      scope.value left ≠ .null ∧ scope.value left = scope.value right := by
  unfold Holds equal truth
  by_cases missing : scope.value left = .null ∨ scope.value right = .null
  · rw [Comparison.truth, if_pos missing]
    rcases missing with none | none <;> simp [none]
  · rw [Comparison.truth, if_neg missing]
    simp [not_or.mp missing]

/-- An instant is at most another. -/
theorem holds_atMost {left right : Operand} :
    (compare .atMost left right).Holds scope ↔
      ∃ first second, scope.value left = .time first ∧ scope.value right = .time second ∧
        first ≤ second := by
  exact Value.instants_eq_true.trans (by simp only [decide_eq_true_eq])

/-- An instant is before another. -/
theorem holds_less {left right : Operand} :
    (compare .less left right).Holds scope ↔
      ∃ first second, scope.value left = .time first ∧ scope.value right = .time second ∧
        first < second := by
  exact Value.instants_eq_true.trans (by simp only [decide_eq_true_eq])

/-- An instant is at least another. -/
theorem holds_atLeast {left right : Operand} :
    (compare .atLeast left right).Holds scope ↔
      ∃ first second, scope.value left = .time first ∧ scope.value right = .time second ∧
        second ≤ first := by
  exact Value.instants_eq_true.trans (by simp only [decide_eq_true_eq])

/-- A value is none of some words, and there is one. -/
theorem holds_notAmong {operand : Operand} {words : List String} :
    (notAmong operand words).Holds scope ↔
      scope.value operand ≠ .null ∧ ∀ word ∈ words, scope.value operand ≠ .text word := by
  unfold Holds truth
  by_cases missing : scope.value operand = .null
  · simp [missing]
  · simp [missing]

/-- No list is given. -/
theorem holds_noList {number : Nat} :
    (noList number).Holds scope ↔ parameterAt scope.parameters number = .null := by
  simp [Holds, truth]

/-- A word is in a list, and there is a list. -/
theorem holds_inList {operand : Operand} {number : Nat} :
    (inList operand number).Holds scope ↔ ∃ word items, scope.value operand = .text word ∧
      parameterAt scope.parameters number = .texts items ∧ word ∈ items := by
  unfold Holds truth
  cases scope.value operand <;> cases parameterAt scope.parameters number with
  | texts items => cases items <;> simp
  | _ => simp

end Condition

namespace Row

/-- The row that is made of parameters in the order of the columns. -/
def ofParameters (parameters : List Value) : Row :=
  fun column => parameterAt parameters (Column.all.idxOf column + 1)

/-- The row after assignments. A column that is not assigned keeps its value. -/
def assigned (assignments : List Assignment) (scope : Scope) : Row := fun column =>
  match assignments.find? fun assignment => assignment.column = column with
  | some assignment => scope.value assignment.operand
  | none => scope.row column

end Row

/-- The columns that may be empty. -/
def Column.nullable : Column → Bool
  | .lastAttemptAt | .nextRetryAt | .completedAt | .actualPublishAt | .errorMessage | .claimedBy =>
    true
  | _ => false

/-- A number that is not negative. -/
def Value.isNatural : Value → Bool
  | .integer number => decide (0 ≤ number)
  | _ => false

/-- What the checks of the schema ask of a row. -/
def Row.passesChecks (row : Row) : Bool :=
  (JobStatus.all.any fun status => row .status = .text status.text) &&
    (row .attempts).isNatural &&
    (row .status = .text JobStatus.running.text) == (row .claimedBy ≠ .null) &&
    (row .status ≠ .text JobStatus.retryWait.text || row .nextRetryAt ≠ .null)

/-- Why the schema has no place for a row, whatever the other rows are. -/
def Row.violation? (row : Row) : Option Failure :=
  if Column.all.any fun column => !column.nullable && row column == .null then
    some (.database "23502" "null value violates not-null constraint")
  else if row.passesChecks then none
  else some (.database "23514" "new row violates check constraint")

/-- The rows of a table. -/
abbrev Rows : Type := List Row

/-- No two rows have the same name, and no two the same intent. -/
def Rows.Distinct (table : Rows) : Prop :=
  (table.map fun row => row .id).Nodup ∧
    (table.map fun row => (row .content, row .publishAt)).Nodup

instance (table : Rows) : Decidable table.Distinct := inferInstanceAs (Decidable (_ ∧ _))

/-- Put a changed table in place of the former one, if the schema allows it, and return the rows
that were written. A statement here writes one row at most, so it makes no difference whether the
rows are compared while it runs or in the end. -/
def Rows.commit (table changed written : Rows) : Reply × Rows :=
  match written.findSome? Row.violation? with
  | some cause => (.failure cause, table)
  | none =>
    if changed.Distinct then (.rows written, changed)
    else
      (.failure (.database uniqueViolation "duplicate key value violates unique constraint"), table)

/-- Rows are listed by publish time and then by name. -/
def Row.precedes (left right : Row) : Bool :=
  match left .publishAt, right .publishAt, left .id, right .id with
  | .time earlier, .time later, .uuid first, .uuid second =>
    decide (earlier < later) || (decide (earlier = later) && first.precedes second)
  | _, _, _, _ => true

/-- The rows up to the limit that a parameter gives; an empty one is no limit. -/
def Rows.limited (table : Rows) (parameters : List Value) (limit : Option Nat) : Rows :=
  match limit.map (parameterAt parameters) with
  | some (.integer number) => table.take number.toNat
  | _ => table

/-- The number of rows with each status. -/
def Rows.countsByStatus (table : Rows) : List StatusCount :=
  (table.map fun row => row .status).dedup.map fun status =>
    ⟨status, .integer (table.countP fun row => row .status = status)⟩

/-- Run a statement on a table. -/
def Rows.run (table : Rows) (parameters : List Value) : Statement → Reply × Rows
  | .insert assignments condition =>
    let proposed := Row.ofParameters parameters
    match proposed.violation?, table.find? fun row => row .id = proposed .id with
    | some cause, _ => (.failure cause, table)
    | none, none => table.commit (proposed :: table) [proposed]
    | none, some stored =>
      let scope := ⟨stored, some proposed, parameters⟩
      if condition.Holds scope then
        let changed := Row.assigned assignments scope
        let replaced := table.map fun row => if row .id = proposed .id then changed else row
        table.commit replaced [changed]
      else (.rows [], table)
  | .update assignments condition =>
    let selected (row : Row) : Bool := decide (condition.Holds ⟨row, none, parameters⟩)
    let change (row : Row) : Row := Row.assigned assignments ⟨row, none, parameters⟩
    table.commit (table.map fun row => if selected row then change row else row)
      ((table.filter selected).map change)
  | .delete condition =>
    let selected (row : Row) : Bool := decide (condition.Holds ⟨row, none, parameters⟩)
    (.affected (table.countP selected), table.filter fun row => !selected row)
  | .select condition =>
    (.rows (table.filter fun row => condition.Holds ⟨row, none, parameters⟩), table)
  | .selectInOrder condition limit =>
    let selected := table.filter fun row => condition.Holds ⟨row, none, parameters⟩
    (.rows (Rows.limited (selected.mergeSort Row.precedes) parameters limit), table)
  | .countByStatus => (.counts table.countsByStatus, table)

/-- The first instant that the database has: the start of its Julian calendar, 2451545 days before
the year 2000. -/
def earliestKept : Int := epochNanos - 2451545 * 86400 * nanosPerSecond

/-- Why the database does not take a parameter: a text with the character zero, or an instant before
its calendar. -/
def Value.refusal? : Value → Option Failure
  | .text words =>
    if words.toList.contains '\x00' then
      some (.database "22021" "invalid byte sequence for encoding \"UTF8\": 0x00")
    else none
  | .time instant =>
    if instant.nanos < earliestKept then some (.database "22008" "timestamp out of range")
    else none
  | _ => none

/-- Send a statement with its parameters to the database. -/
def Rows.send (table : Rows) (query : Query) : Reply × Rows :=
  let sent := query.parameters.map Value.sent
  match sent.findSome? Value.refusal? with
  | some cause => (.failure cause, table)
  | none => table.run sent query.statement

/-- Make a request to the store in the database. -/
def Rows.request (table : Rows) (call : StoreCall) : call.Reply × Rows :=
  match query call with
  | .error cause => (.error cause, table)
  | .ok query =>
    let (reply, after) := table.send query
    (interpret call reply, after)

end TimedPublishing.Postgres
