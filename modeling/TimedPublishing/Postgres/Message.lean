import TimedPublishing.Postgres.Query
import TimedPublishing.Postgres.Schema

/-!
# What is sent to the database

A message is the text of a statement with the values of its parameters. The database
counts time in whole microseconds from the start of the year 2000, so an instant between
two of them is sent as the one that lies nearer to that year.
-/

namespace TimedPublishing.Postgres

/-- The start of the year 2000, from which the database counts time. -/
def epochNanos : Int := 946684800 * nanosPerSecond

/-- Nanoseconds in one microsecond. -/
def nanosPerMicrosecond : Int := 1000

/-- An instant as the database has it: in whole microseconds, cut off toward the year
2000. -/
def inMicroseconds (instant : Instant) : Instant :=
  let micros := (instant.nanos - epochNanos).tdiv nanosPerMicrosecond
  (Instant.ofNanos? (epochNanos + micros * nanosPerMicrosecond)).getD instant

/-- A value as it is sent. -/
def Value.sent : Value → Value
  | .time instant => .time (inMicroseconds instant)
  | other => other

/-- A statement as it is sent, with the values of its parameters. -/
structure Message where
  text : String
  parameters : List Value
deriving DecidableEq, Repr

namespace Message

/-- A query as it is sent. -/
def ofQuery (query : Query) : Message := ⟨query.statement.text, query.parameters.map Value.sent⟩

/-- The script that makes the table. It has no parameters. -/
def ofSchema : Message := ⟨schema, []⟩

end Message

end TimedPublishing.Postgres
