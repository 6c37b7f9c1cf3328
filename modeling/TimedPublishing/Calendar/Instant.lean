/-!
# Instants and lengths of time

An instant is a count of nanoseconds since the start of 1970 in UTC, confined to the
calendar: the years -262143 to 262142 of the proleptic Gregorian calendar, whole. A
duration is a signed count of nanoseconds without a bound. Adding one to the other is
exact integer arithmetic and fails exactly when the sum leaves the calendar, so nothing
here wraps or rounds. A delay is a length of time that is never negative.
-/

namespace TimedPublishing

/-- Nanoseconds in one second. -/
def nanosPerSecond : Int := 1000000000

/-- A signed length of time in nanoseconds. -/
structure Duration where
  nanos : Int
deriving DecidableEq, Repr

namespace Duration

/-- A duration of whole seconds. -/
def ofSeconds (seconds : Int) : Duration := ⟨seconds * nanosPerSecond⟩

/-- The duration of `seconds` whole seconds and `nanos` more nanoseconds. -/
def ofParts (seconds nanos : Int) : Duration := ⟨seconds * nanosPerSecond + nanos⟩

/-- The whole seconds of a duration, toward zero. -/
def wholeSeconds (duration : Duration) : Int := duration.nanos.tdiv nanosPerSecond

/-- The nanoseconds beside the whole seconds, of the same sign. -/
def subsecond (duration : Duration) : Int := duration.nanos.tmod nanosPerSecond

end Duration

/-- A length of time to let pass, in nanoseconds. -/
structure Delay where
  nanos : Nat
deriving DecidableEq, Repr

namespace Delay

/-- A delay of whole milliseconds. -/
def ofMillis (millis : Nat) : Delay := ⟨millis * 1000000⟩

/-- The whole milliseconds of a delay. -/
def millis (delay : Delay) : Nat := delay.nanos / 1000000

/-- A delay of whole seconds and a count of nanoseconds, which may exceed a second. -/
def ofParts (seconds nanos : Nat) : Delay := ⟨seconds * 1000000000 + nanos⟩

/-- The whole seconds of a delay. -/
def seconds (delay : Delay) : Nat := delay.nanos / 1000000000

/-- The nanoseconds beside the whole seconds. -/
def subsecond (delay : Delay) : Nat := delay.nanos % 1000000000

end Delay

/-- The first instant of the calendar: the start of the year -262143. -/
def earliestNanos : Int := -8334601228800 * nanosPerSecond

/-- The last instant of the calendar: the last nanosecond of the year 262142. -/
def latestNanos : Int := 8210266876799 * nanosPerSecond + 999999999

/-- A point in time within the calendar, in nanoseconds since the start of 1970. -/
structure Instant where
  nanos : Int
  inCalendar : earliestNanos ≤ nanos ∧ nanos ≤ latestNanos
deriving DecidableEq, Repr

namespace Instant

instance : LE Instant := ⟨fun left right => left.nanos ≤ right.nanos⟩
instance : LT Instant := ⟨fun left right => left.nanos < right.nanos⟩

instance (left right : Instant) : Decidable (left ≤ right) :=
  inferInstanceAs (Decidable (left.nanos ≤ right.nanos))

instance (left right : Instant) : Decidable (left < right) :=
  inferInstanceAs (Decidable (left.nanos < right.nanos))

/-- The start of 1970. -/
def epoch : Instant := ⟨0, by decide⟩

instance : Inhabited Instant := ⟨epoch⟩

/-- The first instant of the calendar. -/
def earliest : Instant := ⟨earliestNanos, by decide⟩

/-- The last instant of the calendar. -/
def latest : Instant := ⟨latestNanos, by decide⟩

/-- The instant at a count of nanoseconds, if the calendar holds it. -/
def ofNanos? (nanos : Int) : Option Instant :=
  if inCalendar : earliestNanos ≤ nanos ∧ nanos ≤ latestNanos then some ⟨nanos, inCalendar⟩
  else none

/-- The instant at whole seconds and a count of further nanoseconds. -/
def ofParts? (seconds nanos : Int) : Option Instant := ofNanos? (seconds * nanosPerSecond + nanos)

/-- The instant a duration later, or none past either end of the calendar. -/
def add? (instant : Instant) (duration : Duration) : Option Instant :=
  ofNanos? (instant.nanos + duration.nanos)

/-- The instant a duration earlier, or none past either end of the calendar. -/
def sub? (instant : Instant) (duration : Duration) : Option Instant :=
  ofNanos? (instant.nanos - duration.nanos)

/-- Whole seconds since the start of 1970, rounded down. -/
def seconds (instant : Instant) : Int := instant.nanos / nanosPerSecond

/-- Nanoseconds after the whole second, below one second. -/
def subsecond (instant : Instant) : Int := instant.nanos % nanosPerSecond

/-- Two instants with the same count are the same. -/
theorem eq_of_nanos {left right : Instant} (same : left.nanos = right.nanos) : left = right := by
  cases left
  cases right
  cases same
  rfl

/-- An instant is found at its own count. -/
theorem ofNanos?_nanos (instant : Instant) : ofNanos? instant.nanos = some instant := by
  simp [ofNanos?, instant.inCalendar]

/-- Looking up a count succeeds exactly within the calendar, with that count. -/
theorem ofNanos?_eq_some_iff (nanos : Int) (instant : Instant) :
    ofNanos? nanos = some instant ↔ instant.nanos = nanos := by
  constructor
  · intro found
    unfold ofNanos? at found
    split at found
    · exact (congrArg Instant.nanos (Option.some.inj found)).symm
    · cases found
  · rintro rfl
    exact ofNanos?_nanos instant

/-- A sum is the instant whose count is the exact sum. -/
theorem add?_eq_some_iff (instant later : Instant) (duration : Duration) :
    instant.add? duration = some later ↔ later.nanos = instant.nanos + duration.nanos :=
  ofNanos?_eq_some_iff _ later

end Instant

end TimedPublishing
