import TimedPublishing.Calendar.Instant
import TimedPublishing.Text.Number

/-!
# The written form of an instant

An instant is written as a date and a time of day of the proleptic Gregorian calendar in
UTC. The date of a day is found by counting in cycles of 400 years, which all have 146097
days, from a year that begins in March, so that the leap day is the last of its year.

A year of four digits is written plainly; any other carries its sign. A fraction of a
second is written with as few groups of three digits as show it exactly, and not at all
when there is none.
-/

namespace TimedPublishing

/-- A day of the proleptic Gregorian calendar; the year 0 precedes the year 1. -/
structure Date where
  year : Int
  month : Nat
  day : Nat
deriving DecidableEq, Repr

namespace Date

/-- Days from the first of March of the year 0 to the start of 1970. -/
def daysToEpoch : Int := 719468

/-- Days of a cycle of 400 years. -/
def daysPerCycle : Int := 146097

/-- The date a number of days after the first of January 1970. The day of the cycle
gives the year within it by taking out the leap days so far; the remaining days fall into
months of 153 days in five, counted from March. -/
def ofDays (days : Int) : Date :=
  let shifted := days + daysToEpoch
  let cycle := shifted / daysPerCycle
  let dayOfCycle := (shifted % daysPerCycle).toNat
  let yearOfCycle :=
    (dayOfCycle - dayOfCycle / 1460 + dayOfCycle / 36524 - dayOfCycle / 146096) / 365
  let dayOfYear := dayOfCycle - (365 * yearOfCycle + yearOfCycle / 4 - yearOfCycle / 100)
  let marchMonth := (5 * dayOfYear + 2) / 153
  let day := dayOfYear - (153 * marchMonth + 2) / 5 + 1
  let month := if marchMonth < 10 then marchMonth + 3 else marchMonth - 9
  let year := cycle * 400 + yearOfCycle + (if month ≤ 2 then 1 else 0)
  ⟨year, month, day⟩

/-- A year of four digits stands plainly, any other with its sign and at least four. -/
def yearText (year : Int) : String :=
  if 0 ≤ year ∧ year ≤ 9999 then Text.padded 4 year.toNat
  else if year < 0 then "-" ++ Text.padded 4 year.natAbs
  else "+" ++ Text.padded 4 year.toNat

/-- Year, month and day, joined by hyphens. -/
def text (date : Date) : String :=
  yearText date.year ++ "-" ++ Text.padded 2 date.month ++ "-" ++ Text.padded 2 date.day

end Date

namespace Instant

/-- A fraction of a second in three, six or nine digits, the fewest that are exact. -/
def fractionText (nanos : Nat) : String :=
  if nanos = 0 then ""
  else if nanos % 1000000 = 0 then "." ++ Text.padded 3 (nanos / 1000000)
  else if nanos % 1000 = 0 then "." ++ Text.padded 6 (nanos / 1000)
  else "." ++ Text.padded 9 nanos

/-- The written form of an instant. -/
def text (instant : Instant) : String :=
  let date := Date.ofDays (instant.seconds / 86400)
  let second := (instant.seconds % 86400).toNat
  let clock := Text.padded 2 (second / 3600) ++ ":" ++ Text.padded 2 (second / 60 % 60) ++ ":" ++
    Text.padded 2 (second % 60)
  date.text ++ " " ++ clock ++ fractionText instant.subsecond.toNat ++ " UTC"

end Instant

end TimedPublishing
