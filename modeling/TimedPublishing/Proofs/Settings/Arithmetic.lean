import TimedPublishing.Proofs.Outcomes
import TimedPublishing.Schedule.Settings

/-!
# The time arithmetic of accepted settings

Settings are numbers in fields of 64 and 32 bits that may hold anything. Between them and the clock
stand signed words, lengths of time with a range of their own, a table that could be empty, and a
calendar with two ends. The computations in `Words` go through all of these and fail wherever one of
them gives out.

The checks on the settings stand far from the arithmetic, and they are enough for it. Where settings
are accepted, no computation in words fails, and each gives the exact result in integers: an instant
is later than the present less the grace, also where that lies before the start of the calendar; and
the next attempt follows the entry of the table for the count of failures, as long as the budget and
the calendar last.
-/

namespace TimedPublishing

namespace Words

/-- The most seconds that a length of time can have, so that its milliseconds fit a signed word. -/
def mostSeconds : Int := 9223372036854775

/-- The length of time of a signed word of seconds, unless it is out of range. -/
def duration? (seconds : Int64) : Option Duration :=
  if -mostSeconds ≤ seconds.toInt ∧ seconds.toInt ≤ mostSeconds then
    some (.ofSeconds seconds.toInt)
  else none

/-- The grace of a word of seconds, which is taken for a signed one. -/
def grace? (seconds : UInt64) : Option Duration := duration? seconds.toInt64

/-- The last position of a table. For an empty one its length less one is no position. -/
def lastPosition? (table : List UInt64) : Option Nat :=
  if table.isEmpty then none else some (table.length - 1)

/-- The delay after a number of failed attempts. Nothing is read at a position outside the table. -/
def delay? (table : List UInt64) (failures : UInt32) : Option Duration := do
  let last ← lastPosition? table
  let entry ← table[min (failures.toNat - 1) last]?
  duration? entry.toInt64

/-- The instant of the next attempt, if there is one, unless the computation fails. -/
def nextRetry? (table : List UInt64) (budget failures : UInt32) (now : Instant) :
    Option (Option Instant) :=
  if budget ≤ failures then some none else (delay? table failures).map now.add?

/-- A delay that is accepted is the same number as a signed word, and well within the range. -/
theorem duration?_of_le {seconds : Nat} (fits : seconds ≤ longestDelay) :
    duration? (UInt64.ofNat seconds).toInt64 = some (.ofSeconds seconds) := by
  have small : seconds ≤ 3153600000 := fits
  have exact : (UInt64.ofNat seconds).toInt64.toInt = seconds := by
    rw [UInt64.toInt64_ofNat', Int64.toInt_ofNat_of_lt (by omega)]
  have inRange : -mostSeconds ≤ (seconds : Int) ∧ (seconds : Int) ≤ mostSeconds := by
    unfold mostSeconds
    omega
  rw [duration?, exact, if_pos inRange]

/-- A count of attempts is the same number as a word. -/
theorem toNat_count (attempts : Attempts) : (UInt32.ofNat attempts.count).toNat = attempts.count :=
  UInt32.toNat_ofNat_of_lt' (Nat.lt_succ_of_le attempts.inRange)

end Words

/-- A grace that is not negative is counted back exactly, also past the start of the calendar, where
every instant is later. -/
theorem Instant.isFuture_iff {grace : Duration} (back : 0 ≤ grace.nanos) (instant now : Instant) :
    instant.isFuture grace now = true ↔ now.nanos - grace.nanos < instant.nanos := by
  unfold isFuture
  cases reached : now.sub? grace with
  | some floor =>
    have exact : floor.nanos = now.nanos - grace.nanos := (ofNanos?_eq_some_iff _ _).mp reached
    rw [decide_eq_true_iff, ← exact]
    exact Iff.rfl
  | none =>
    have outside : ¬ (earliestNanos ≤ now.nanos - grace.nanos ∧
        now.nanos - grace.nanos ≤ latestNanos) := by
      intro inside
      simp [sub?, ofNanos?, inside] at reached
    have inCalendar := now.inCalendar
    have possible := instant.inCalendar
    constructor
    · intro _
      omega
    · exact fun _ => rfl

/-- A sum leaves the calendar exactly if the calendar does not hold its count. -/
theorem Instant.add?_eq_none_iff (instant : Instant) (duration : Duration) :
    instant.add? duration = none ↔
      ¬ (earliestNanos ≤ instant.nanos + duration.nanos ∧
        instant.nanos + duration.nanos ≤ latestNanos) := by
  unfold add? ofNanos?
  split <;> simp_all

namespace RetryPolicy

variable {policy : RetryPolicy} {failures : Attempts} {now later : Instant}

/-- The delay after a number of failed attempts is the entry of the table for it, the last entry
from the end of the table on. -/
theorem getElem?_delays (policy : RetryPolicy) (failures : Nat) :
    policy.delays[min (failures - 1) (policy.delays.length - 1)]? =
      some (policy.delayAfter failures) :=
  List.getElem?_eq_getElem (policy.position_lt failures)

/-- The next attempt follows the delay for the count of failures, while the budget lasts. -/
theorem nextRetry_eq_some_iff :
    policy.nextRetry failures now = some later ↔
      failures.count < policy.budget.count ∧
        later.nanos = now.nanos + policy.delayAfter failures.count * nanosPerSecond := by
  unfold nextRetry
  split
  · next spent => simp [Nat.not_lt_of_le spent]
  · next left =>
    rw [Instant.add?_eq_some_iff, and_iff_right (Nat.lt_of_not_le left)]
    exact Iff.rfl

/-- No attempt follows once the budget is spent, or where it would lie outside the calendar. -/
theorem nextRetry_eq_none_iff :
    policy.nextRetry failures now = none ↔
      policy.budget.count ≤ failures.count ∨
        ¬ (earliestNanos ≤ now.nanos + policy.delayAfter failures.count * nanosPerSecond ∧
          now.nanos + policy.delayAfter failures.count * nanosPerSecond ≤ latestNanos) := by
  unfold nextRetry
  split
  · next spent => exact iff_of_true rfl (Or.inl spent)
  · next left =>
    rw [Instant.add?_eq_none_iff, or_iff_right left]
    exact Iff.rfl

/-- In words the next attempt is computed without a fault, and it is the same. -/
theorem nextRetry?_eq (policy : RetryPolicy) (failures : Attempts) (now : Instant) :
    Words.nextRetry? (policy.delays.map .ofNat) (.ofNat policy.budget.count)
      (.ofNat failures.count) now = some (policy.nextRetry failures now) := by
  have delayed : Words.delay? (policy.delays.map .ofNat) (.ofNat failures.count) =
      some (.ofSeconds (policy.delayAfter failures.count)) := by
    have last : Words.lastPosition? (policy.delays.map .ofNat) = some (policy.delays.length - 1) := by
      simp [Words.lastPosition?, policy.nonempty]
    have entry := policy.getElem?_delays failures.count
    have fits : policy.delayAfter failures.count ≤ longestDelay :=
      policy.bounded _ (List.mem_of_getElem? entry)
    simp only [Words.delay?, last, Option.bind_eq_bind, Option.bind_some, Words.toNat_count,
      List.getElem?_map, entry, Option.map_some]
    exact Words.duration?_of_le fits
  have sameOrder : UInt32.ofNat policy.budget.count ≤ UInt32.ofNat failures.count ↔
      policy.budget.count ≤ failures.count := by
    rw [UInt32.le_iff_toNat_le, Words.toNat_count, Words.toNat_count]
  unfold Words.nextRetry? nextRetry
  rw [delayed]
  by_cases spent : policy.budget.count ≤ failures.count
  · rw [if_pos (sameOrder.mpr spent), if_pos spent]
  · rw [if_neg (mt sameOrder.mp spent), if_neg spent]
    rfl

end RetryPolicy

namespace SchedulerSettings

variable {settings : SchedulerSettings}

/-- Settings give the policy with their table and budget. That there is such a policy at all is what
is checked of the table. -/
theorem policy_eq_ok {policy : RetryPolicy} :
    settings.policy = .ok policy ↔
      policy.delays = settings.backoffSeconds ∧ policy.budget = settings.maxAttempts := by
  obtain ⟨delays, budget, nonempty, bounded⟩ := policy
  unfold SchedulerSettings.policy RetryPolicy.create
  constructor
  · intro created
    split at created
    · split at created
      · cases created
      · cases created
        exact ⟨rfl, rfl⟩
    · cases created
  · rintro ⟨rfl, rfl⟩
    rw [dif_pos nonempty]
    split
    · next delay found =>
      have exceeds : longestDelay < delay := by simpa using List.find?_some found
      have fits := bounded delay (List.mem_of_find?_eq_some found)
      exact absurd fits (Nat.not_le_of_lt exceeds)
    · rfl

/-- A retry table is accepted exactly when it is not empty and no delay in it is too long. -/
theorem exists_policy_iff :
    (∃ policy, settings.policy = .ok policy) ↔
      settings.backoffSeconds ≠ [] ∧ ∀ delay ∈ settings.backoffSeconds, delay ≤ longestDelay := by
  constructor
  · rintro ⟨policy, created⟩
    obtain ⟨sameDelays, _⟩ := policy_eq_ok.mp created
    exact sameDelays ▸ ⟨policy.nonempty, policy.bounded⟩
  · rintro ⟨nonempty, bounded⟩
    exact ⟨⟨settings.backoffSeconds, settings.maxAttempts, nonempty, bounded⟩,
      policy_eq_ok.mpr ⟨rfl, rfl⟩⟩

/-- A grace is accepted exactly when it is not too long, as the length of its seconds. -/
theorem grace_eq_ok {grace : Duration} :
    settings.grace = .ok grace ↔
      settings.graceSeconds ≤ longestDelay ∧ grace = .ofSeconds settings.graceSeconds := by
  unfold SchedulerSettings.grace
  split
  · next exceeds => simp [Nat.not_le_of_lt exceeds]
  · next fits => simp [Nat.le_of_not_lt fits, eq_comm]

end SchedulerSettings

namespace Scheduler

/-- A scheduler that is built from settings has their policy and their grace. -/
theorem create_eq_ok {settings : SchedulerSettings} {scheduler : Scheduler} :
    create settings = .ok scheduler ↔
      settings.policy = .ok scheduler.policy ∧ settings.grace = .ok scheduler.grace := by
  unfold create
  constructor
  · intro created
    obtain ⟨policy, checked, rest⟩ := bind_eq_ok.mp created
    obtain ⟨grace, checkedGrace, last⟩ := bind_eq_ok.mp rest
    cases last
    exact ⟨checked, checkedGrace⟩
  · rintro ⟨checked, checkedGrace⟩
    exact bind_eq_ok.mpr ⟨_, checked, bind_eq_ok.mpr ⟨_, checkedGrace, rfl⟩⟩

/-- Settings are accepted exactly if their table is not empty and neither an entry of it nor the
grace is too long. The scheduler that is built from them computes with time exactly, as integers do:

* an instant lies in the future if with the grace it is later than the present, wherever in the
  calendar the two are;
* the next attempt follows the entry of the table for the count of failures, the first one for none
  and the last one from the end of the table on, as long as the budget lasts and the calendar holds
  the sum; otherwise there is none;
* and the computation of both in words comes to its end with the same results.

Proof: the checks give the fields of the scheduler back as those of the settings. The grace is not
negative, so counting it back is exact; the table has the entry by the type of the policy; and all
numbers are far from the ends of the words that they pass through. -/
theorem arithmetic_exact (settings : SchedulerSettings) :
    ((∃ scheduler, create settings = .ok scheduler) ↔
      settings.backoffSeconds ≠ [] ∧
        (∀ delay ∈ settings.backoffSeconds, delay ≤ longestDelay) ∧
        settings.graceSeconds ≤ longestDelay) ∧
    ∀ scheduler, create settings = .ok scheduler →
      (∀ instant now : Instant, instant.isFuture scheduler.grace now = true ↔
        now.nanos < instant.nanos + settings.graceSeconds * nanosPerSecond) ∧
      (∀ failures : Attempts, ∃ delay : Nat,
        settings.backoffSeconds[min (failures.count - 1) (settings.backoffSeconds.length - 1)]? =
          some delay ∧
        ∀ now,
          (∀ later, scheduler.policy.nextRetry failures now = some later ↔
            failures.count < settings.maxAttempts.count ∧
              later.nanos = now.nanos + delay * nanosPerSecond) ∧
          (scheduler.policy.nextRetry failures now = none ↔
            settings.maxAttempts.count ≤ failures.count ∨
              ¬ (earliestNanos ≤ now.nanos + delay * nanosPerSecond ∧
                now.nanos + delay * nanosPerSecond ≤ latestNanos))) ∧
      Words.grace? (.ofNat settings.graceSeconds) = some scheduler.grace ∧
      ∀ (failures : Attempts) (now : Instant),
        Words.nextRetry? (settings.backoffSeconds.map .ofNat)
          (.ofNat settings.maxAttempts.count) (.ofNat failures.count) now =
          some (scheduler.policy.nextRetry failures now) := by
  constructor
  · constructor
    · rintro ⟨scheduler, created⟩
      obtain ⟨checked, checkedGrace⟩ := create_eq_ok.mp created
      obtain ⟨nonempty, bounded⟩ := SchedulerSettings.exists_policy_iff.mp ⟨_, checked⟩
      exact ⟨nonempty, bounded, (SchedulerSettings.grace_eq_ok.mp checkedGrace).1⟩
    · rintro ⟨nonempty, bounded, fits⟩
      obtain ⟨policy, checked⟩ := SchedulerSettings.exists_policy_iff.mpr ⟨nonempty, bounded⟩
      exact ⟨⟨policy, _⟩,
        create_eq_ok.mpr ⟨checked, SchedulerSettings.grace_eq_ok.mpr ⟨fits, rfl⟩⟩⟩
  · intro scheduler created
    obtain ⟨checked, checkedGrace⟩ := create_eq_ok.mp created
    obtain ⟨sameDelays, sameBudget⟩ := SchedulerSettings.policy_eq_ok.mp checked
    obtain ⟨fits, sameGrace⟩ := SchedulerSettings.grace_eq_ok.mp checkedGrace
    rw [← sameDelays, ← sameBudget]
    refine ⟨fun instant now => ?_, fun failures => ⟨scheduler.policy.delayAfter failures.count,
      scheduler.policy.getElem?_delays failures.count, fun now =>
        ⟨fun later => RetryPolicy.nextRetry_eq_some_iff, RetryPolicy.nextRetry_eq_none_iff⟩⟩,
      ?_, scheduler.policy.nextRetry?_eq⟩
    · have length : scheduler.grace.nanos = settings.graceSeconds * nanosPerSecond := by
        rw [sameGrace]
        rfl
      have back : 0 ≤ scheduler.grace.nanos := by
        unfold nanosPerSecond at length
        omega
      rw [instant.isFuture_iff back, length]
      omega
    · rw [sameGrace]
      exact Words.duration?_of_le fits

/-- With a grace of a minute, the first instant of the calendar is still in the future when it is the
present. No attempt follows at the last instant, although the budget is not spent, and none once it
is. -/
theorem arithmetic_exact_at_ends :
    let settings : SchedulerSettings := ⟨60, [5, 15], ⟨3, by decide⟩⟩
    ∃ scheduler, create settings = .ok scheduler ∧
      Instant.earliest.isFuture scheduler.grace .earliest = true ∧
      scheduler.policy.nextRetry ⟨2, by decide⟩ .latest = none ∧
      scheduler.policy.nextRetry ⟨3, by decide⟩ .epoch = none ∧
      Words.nextRetry? [5, 15] 3 2 .latest = some none := by
  intro settings
  obtain ⟨scheduler, created⟩ := (arithmetic_exact settings).1.mpr (by decide)
  obtain ⟨future, retries, _, words⟩ := (arithmetic_exact settings).2 scheduler created
  obtain ⟨delay, entry, follows⟩ := retries ⟨2, by decide⟩
  obtain rfl : 15 = delay := Option.some.inj entry
  obtain ⟨_, _, spent⟩ := retries ⟨3, by decide⟩
  have last : scheduler.policy.nextRetry ⟨2, by decide⟩ .latest = none :=
    (follows .latest).2.mpr (Or.inr (by decide))
  exact ⟨scheduler, created, (future .earliest .earliest).mpr (by decide), last,
    (spent .epoch).2.mpr (Or.inl (by decide)), (words ⟨2, by decide⟩ .latest).trans (by rw [last])⟩

end Scheduler

end TimedPublishing
