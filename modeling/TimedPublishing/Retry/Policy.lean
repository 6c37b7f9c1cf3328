import TimedPublishing.Job.Basic

/-!
# Retry delays

A policy is a table of delays and a budget of attempts. After the `n`-th failed attempt
the `n`-th delay applies, counting from one; past the end of the table its last entry
applies on and on. The table is used as it is given and need not rise. No retry follows
once the budget is spent, or when its time would lie past the end of the calendar.

The bounds on the table are part of the type, so no policy can index outside its table or
hold a delay that the clock could not add.
-/

namespace TimedPublishing

/-- A table of delays in seconds and a budget of attempts. -/
structure RetryPolicy where
  delays : List Nat
  budget : Attempts
  nonempty : delays ≠ []
  bounded : ∀ delay ∈ delays, delay ≤ longestDelay

namespace RetryPolicy

/-- The delays of a policy that is given none. -/
def standardDelays : List Nat := [5, 15, 60, 300, 900, 1800]

/-- The budget of a policy that is given none. -/
def standardBudget : Attempts := ⟨5, by decide⟩

/-- The policy in force when nothing is configured. -/
def standard : RetryPolicy := ⟨standardDelays, standardBudget, by decide, by decide⟩

/-- Check a table. Its first entry that is too long is reported. -/
def create (delays : List Nat) (budget : Attempts) : Except JobError RetryPolicy :=
  if nonempty : delays ≠ [] then
    match found : delays.find? (fun delay => longestDelay < delay) with
    | some delay => .error (.validation (.delayTooLong delay))
    | none =>
      .ok ⟨delays, budget, nonempty, fun delay member => by
        have within := List.find?_eq_none.mp found delay member
        simpa using within⟩
  else .error (.validation .emptyBackoff)

/-- The position in the table that applies after a number of failed attempts. -/
def position (policy : RetryPolicy) (failures : Nat) : Nat :=
  min (failures - 1) (policy.delays.length - 1)

/-- The position is one of the table. -/
theorem position_lt (policy : RetryPolicy) (failures : Nat) :
    policy.position failures < policy.delays.length := by
  have positive : 0 < policy.delays.length := List.length_pos_iff.mpr policy.nonempty
  unfold position
  omega

/-- The delay in seconds after a number of failed attempts. -/
def delayAfter (policy : RetryPolicy) (failures : Nat) : Nat :=
  policy.delays.get ⟨policy.position failures, policy.position_lt failures⟩

/-- The instant of the next attempt after a number of failed ones, the last of which
ended now. -/
def nextRetry (policy : RetryPolicy) (failures : Attempts) (now : Instant) : Option Instant :=
  if policy.budget.count ≤ failures.count then none
  else now.add? (.ofSeconds (policy.delayAfter failures.count))

end RetryPolicy

end TimedPublishing
