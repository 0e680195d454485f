/-!
# Sleeping in virtual time

Simulations and journals run in a virtual time of their own. Who sleeps there for a time is woken
up when the time has run, and after thirty years at the latest, since the timers reach no further.
A wait for a message has no such end: a receiver that is woken up early looks again and goes back
to waiting. Sessions, workers and their transport know nothing of this limit.

* `sleepTime_eq_self_iff`  up to thirty years a sleep is as long as was asked
-/

namespace Outbox.Time

/-- The longest sleep, in nanoseconds: thirty years of 365 days. -/
def longestSleep : Nat := 30 * 365 * 86400 * 1000000000

/-- How long a sleep lasts for which `n` nanoseconds were asked. -/
def sleepTime (n : Nat) : Nat := min n longestSleep

/-- A sleep lasts as long as was asked unless that is beyond the longest one. -/
theorem sleepTime_eq_self_iff {n : Nat} : sleepTime n = n ↔ n ≤ longestSleep := by
  unfold sleepTime
  omega

end Outbox.Time
