import Outbox.Time.Span

/-!
# Instants

A reading of the clock: seconds since 1970-01-01T00:00:00Z and nanoseconds. During a leap second
the nanoseconds run on from one thousand million to two thousand million, and the seconds stand
at the last second of the minute. The calendar of instants ends at the years -262143 and 262142.

A leap second is counted in a difference only when one of the readings lies in it.

* `nanos_clockReading_lt`  a clock that runs never shows a leap second
-/

namespace Outbox.Time

/-- The seconds of the first instant, at the start of the year -262143. -/
def Instant.leastSeconds : Int := -8334601228800

/-- The seconds of the last instant, at the end of the year 262142. -/
def Instant.greatestSeconds : Int := 8210266876799

/-- Nanoseconds in a second. -/
def nanosPerSecond : Nat := 1000000000

/-- A reading of the clock. -/
structure Instant where
  /-- Whole seconds since 1970-01-01T00:00:00Z. -/
  seconds : Int
  /-- Nanoseconds into the second, or into the leap second after it. -/
  nanos : Nat
  leastSeconds_le : Instant.leastSeconds ≤ seconds
  le_greatestSeconds : seconds ≤ Instant.greatestSeconds
  nanos_lt : nanos < 2 * nanosPerSecond
  leap_at_end : nanosPerSecond ≤ nanos → seconds % 60 = 59
deriving DecidableEq

namespace Instant

/-- Readings are equal when their parts are: the bounds are proofs. -/
@[ext] theorem ext {a b : Instant} (hs : a.seconds = b.seconds) (hn : a.nanos = b.nanos) :
    a = b := by
  cases a; cases b; simp_all

/-- The instant with the given parts, if there is one. -/
def ofParts? (seconds : Int) (nanos : Nat) : Option Instant :=
  if h : leastSeconds ≤ seconds ∧ seconds ≤ greatestSeconds ∧ nanos < 2 * nanosPerSecond ∧
      (nanosPerSecond ≤ nanos → seconds % 60 = 59) then
    some ⟨seconds, nanos, h.1, h.2.1, h.2.2.1, h.2.2.2⟩
  else none

/-- Every reading is the one with its parts. -/
@[simp] theorem ofParts?_self (t : Instant) : ofParts? t.seconds t.nanos = some t := by
  unfold ofParts?
  rw [dif_pos ⟨t.leastSeconds_le, t.le_greatestSeconds, t.nanos_lt, t.leap_at_end⟩]

/-- The instant `n` nanoseconds after 1970-01-01T00:00:00Z when no second is a leap second, or
the nearest end of the calendar. -/
def ofNanos (n : Int) : Instant where
  seconds := max leastSeconds (min greatestSeconds (n / nanosPerSecond))
  nanos := (n % nanosPerSecond).toNat
  leastSeconds_le := by omega
  le_greatestSeconds := by
    have : leastSeconds ≤ greatestSeconds := by decide
    omega
  nanos_lt := by simp only [nanosPerSecond]; omega
  leap_at_end := by simp only [nanosPerSecond]; omega

/-- The start of 1970. -/
def epoch : Instant := ofNanos 0

instance : Inhabited Instant := ⟨epoch⟩

/-- Seconds since the last midnight. -/
def secondOfDay (t : Instant) : Int := t.seconds % 86400

/-- Nanoseconds since 1970 when no second is a leap second. -/
def toNanos (t : Instant) : Int := t.seconds * nanosPerSecond + t.nanos

/-- The leap second to add to the difference of two readings: whole seconds are compared by time
of day, so a leap second counts only between readings of one day. -/
def leapBetween (later earlier : Instant) : Int :=
  if earlier.secondOfDay < later.secondOfDay ∧ nanosPerSecond ≤ earlier.nanos then 1
  else if later.secondOfDay < earlier.secondOfDay ∧ nanosPerSecond ≤ later.nanos then -1
  else 0

/-- A difference never counts more than one leap second. -/
theorem leapBetween_le (later earlier : Instant) : leapBetween later earlier ≤ 1 := by
  unfold leapBetween
  split
  · decide
  · split <;> decide

/-- Nanoseconds from the second reading to the first. -/
def since (later earlier : Instant) : Int :=
  later.toNanos - earlier.toNanos + leapBetween later earlier * nanosPerSecond

/-- What a clock set to `t` reads `n` nanoseconds later. Clocks know no leap seconds: one that is
set inside a leap second reads the second after it at once. -/
def clockReading (t : Instant) (n : Int) : Instant := ofNanos (t.toNanos + n)

/-- A clock never shows a leap second. -/
theorem nanos_clockReading_lt (t : Instant) (n : Int) :
    (t.clockReading n).nanos < nanosPerSecond := by
  simp only [clockReading, ofNanos, nanosPerSecond]
  omega

end Instant

end Outbox.Time
