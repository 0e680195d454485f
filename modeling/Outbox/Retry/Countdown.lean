import Outbox.Time.Instant

/-!
# Countdowns

What a control message carries from one delivery to the next: how much of the commit budget is
left, how long the next delay may be, how often the message has been delivered and when it was
sent last. The budget shrinks by the time that has really passed; the delay doubles until the
budget caps it.

* `nanos_increment_next`  the next delay is `min (2 * increment) remaining`
-/

namespace Outbox

open Time

/-- What is left of the commit budget of a session, and how it is used up. -/
structure Countdown where
  sessionId : String
  attempt : UInt32
  remaining : Span
  increment : Span
  timeSent : Option Instant
deriving DecidableEq

namespace Countdown

/-- The countdown of the first control message of a session; durations are in nanoseconds, and
both must be spans. -/
def initial? (sessionId : String) (maximum increment : Nat) (timeSent : Option Instant) :
    Option Countdown := do
  let remaining ← Span.ofNanos? maximum
  let increment ← Span.ofNanos? increment
  some { sessionId, attempt := 1, remaining, increment, timeSent }

/-- Whether the commit budget is used up. -/
def isExhausted (c : Countdown) : Bool := decide (c.remaining ≤ Span.zero)

/-- A countdown goes on as long as something of its budget is left, be it a nanosecond. -/
theorem isExhausted_eq_false_iff (c : Countdown) :
    c.isExhausted = false ↔ 0 < c.remaining.nanos := by
  simp [isExhausted, Span.le_def]

/-- The attempt after this one; the greatest number stays. -/
def nextAttempt (attempt : UInt32) : UInt32 := if attempt = 0xFFFFFFFF then attempt else attempt + 1

/-- The delay after this one: twice as long, or all that is left of the budget. -/
def nextIncrement (c : Countdown) : Span :=
  Span.shorter ((c.increment.add? c.increment).getD Span.greatest) c.remaining

/-- Nanoseconds since the message was sent, none if the clock went backwards. A message that does
not say when it was sent is taken to have waited for its delay. -/
def elapsed (c : Countdown) (now : Instant) : Int :=
  match c.timeSent with
  | some sent => max (now.since sent) 0
  | none => c.increment.nanos

/-- What is left of the budget at a reading of the clock. -/
def nextRemaining (c : Countdown) (now : Instant) : Span :=
  (Span.ofNanos? (c.remaining.nanos - c.elapsed now)).getD Span.least

/-- The countdown of the successor sent at a reading of the clock. -/
def next (c : Countdown) (now : Instant) : Countdown where
  sessionId := c.sessionId
  attempt := nextAttempt c.attempt
  remaining := c.nextRemaining now
  increment := c.nextIncrement
  timeSent := some now

/-- The attempts count up to the greatest number and stay there. -/
theorem toNat_nextAttempt (a : UInt32) : (nextAttempt a).toNat = min (a.toNat + 1) 0xFFFFFFFF := by
  unfold nextAttempt
  split
  · next h => subst h; decide
  · next h =>
    -- below the greatest number the addition cannot wrap
    have hne : a.toNat ≠ 0xFFFFFFFF := fun e => h (UInt32.toNat_inj.1 e)
    have hlt := a.toNat_lt
    rw [UInt32.toNat_add]
    simp only [UInt32.reduceToNat]
    omega

/-- The saturated doubling never shows: the budget is shorter than the longest span. -/
theorem nanos_increment_next (c : Countdown) (now : Instant) (h : Span.zero ≤ c.increment) :
    (c.next now).increment.nanos = min (2 * c.increment.nanos) c.remaining.nanos := by
  have hr := c.remaining.le_limit
  have hi : 0 ≤ c.increment.nanos := h
  simp only [next, nextIncrement, Span.nanos_shorter, Span.add?]
  cases hd : Span.ofNanos? (c.increment.nanos + c.increment.nanos) with
  | some d =>
    rw [Span.ofNanos?_eq_some_iff] at hd
    -- the doubled delay is a span, so both sides take the minimum of the same numbers
    simp only [Option.getD_some, hd]
    omega
  | none =>
    rw [Span.ofNanos?_eq_none_iff] at hd
    -- doubling has left the range, so twice the delay is longer than any budget
    have hlim : (0 : Int) ≤ Span.limit := by decide
    simp only [Option.getD_none, Span.greatest]
    omega

end Countdown

end Outbox
