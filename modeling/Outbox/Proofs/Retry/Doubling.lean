import Mathlib.Tactic.Ring
import Outbox.Proofs.Retry.Chain

/-!
# How many successors there can be

When every message waits at least for its delay, the delays double until one is all that is left of
the budget. So the number of successors is logarithmic in the budget, and the chain comes to a
delivery that gives up.

* `Receiver.Chain.doubling`     what the delays so far leave of the budget
* `Receiver.Chain.logarithmic`  how many successors there are, and what comes after the last
-/

namespace Outbox

open Time

/-- A delay that was doubled unless the budget capped it: what its multiples say of it, they say of
the delay before. -/
theorem lt_of_doubled {i : Nat} {delay budget left : Int} (hbudget : 0 < budget)
    (hleft : left ≤ budget) (h : (2 ^ i - 1) * min (2 * delay) budget < left) :
    (2 ^ (i + 1) - 2) * delay < left := by
  -- the delay has doubled, and one multiple of it has been taken from what is left
  rcases le_total (2 * delay) budget with hle | hge
  · rw [min_eq_left hle] at h
    calc (2 ^ (i + 1) - 2) * delay = (2 ^ i - 1) * (2 * delay) := by ring
      _ < left := h
  · -- a delay that is all that was left has no further multiple within the budget
    rw [min_eq_right hge] at h
    cases i with
    | zero => simpa using h
    | succ i =>
      have hpow : (0 : Int) < 2 ^ i := Int.pow_pos (by decide)
      have hmultiple : 1 * budget ≤ (2 ^ (i + 1) - 1) * budget :=
        Int.mul_le_mul_of_nonneg_right (by rw [pow_succ]; omega) (Int.le_of_lt hbudget)
      omega

/-- Multiples of a delay that stay within the budget are no more than the budget has digits. -/
theorem le_log2_of_mul_lt {n : Nat} {delay budget : Int} (hdelay : 0 < delay)
    (hbudget : 0 < budget) (h : (2 ^ (n - 1) - 2) * delay < budget) :
    n ≤ Nat.log2 (budget.toNat + 1) + 1 := by
  -- below two there is nothing to show, and from two on the delay counts at least once
  have hpow : (2 : Int) ^ (n - 1) ≤ budget + 1 := by
    rcases Int.lt_or_le ((2 : Int) ^ (n - 1)) 2 with hlt | hge
    · omega
    · have hle : (2 ^ (n - 1) - 2) * 1 ≤ (2 ^ (n - 1) - 2) * delay :=
        Int.mul_le_mul_of_nonneg_left hdelay (by omega)
      omega
  have hnat : 2 ^ (n - 1) ≤ budget.toNat + 1 := by
    have hcast : ((2 ^ (n - 1) : Nat) : Int) = 2 ^ (n - 1) := by push_cast; rfl
    omega
  have hlog := (Nat.le_log2 (n := budget.toNat + 1) (by omega)).2 hnat
  omega

namespace Receiver

variable {p : Receiver} {sent : Nat → Shipment} {reading : Nat → Instant} {n : Nat}
  {c : Countdown} {least : Int}

/-- Every message that schedules another is delivered when its delay is over, or later. -/
def Waits (sent : Nat → Shipment) (reading : Nat → Instant) (n : Nat) : Prop :=
  ∀ j, j + 1 < n → ((sent (j + 1)).delay.getD 0 : Int) ≤ (reading (j + 1)).since (reading j)

/-- A message that has waited for its delay has lost it from its budget. -/
theorem Chain.remaining_le (h : p.Chain sent reading n)
    (hc : Countdown.Carried least (sent 0).message c)
    (hreading : ∀ j < n, (reading j).InWindow least ∧ (reading j).Regular)
    (hwaits : Waits sent reading n) (j : Nat) (hj : j + 1 < n) :
    (c.along reading (j + 1 + 1)).remaining.nanos ≤
      (c.along reading (j + 1)).remaining.nanos - (c.along reading (j + 1)).increment.nanos := by
  have hwindow : ∀ j < n, (reading j).InWindow least := fun j hj => (hreading j hj).1
  have hregular := (hreading j (by omega)).2
  have hlater := (hreading (j + 1) hj).2
  -- the time that counts runs from the last whole microsecond before the successor was sent
  have helapsed : (c.along reading (j + 1)).elapsed (reading (j + 1)) = _ :=
    Countdown.elapsed_of_timeSent rfl hregular.toMicros hlater
  have hmicros := Instant.toNanos_toMicros (reading j)
  have hwait := hwaits j hj
  rw [(h.scheduled hc hwindow j (by omega)).2, Instant.since_of_lt hlater hregular] at hwait
  -- what is left now is what was left then, less the time between the two readings
  have hremaining : (c.along reading (j + 1 + 1)).remaining.nanos = _ :=
    (h.carried hc hwindow (j + 1) (by omega)).remaining_passOn _
      (h.scheduled hc hwindow (j + 1) hj).1
  omega

/-- By induction on the successors that are still to come: the budget is longer than all their
delays. -/
theorem Chain.doubling (h : p.Chain sent reading n)
    (hc : Countdown.Carried least (sent 0).message c)
    (hreading : ∀ j < n, (reading j).InWindow least ∧ (reading j).Regular)
    (hwaits : Waits sent reading n) (i j : Nat) (hj : j + 1 + i < n) :
    (2 ^ i - 1) * (c.along reading (j + 1)).increment.nanos <
      (c.along reading (j + 1)).remaining.nanos := by
  have hwindow : ∀ j < n, (reading j).InWindow least := fun j hj => (hreading j hj).1
  have hbudget := (Countdown.isExhausted_eq_false_iff _).1
    (h.scheduled hc hwindow (j + 1) (by omega)).1
  -- by induction on how often the delay is doubled
  induction i generalizing j with
  | zero => simpa using hbudget
  | succ i ih =>
    have hcarried := h.carried hc hwindow (j + 1) (by omega)
    have hpositive := hcarried.positive
    have hlost := h.remaining_le hc hreading hwaits j (by omega)
    -- the bound for the doubled delay, one delivery later
    have hnext := ih (j + 1) (by omega) ((Countdown.isExhausted_eq_false_iff _).1
      (h.scheduled hc hwindow (j + 1 + 1) (by omega)).1)
    have hdelay : (c.along reading (j + 1 + 1)).increment.nanos = _ :=
      hcarried.increment_passOn (reading (j + 1))
    rw [hdelay] at hnext
    have hdoubled := lt_of_doubled hbudget (by omega) hnext
    calc (2 ^ (i + 1) - 1) * (c.along reading (j + 1)).increment.nanos
        = (2 ^ (i + 1) - 2) * (c.along reading (j + 1)).increment.nanos +
            (c.along reading (j + 1)).increment.nanos := by ring
      _ < (c.along reading (j + 1)).remaining.nanos := by omega

/-- How many successors a control message has, if each waits for its delay: no more than its budget
has binary digits, and the fewer the longer its first delay. A delivery without another successor
gives the session up. -/
theorem Chain.logarithmic (hcontrol : (sent 0).message.isControl = true)
    (hread : Countdown.read (sent 0).message = .ok (some c)) (hbudget : Span.zero < c.remaining)
    (hsent : ∀ t, c.timeSent = some t → least ≤ t.toNanos)
    (hreading : ∀ j < n, (reading j).InWindow least ∧ (reading j).Regular)
    (hwaits : Waits sent reading n) (h : p.Chain sent reading n) :
    (2 ^ (n - 1) - 2) * c.increment.nanos < c.remaining.nanos ∧
    n ≤ Nat.log2 (c.remaining.nanos.toNat + 1) + 1 ∧
    ∃ last, Countdown.read (sent n).message = .ok (some last) ∧ ∀ now,
      if last.isExhausted then p.GivesUp (sent n).message now
      else ∃ op, p.Schedules (sent n).message now op := by
  have hwindow : ∀ j < n, (reading j).InWindow least := fun j hj => (hreading j hj).1
  have hc : Countdown.Carried least (sent 0).message c :=
    ⟨hcontrol, hread, fun t ht => by have := hsent t ht; omega⟩
  have hpositive := hc.positive
  have hremaining : 0 < c.remaining.nanos := hbudget
  have hbound : (2 ^ (n - 1) - 2) * c.increment.nanos < c.remaining.nanos := by
    -- up to the second delivery the bound says no more than that there is a budget
    match n with
    | 0 | 1 =>
      simp only [Nat.reduceSub, pow_zero]
      omega
    | i + 2 =>
      -- the first delivery may come at once, or even before the message was sent
      have hfirst : (c.along reading 1).remaining.nanos =
          c.remaining.nanos - c.elapsed (reading 0) :=
        hc.remaining_passOn _ (h.scheduled hc hwindow 0 (by omega)).1
      have hnonneg := (hc.elapsed_le (hwindow 0 (by omega))).1
      have hle : (c.along reading 1).remaining.nanos ≤ c.remaining.nanos := by omega
      have hdelay : (c.along reading 1).increment.nanos = _ := hc.increment_passOn (reading 0)
      have hnext := h.doubling hc hreading hwaits i 0 (by omega)
      rw [Nat.zero_add, hdelay] at hnext
      have hdoubled := lt_of_doubled hremaining hle hnext
      exact Int.lt_of_lt_of_le hdoubled hle
  -- the chain has carried the countdown to its last message
  have hlast := h.carried hc hwindow n (Nat.le_refl n)
  refine ⟨hbound, le_log2_of_mul_lt hpositive hremaining hbound, _, hlast.read, fun now => ?_⟩
  -- the message behind the chain is exhausted or has another successor
  split
  · next hexhausted =>
    exact (givesUp_iff hlast.isControl).2 ⟨_, hlast.tracked_eq, hexhausted⟩
  · next hleft =>
    exact ⟨_, (schedules_iff hlast.isControl).2
      ⟨_, hlast.tracked_eq, Bool.eq_false_iff.2 hleft, rfl⟩⟩

/-! ### A budget of fifteen seconds -/

/-- Readings after 0, 4, 12 and 23 seconds, as the delays of the successors have it. -/
def asDelayed (j : Nat) : Instant :=
  .ofNanos (1714564800000000000 + 1000000000 * [0, 4, 12, 23][j]!)

/-- What is sent of a countdown of fifteen seconds that begins with a delay of two. -/
def fifteenSeconds : Nat → Shipment :=
  trail { store := "db", address := "processor" }
    { message := controlMessage (.sentAt Countdown.noon) ∅, destination := .queue "processor" }
    asDelayed

/-- A budget of fifteen seconds with delays from two seconds on takes four deliveries. -/
theorem logarithmic_fifteenSeconds :
    Chain { store := "db", address := "processor" } fifteenSeconds asDelayed 4 ∧
    (2 ^ (4 - 1) - 2) * (2000000000 : Int) < 15000000000 ∧
    4 ≤ Nat.log2 ((15000000000 : Int).toNat + 1) + 1 ∧
    ∃ last, Countdown.read (fifteenSeconds 4).message = .ok (some last) ∧ ∀ now,
      if last.isExhausted then
        GivesUp { store := "db", address := "processor" } (fifteenSeconds 4).message now
      else ∃ op, Schedules { store := "db", address := "processor" } (fifteenSeconds 4).message now
        op := by
  have hchain : Chain { store := "db", address := "processor" } fifteenSeconds asDelayed 4 :=
    chain_trail (by decide +kernel)
  have hread : Countdown.read (fifteenSeconds 0).message = .ok (some (.sentAt Countdown.noon)) :=
    Countdown.read_sentAt (by decide) (by decide)
  have hreading : ∀ j < 4, (asDelayed j).InWindow Countdown.noon.toNanos ∧
      (asDelayed j).Regular := by decide
  have hwaits : Waits fifteenSeconds asDelayed 4 := by
    intro j hj
    have hall : ∀ j < 3, ((fifteenSeconds (j + 1)).delay.getD 0 : Int) ≤
        (asDelayed (j + 1)).since (asDelayed j) := by decide +kernel
    exact hall j (by omega)
  have hsent : ∀ t, (Countdown.sentAt Countdown.noon).timeSent = some t → Countdown.noon.toNanos ≤
      t.toNanos := by
    intro t ht
    obtain rfl := Option.some.inj ht
    exact Int.le_refl _
  exact ⟨hchain, hchain.logarithmic (by decide +kernel) hread (by decide) hsent hreading hwaits⟩

end Receiver

end Outbox
