import Outbox.Proofs.Retry.Chain

/-!
# When a session is given up

The budget that a control message carries lags one delivery behind the clock, and its time sent has
lost what there was beyond microseconds. Even so no session is given up before its commit budget has
passed, but for a microsecond a delivery; and when no delivery is late, none is given up after twice
the budget.

* `Countdown.Spent.step`            what one delivery makes of the budget
* `Receiver.Chain.given_up_window`  when the delivery that gives up takes place
-/

namespace Outbox

open Time

namespace Countdown

variable {m : Message} {c : Countdown} {start last now : Instant} {maximum : Int} {j : Nat}

/-- What has become of a budget that began to run at the reading `start`, after `j` deliveries of
which the last was at the reading `last`: it has lost the time between the two, and less than a
microsecond for each delivery besides. -/
structure Spent (maximum : Int) (start last : Instant) (j : Nat) (c : Countdown) : Prop where
  timeSent : c.timeSent = some last.toMicros
  most : c.remaining.nanos ≤ maximum - (last.toNanos - start.toNanos)
  least : maximum - (last.toNanos - start.toNanos) - 999 * j ≤ c.remaining.nanos

/-- Another delivery takes the time since the one before, which was rounded. -/
theorem Spent.step (h : Spent maximum start last j c) (hc : Carried start.toNanos m c)
    (hleft : c.isExhausted = false) (hlast : last.Regular) (hnow : now.Regular)
    (hle : last.toNanos ≤ now.toNanos) : Spent maximum start now (j + 1) (c.passOn now) := by
  have helapsed := elapsed_of_timeSent h.timeSent hlast.toMicros hnow
  have hmicros := Instant.toNanos_toMicros last
  have hremaining := hc.remaining_passOn now hleft
  have hmost := h.most
  have hleast := h.least
  exact ⟨rfl, by omega, by omega⟩

end Countdown

namespace Receiver

variable {p : Receiver} {sent : Nat → Shipment} {reading : Nat → Instant} {k : Nat}
  {c : Countdown} {start : Instant} {maximum : Int}

/-- The reading at which a message of a chain was sent. -/
def departure (start : Instant) (reading : Nat → Instant) : Nat → Instant
  | 0 => start
  | j + 1 => reading j

/-- Deliveries at regular readings in their order, the first not before the message was sent. -/
structure InOrder (start : Instant) (reading : Nat → Instant) (k : Nat) : Prop where
  atStart : start.InWindow start.toNanos ∧ start.Regular
  atDelivery : ∀ j ≤ k, (reading j).InWindow start.toNanos ∧ (reading j).Regular
  le : ∀ j < k, 0 ≤ (reading (j + 1)).since (reading j)

namespace InOrder

/-- The readings of the clock lie in the window. -/
theorem inWindow (h : InOrder start reading k) (j : Nat) (hj : j < k) :
    (reading j).InWindow start.toNanos := (h.atDelivery j (Nat.le_of_lt hj)).1

/-- What lies between two deliveries is the difference of their readings. -/
theorem since (h : InOrder start reading k) {i j : Nat} (hi : i ≤ k) (hj : j ≤ k) :
    (reading j).since (reading i) = (reading j).toNanos - (reading i).toNanos :=
  Instant.since_of_lt (h.atDelivery j hj).2 (h.atDelivery i hi).2

/-- What lies between the start and a delivery is the difference of the two. -/
theorem since_start (h : InOrder start reading k) {j : Nat} (hj : j ≤ k) :
    (reading j).since start = (reading j).toNanos - start.toNanos :=
  Instant.since_of_lt (h.atDelivery j hj).2 h.atStart.2

/-- A message departs at a reading without a leap second. -/
theorem regular_departure (h : InOrder start reading k) {j : Nat} (hj : j ≤ k) :
    (departure start reading j).Regular := by
  cases j with
  | zero => exact h.atStart.2
  | succ j => exact (h.atDelivery j (by omega)).2

/-- No message is delivered before it was sent. -/
theorem departure_le (h : InOrder start reading k) {j : Nat} (hj : j ≤ k) :
    (departure start reading j).toNanos ≤ (reading j).toNanos := by
  cases j with
  | zero => exact (h.atDelivery 0 hj).1.ge
  | succ j =>
    have hle := h.le j hj
    rw [h.since (by omega) hj] at hle
    simp only [departure]
    omega

end InOrder

/-- By induction on the deliveries: what has become of the budget. -/
theorem Chain.spent (h : p.Chain sent reading k)
    (hc : Countdown.Carried start.toNanos (sent 0).message c)
    (hspent : Countdown.Spent maximum start start 0 c) (horder : InOrder start reading k)
    (j : Nat) (hj : j ≤ k) :
    Countdown.Spent maximum start (departure start reading j) j (c.along reading j) := by
  induction j with
  | zero => exact hspent
  | succ j ih =>
    have hcarried := h.carried hc horder.inWindow j (by omega)
    have hleft := (h.scheduled hc horder.inWindow j hj).1
    exact (ih (by omega)).step hcarried hleft (horder.regular_departure (by omega))
      (horder.atDelivery j (by omega)).2 (horder.departure_le (by omega))

/-- A delay is no longer than the budget that is left when the message before is delivered. -/
theorem Chain.delay_le (h : p.Chain sent reading k)
    (hc : Countdown.Carried start.toNanos (sent 0).message c)
    (hspent : Countdown.Spent maximum start start 0 c) (horder : InOrder start reading k)
    (j : Nat) (hj : j < k) : ((sent (j + 1)).delay.getD 0 : Int) ≤
      maximum - ((departure start reading j).toNanos - start.toNanos) := by
  have hincrement : (c.along reading (j + 1)).increment.nanos = _ :=
    (h.carried hc horder.inWindow j (by omega)).increment_passOn (reading j)
  have hmost := (h.spent hc hspent horder j (by omega)).most
  rw [(h.scheduled hc horder.inWindow j hj).2, hincrement]
  omega

/-- When no delivery is late, none comes after twice the budget: the last message was sent before
the budget was over, and was no longer on its way than what the one before had left of it. -/
theorem Chain.since_le (h : p.Chain sent reading k)
    (hc : Countdown.Carried start.toNanos (sent 0).message c)
    (hspent : Countdown.Spent maximum start start 0 c) (horder : InOrder start reading k)
    (hstart : reading 0 = start)
    (hontime : ∀ j < k, (reading (j + 1)).since (reading j) = (sent (j + 1)).delay.getD 0)
    (j : Nat) (hj : j < k) : (reading (j + 1)).since start ≤ 2 * maximum := by
  -- the delay of the last message is what it was on its way
  have hlast := h.delay_le hc hspent horder j hj
  rw [← hontime j hj, horder.since (by omega) (by omega)] at hlast
  rw [horder.since_start (by omega)]
  -- nothing was on its way before the first delivery
  cases j with
  | zero =>
    -- there was no message before, and the first was delivered at once
    have hleft := (Countdown.isExhausted_eq_false_iff c).1 (h.scheduled hc horder.inWindow 0 hj).1
    have hmost := hspent.most
    simp only [departure, hstart] at hlast
    omega
  | succ i =>
    -- one message earlier, what it took is what was left of the budget
    have hbefore := h.delay_le hc hspent horder i (by omega)
    rw [← hontime i (by omega), horder.since (by omega) (by omega)] at hbefore
    have hge : start.toNanos ≤ (departure start reading i).toNanos := by
      cases i with
      | zero => exact Int.le_refl _
      | succ i => exact (horder.inWindow i (by omega)).ge
    simp only [departure] at hlast
    omega

/-- When the delivery that gives up takes place: after the one before it the commit budget has
passed, but for a microsecond a delivery; and if every message is delivered when its delay is over,
not after twice the budget. -/
theorem Chain.given_up_window {s : Session.Outboxed} {o : Session.Opened}
    (hopening : o.opening.Fits64) (hbudget : 0 < o.opening.commitBudget)
    (hvalid : o.opening.validate = .ok ())
    (hcountdown : Countdown.initial o.sessionId o.opening.commitBudget o.opening.firstDelay none =
      .ok o.countdown)
    (hfirst : sent 0 = s.announcement o start) (h : p.Chain sent reading k)
    (horder : InOrder start reading k) (hgaveUp : p.GivesUp (sent k).message (reading k)) :
    (∃ j, k = j + 1 ∧
      (o.opening.commitBudget : Int) - 1000 * k < (reading j).since start) ∧
    (reading 0 = start →
      (∀ j < k, (reading (j + 1)).since (reading j) = (sent (j + 1)).delay.getD 0) →
      (reading k).since start ≤ 2 * o.opening.commitBudget) := by
  -- the announcement carries the budget of the opening, and none of it is spent
  obtain ⟨first, hc, hspent⟩ : ∃ c, Countdown.Carried start.toNanos (sent 0).message c ∧
      Countdown.Spent o.opening.commitBudget start start 0 c := by
    have hremaining := (Countdown.nanos_initial hcountdown).2.1
    refine ⟨{ o.countdown with timeSent := some start.toMicros }, ?_, rfl, ?_, ?_⟩
    · rw [hfirst]
      exact .announcement hopening hvalid hcountdown horder.atStart.1
    · simp only [hremaining]
      omega
    · simp only [hremaining]
      omega
  have hcarried := h.carried hc horder.inWindow k (Nat.le_refl k)
  -- it was given up, so nothing of the budget is left
  obtain ⟨c, hc', hexhausted⟩ := (givesUp_iff hcarried.isControl).1 hgaveUp
  obtain rfl := Option.some.inj (hcarried.tracked_eq.symm.trans hc')
  have hnone : (first.along reading k).remaining.nanos ≤ 0 := of_decide_eq_true hexhausted
  have hleast := (h.spent hc hspent horder k (Nat.le_refl k)).least
  cases k with
  | zero =>
    -- at first there is budget left
    simp only [departure] at hleast
    omega
  | succ j =>
    refine ⟨⟨j, rfl, ?_⟩, fun hstart hontime => ?_⟩
    -- at the delivery before the last the budget was not over yet, up to a microsecond for each hop
    · rw [horder.since_start (by omega)]
      simp only [departure] at hleast
      omega
    · exact h.since_le hc hspent horder hstart hontime j (Nat.lt_succ_self j)

/-! ### A budget of three seconds -/

/-- A session that may take three seconds, with a first delay of one and a half. -/
def threeSeconds : Session.Opened where
  sessionId := "a"
  countdown :=
    { sessionId := "a"
      attempt := 1
      remaining := { nanos := 3000000000 }
      increment := { nanos := 1500000000 }
      timeSent := none }
  opening := { sessionId := some "a", commitBudget := 3000000000, firstDelay := 1500000000 }
  transaction := none

/-- A reading every three seconds, from noon on. -/
def everyThree (j : Nat) : Instant := .ofNanos (1714564800000000000 + 3000000000 * j)

/-- What is sent when the session does not commit. -/
def threeSecondsSent : Nat → Shipment :=
  trail { store := "db", address := "processor" }
    (Session.Outboxed.announcement
      { store := "db", staging := 0, router := {}, processorAddress := "processor" }
      threeSeconds (everyThree 0)) everyThree

/-- Deliveries every three seconds are in order. -/
theorem inOrder_everyThree : InOrder (everyThree 0) everyThree 2 :=
  ⟨by decide, by decide, by decide⟩

/-- Delivered on time the messages of the session last for exactly twice its budget. -/
theorem given_up_window_threeSeconds :
    Chain { store := "db", address := "processor" } threeSecondsSent everyThree 2 ∧
    GivesUp { store := "db", address := "processor" } (threeSecondsSent 2).message (everyThree 2) ∧
    (∃ j, 2 = j + 1 ∧
      ((3000000000 : Nat) : Int) - 1000 * (2 : Nat) < (everyThree j).since (everyThree 0)) ∧
    (everyThree 2).since (everyThree 0) ≤ 2 * (3000000000 : Nat) := by
  -- the chain is played and its last message given up; the rest is arithmetic
  have hchain : Chain { store := "db", address := "processor" } threeSecondsSent everyThree 2 :=
    chain_trail (by decide +kernel)
  have hgaveUp : GivesUp { store := "db", address := "processor" } (threeSecondsSent 2).message
      (everyThree 2) :=
    (givesUp_iff (by decide +kernel)).2 ((Option.any_eq_true ..).1 (by decide +kernel))
  obtain ⟨hpassed, hontime⟩ := hchain.given_up_window (o := threeSeconds) ⟨by decide, by decide⟩
    (by decide) rfl rfl rfl inOrder_everyThree hgaveUp
  exact ⟨hchain, hgaveUp, hpassed, hontime rfl (by decide +kernel)⟩

end Receiver

end Outbox
