import Outbox.Retry.Countdown

/-!
# Budgets under any clock

A clock may jump, stand still, go backwards or show a leap second. Whatever it reads at one delivery
after the other, the budget of a control message never grows, and the delays stay above zero and
within the budget that there was at first. No figure meets an end of the spans on the way: in
integers without bounds the same countdowns come out.

* `Countdown.reckoning_next`          one successor in integers without bounds
* `Countdown.budget_under_any_clock`  all of them, at any readings of the clock
-/

namespace Outbox

open Time

namespace Time.Instant

/-- Between any two readings lies a span. -/
theorem since_le_limit (later earlier : Instant) : later.since earlier ≤ Span.limit := by
  have hlater := later.le_greatestSeconds
  have hearlier := earlier.leastSeconds_le
  have hnanos := later.nanos_lt
  have hleap := leapBetween_le later earlier
  -- the calendar ends long before the spans do
  simp only [greatestSeconds, leastSeconds, nanosPerSecond] at hlater hearlier hnanos
  simp only [since, toNanos, nanosPerSecond, Span.limit]
  omega

end Time.Instant

/-! ### Integers without bounds -/

/-- What a countdown reckons with, in integers without bounds. -/
structure Reckoning where
  remaining : Int
  increment : Int
  timeSent : Option Instant

namespace Reckoning

/-- The reckoning of the successor: the budget loses the time since the message was sent, or its
delay when that is not known, and the delay doubles up to the budget that there was. -/
def next (r : Reckoning) (now : Instant) : Reckoning where
  remaining := r.remaining - (match r.timeSent with
    | some sent => max (now.since sent) 0
    | none => r.increment)
  increment := min (2 * r.increment) r.remaining
  timeSent := some now

/-- The reckoning, then that of its successor at the first reading, that of the next one at the
second, and so on as long as there is budget left. -/
def chain (r : Reckoning) : List Instant → List Reckoning
  | [] => [r]
  | now :: rest => if r.remaining ≤ 0 then [r] else r :: (r.next now).chain rest

end Reckoning

namespace Countdown

variable {c : Countdown} {now : Instant}

/-- What the countdown reckons with. -/
def reckoning (c : Countdown) : Reckoning := ⟨c.remaining.nanos, c.increment.nanos, c.timeSent⟩

/-! ### One successor -/

/-- Time that has passed is never negative, as far as a countdown counts it. -/
theorem elapsed_nonneg (now : Instant) (hpositive : Span.zero < c.increment) :
    0 ≤ c.elapsed now := by
  have hincrement : 0 < c.increment.nanos := hpositive
  unfold elapsed
  split <;> omega

/-- What has passed is a span. -/
theorem elapsed_le_limit (c : Countdown) (now : Instant) : c.elapsed now ≤ Span.limit := by
  have hlimit : (0 : Int) ≤ Span.limit := by decide
  unfold elapsed
  split
  -- a countdown without a time sent has used up its delay
  · next sent _ =>
    have hle := now.since_le_limit sent
    omega
  · exact c.increment.le_limit

/-- The budget shrinks by the time that has passed, down to the end of the spans. -/
theorem nanos_nextRemaining (helapsed : 0 ≤ c.elapsed now) :
    (c.nextRemaining now).nanos = max (-Span.limit) (c.remaining.nanos - c.elapsed now) := by
  have hle := c.remaining.le_limit
  unfold nextRemaining
  cases hd : Span.ofNanos? (c.remaining.nanos - c.elapsed now) with
  -- the difference is a span, or it lies below the least one
  | some d =>
    have hnanos := Span.ofNanos?_eq_some_iff.1 hd
    have hge := d.neg_limit_le
    rw [Option.getD_some]
    omega
  | none =>
    -- the time that has passed is not negative, so it is the lower end that was met
    have hlimit := Span.ofNanos?_eq_none_iff.1 hd
    rw [Option.getD_none]
    simp only [Span.least]
    omega

/-- As long as there is budget left, the end of the spans is not met. -/
theorem nanos_nextRemaining_of_left (hpositive : Span.zero < c.increment)
    (hleft : c.isExhausted = false) (now : Instant) :
    (c.nextRemaining now).nanos = c.remaining.nanos - c.elapsed now := by
  have hbudget := c.isExhausted_eq_false_iff.1 hleft
  have hle := c.elapsed_le_limit now
  rw [nanos_nextRemaining (elapsed_nonneg now hpositive)]
  omega

/-- The countdown of a successor is what integers without bounds make of it. -/
theorem reckoning_next (hpositive : Span.zero < c.increment) (hleft : c.isExhausted = false)
    (now : Instant) : (c.next now).reckoning = c.reckoning.next now := by
  have hremaining : (c.next now).remaining.nanos = (c.reckoning.next now).remaining :=
    nanos_nextRemaining_of_left hpositive hleft now
  have hincrement : (c.next now).increment.nanos = (c.reckoning.next now).increment :=
    nanos_increment_next c now (Int.le_of_lt hpositive)
  simp only [reckoning, hremaining, hincrement]
  rfl

/-- The budget of a successor is no greater than the one before. -/
theorem remaining_next_le (hpositive : Span.zero < c.increment) (hleft : c.isExhausted = false)
    (now : Instant) : (c.next now).remaining ≤ c.remaining := by
  have hremaining : (c.next now).remaining.nanos = _ :=
    nanos_nextRemaining_of_left hpositive hleft now
  have helapsed := elapsed_nonneg now hpositive
  rw [Span.le_def]
  omega

/-- The delay of a successor is positive. -/
theorem increment_next_pos (hpositive : Span.zero < c.increment) (hleft : c.isExhausted = false)
    (now : Instant) : Span.zero < (c.next now).increment := by
  have hbudget := c.isExhausted_eq_false_iff.1 hleft
  have hincrement : 0 < c.increment.nanos := hpositive
  rw [Span.lt_def, Span.nanos_zero, nanos_increment_next c now (Int.le_of_lt hincrement)]
  omega

/-- The delay of a successor is no longer than the budget that is left. -/
theorem increment_next_le (hpositive : Span.zero < c.increment) (now : Instant) :
    (c.next now).increment ≤ c.remaining := by
  rw [Span.le_def, nanos_increment_next c now (Int.le_of_lt hpositive)]
  omega

/-! ### Successors in a row -/

/-- The countdown, then its successor at the first reading, the next one at the second, and so on
as long as there is budget left. -/
def chain (c : Countdown) : List Instant → List Countdown
  | [] => [c]
  | now :: rest => if c.isExhausted then [c] else c :: (c.next now).chain rest

/-- A chain ends with a countdown that is exhausted. -/
theorem chain_of_exhausted (hexhausted : c.isExhausted = true) (readings : List Instant) :
    c.chain readings = [c] := by
  cases readings with
  | nil => rfl
  | cons now rest => rw [chain, if_pos hexhausted]

/-- A chain goes on with the successor of a countdown that is not exhausted. -/
theorem chain_of_left (hleft : c.isExhausted = false) (now : Instant) (rest : List Instant) :
    c.chain (now :: rest) = c :: (c.next now).chain rest := by
  rw [chain, if_neg (Bool.eq_false_iff.1 hleft)]

/-- A chain begins with its first countdown. -/
theorem head?_chain (c : Countdown) (readings : List Instant) :
    (c.chain readings).head? = some c := by
  unfold chain
  split
  · rfl
  · split <;> rfl

/-- What a countdown has that comes after the countdown `c` in a chain. -/
structure Descends (c d : Countdown) : Prop where
  sessionId : d.sessionId = c.sessionId
  remaining : d.remaining ≤ c.remaining
  positive : Span.zero < d.increment

/-- To descend from what descends is to descend. -/
theorem Descends.trans {d e : Countdown} (h : c.Descends d) (h' : d.Descends e) :
    c.Descends e where
  sessionId := h'.sessionId.trans h.sessionId
  remaining := Int.le_trans h'.remaining h.remaining
  positive := h'.positive

/-- A countdown descends from itself. -/
theorem descends_self (hpositive : Span.zero < c.increment) : c.Descends c :=
  ⟨rfl, Int.le_refl _, hpositive⟩

/-- The successor descends from a countdown. -/
theorem descends_next (hpositive : Span.zero < c.increment) (hleft : c.isExhausted = false)
    (now : Instant) : c.Descends (c.next now) :=
  ⟨rfl, remaining_next_le hpositive hleft now, increment_next_pos hpositive hleft now⟩

/-- By induction on the readings: every countdown of a chain descends from the first. -/
theorem descends_of_mem_chain (hpositive : Span.zero < c.increment) {readings : List Instant}
    {d : Countdown} (h : d ∈ c.chain readings) : c.Descends d := by
  -- on the readings, with the successor as the first countdown
  induction readings generalizing c with
  | nil =>
    obtain rfl := List.mem_singleton.1 h
    exact descends_self hpositive
  | cons now rest ih =>
    -- an exhausted countdown is the last one, so there is nothing else in the chain
    cases hleft : c.isExhausted with
    | true =>
      rw [chain_of_exhausted hleft] at h
      obtain rfl := List.mem_singleton.1 h
      exact descends_self hpositive
    | false =>
      rw [chain_of_left hleft] at h
      obtain rfl | hrest := List.mem_cons.1 h
      · exact descends_self hpositive
      · have hnext := descends_next hpositive hleft now
        exact hnext.trans (ih hnext.positive hrest)

/-- And it descends from all that come before it. -/
theorem pairwise_descends_chain (hpositive : Span.zero < c.increment) (readings : List Instant) :
    (c.chain readings).Pairwise Descends := by
  induction readings generalizing c with
  | nil => exact List.pairwise_singleton ..
  | cons now rest ih =>
    -- everything behind the first descends from its successor
    cases hleft : c.isExhausted with
    | true =>
      rw [chain_of_exhausted hleft]
      exact List.pairwise_singleton ..
    | false =>
      have hnext := descends_next hpositive hleft now
      rw [chain_of_left hleft]
      exact List.pairwise_cons.2
        ⟨fun d hd => hnext.trans (descends_of_mem_chain hnext.positive hd), ih hnext.positive⟩

/-- Integers without bounds make the same chain. -/
theorem map_reckoning_chain (hpositive : Span.zero < c.increment) (readings : List Instant) :
    (c.chain readings).map reckoning = c.reckoning.chain readings := by
  induction readings generalizing c with
  | nil => rfl
  | cons now rest ih =>
    -- both chains stop at the same place
    have hiff : c.reckoning.remaining ≤ 0 ↔ c.isExhausted = true := by
      simp [isExhausted, Span.le_def, reckoning]
    rw [Reckoning.chain]
    cases hleft : c.isExhausted with
    | true => rw [chain_of_exhausted hleft, if_pos (hiff.2 hleft), List.map_singleton]
    | false =>
      rw [chain_of_left hleft, if_neg (mt hiff.1 (Bool.eq_false_iff.1 hleft)), List.map_cons,
        ih (increment_next_pos hpositive hleft now), reckoning_next hpositive hleft]

/-- What comes next in a chain is the successor at the reading of that place. -/
theorem getElem?_chain_add_one {readings : List Instant} {i : Nat} {e : Countdown} :
    (c.chain readings)[i + 1]? = some e ↔ ∃ d now, (c.chain readings)[i]? = some d ∧
      readings[i]? = some now ∧ d.isExhausted = false ∧ e = d.next now := by
  -- on the readings and the place: what comes behind the first place belongs to the successor
  induction readings generalizing c i with
  | nil => simp [chain]
  | cons now rest ih =>
    cases hleft : c.isExhausted with
    | true =>
      -- the place is the first one, or it is one of the chain of the successor
      rw [chain_of_exhausted hleft]
      cases i with
      | zero => simp [hleft]
      | succ i => simp
    | false =>
      rw [chain_of_left hleft]
      cases i with
      | zero =>
        rw [List.getElem?_cons_succ, ← List.head?_eq_getElem?, head?_chain]
        constructor
        · intro he
          obtain rfl := Option.some.inj he
          exact ⟨c, now, rfl, rfl, hleft, rfl⟩
        · rintro ⟨d, reading, hd, hreading, -, rfl⟩
          obtain rfl := Option.some.inj hd
          obtain rfl := Option.some.inj hreading
          rfl
      | succ i =>
        simp only [List.getElem?_cons_succ]
        exact ih

/-- Whatever the clock reads, a chain of countdowns is the one that comes out in integers without
bounds. The budget never grows, the session stays the same, and every delay is above zero. A delay
is twice the one before it or all the budget that was left then, and never more than there was at
first; and the time sent is the last reading. -/
theorem budget_under_any_clock (hpositive : Span.zero < c.increment) (readings : List Instant) :
    (c.chain readings).map reckoning = c.reckoning.chain readings ∧
    (c.chain readings).Pairwise (fun d e => e.remaining ≤ d.remaining) ∧
    (∀ d ∈ c.chain readings, d.sessionId = c.sessionId ∧ Span.zero < d.increment) ∧
    ∀ i e, (c.chain readings)[i + 1]? = some e → ∃ d now, (c.chain readings)[i]? = some d ∧
      readings[i]? = some now ∧ d.isExhausted = false ∧
      e.increment.nanos = min (2 * d.increment.nanos) d.remaining.nanos ∧
      e.increment ≤ c.remaining ∧ e.timeSent = some now := by
  refine ⟨map_reckoning_chain hpositive readings,
    (pairwise_descends_chain hpositive readings).imp fun h => h.remaining, fun d hd => ?_,
    fun i e he => ?_⟩
  · have hd := descends_of_mem_chain hpositive hd
    exact ⟨hd.sessionId, hd.positive⟩
  · obtain ⟨d, now, hd, hnow, hleft, rfl⟩ := getElem?_chain_add_one.1 he
    -- the countdown at that place descends from the first one as well
    have hdescends := descends_of_mem_chain hpositive (List.mem_of_getElem? hd)
    have hincrement := nanos_increment_next d now (Int.le_of_lt hdescends.positive)
    have hle := increment_next_le hdescends.positive now
    exact ⟨d, now, hd, hnow, hleft, hincrement, Int.le_trans hle hdescends.remaining, rfl⟩

/-- The longest budget there is, with a delay whose double is no span. -/
def longest : Countdown where
  sessionId := "session"
  attempt := 1
  remaining := .greatest
  increment := { nanos := Span.limit - 1000000000 }
  timeSent := none

/-- Readings of a clock that goes back two thousand years, stands still, and goes on in a leap
second. -/
def restless : List Instant :=
  [.ofNanos 1714564800000000000, .ofNanos (-62135596800000000000),
    .ofNanos (-62135596800000000000), ⟨1483228799, 1500000000, by decide, by decide, by decide,
    by decide⟩, .ofNanos 1714564800000000000]

/-- A clock that jumps about between the first and the last moment there is. -/
theorem budget_under_any_clock_restless :
    Span.zero < longest.increment ∧
    (longest.chain restless).map reckoning = longest.reckoning.chain restless ∧
    ((longest.reckoning.chain restless).map fun r => (r.remaining, r.increment)) =
      [(Span.limit, Span.limit - 1000000000), (1000000000, Span.limit), (1000000000, 1000000000),
        (1000000000, 1000000000), (-63618825599500000000, 1000000000)] ∧
    (longest.chain restless).Pairwise fun d e => e.remaining ≤ d.remaining := by
  have hpositive : Span.zero < longest.increment := by decide
  obtain ⟨hexact, hbudgets, -⟩ := budget_under_any_clock hpositive restless
  exact ⟨hpositive, hexact, by decide, hbudgets⟩

end Countdown

end Outbox
