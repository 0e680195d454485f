import Outbox.Proofs.Contract
import Outbox.Proofs.Written.Countdown

/-!
# Terms on which control messages stay sound

As long as the budgets and delays of sessions are signed 64-bit numbers of nanoseconds, and all
readings of the clock lie in the years 0 to 9999 and within 292 years of each other, every countdown
that is written into headers can be read out of them again. So the control message of a session is
sound, and so is every successor of a sound message.

* `Timely.successor`     a successor of a sound message is sound
* `Timely.announcement`  the control message of a session is sound
-/

namespace Outbox

open Time

namespace Time.Instant

/-- Between two readings that are no leap seconds the nanoseconds count. -/
theorem since_of_lt {later earlier : Instant} (hl : later.nanos < nanosPerSecond)
    (he : earlier.nanos < nanosPerSecond) :
    later.since earlier = later.toNanos - earlier.toNanos := by
  have hleap : leapBetween later earlier = 0 := by
    unfold leapBetween
    rw [if_neg (by omega), if_neg (by omega)]
  rw [since, hleap]
  omega

/-- What is cut off an instant is less than a microsecond. -/
theorem toNanos_toMicros (t : Instant) :
    t.toNanos - 1000 < t.toMicros.toNanos ∧ t.toMicros.toNanos ≤ t.toNanos := by
  simp only [toNanos, toMicros]
  omega

end Time.Instant

namespace Countdown

/-- The first countdown of a session has the durations of its opening. -/
theorem nanos_initial {c : Countdown} {id : String} {maximum increment : Nat}
    {timeSent : Option Instant} (h : initial id maximum increment timeSent = .ok c) :
    c.sessionId = id ∧ c.remaining.nanos = maximum ∧ c.increment.nanos = increment := by
  -- both spans exist, so each has the duration that was asked for
  unfold initial at h
  split at h
  · next c' hc =>
    obtain rfl := Except.ok.inj h
    obtain ⟨remaining, hremaining, hrest⟩ := Option.bind_eq_some_iff.1 hc
    obtain ⟨delay, hdelay, hsome⟩ := Option.bind_eq_some_iff.1 hrest
    obtain rfl := Option.some.inj hsome
    exact ⟨rfl, Span.ofNanos?_eq_some_iff.1 hremaining, Span.ofNanos?_eq_some_iff.1 hdelay⟩
  · exact nomatch h

end Countdown

/-- The readings of a clock from `least` on, in nanoseconds since 1970, which lie within 292 years
of each other and in the years 0 to 9999. -/
structure Time.Instant.InWindow (least : Int) (t : Instant) : Prop where
  year : 0 ≤ t.year ∧ t.year ≤ 9999
  ge : least ≤ t.toNanos
  -- 292 years with as many leap years as there can be have 106653 days
  le : t.toNanos ≤ least + 106653 * 86400 * nanosPerSecond

instance (least : Int) (t : Time.Instant) : Decidable (t.InWindow least) :=
  decidable_of_iff ((0 ≤ t.year ∧ t.year ≤ 9999) ∧ least ≤ t.toNanos ∧
    t.toNanos ≤ least + 106653 * 86400 * nanosPerSecond)
    ⟨fun ⟨year, ge, le⟩ => ⟨year, ge, le⟩, fun h => ⟨h.year, h.ge, h.le⟩⟩

/-- An opening whose durations are signed 64-bit numbers of nanoseconds. -/
def Opening.Fits64 (o : Opening) : Prop :=
  o.commitBudget ≤ 9223372036854775807 ∧ o.firstDelay ≤ 9223372036854775807

/-- The countdown with which a session is announced can be written into headers. -/
theorem Session.Opened.writable (o : Session.Opened) {now : Instant}
    (hopening : o.opening.Fits64) (hvalid : o.opening.validate = .ok ())
    (hcountdown : Countdown.initial o.sessionId o.opening.commitBudget o.opening.firstDelay none =
      .ok o.countdown)
    (hyear : 0 ≤ now.year ∧ now.year ≤ 9999) :
    Countdown.Writable { o.countdown with timeSent := some now } := by
  obtain ⟨-, hremaining, hincrement⟩ := Countdown.nanos_initial hcountdown
  obtain ⟨hbudget, hdelay⟩ := hopening
  -- an opening whose first delay is zero would have been refused
  have hpositive : o.opening.firstDelay ≠ 0 := by
    intro hzero
    simp [Opening.validate, hzero] at hvalid
  -- the budget, the first delay, its sign and the reading of the clock can each be written
  refine ⟨?_, ?_, ?_, fun t ht => ?_⟩
  · rw [Duration.inReach_iff, hremaining]
    omega
  · rw [Duration.inReach_iff, hincrement]
    omega
  · rw [Span.lt_def, Span.nanos_zero, hincrement]
    omega
  · obtain rfl := Option.some.inj ht
    exact hyear

/-- A control message that a delivery can answer with a successor of the same kind. -/
structure Timely (least : Int) (m : Message) : Prop where
  isControl : m.isControl = true
  -- the time sent has lost what it had beyond microseconds
  countdown : ∃ c sent, Countdown.read m = .ok (some c) ∧
    Duration.inReach c.remaining.nanos = true ∧ Duration.inReach c.increment.nanos = true ∧
    Span.zero < c.increment ∧ c.timeSent = some sent ∧ sent.nanos < nanosPerSecond ∧
    least - 1000 < sent.toNanos

namespace Timely

variable {least : Int} {m : Message} {c : Countdown} {now : Instant}

/-- A countdown that was written at a reading of the clock makes a sound message. -/
theorem of_write (hcontrol : m.isControl = true) (hwritable : c.Writable)
    (hsent : c.timeSent = some now) (hnow : now.InWindow least)
    (hleap : now.nanos < nanosPerSecond) :
    Timely least { m with headers := c.write m.headers } := by
  -- what was written is read back, but for the part of the reading below a microsecond
  have hread := Countdown.read_write m.headers hwritable m
  refine ⟨(Countdown.isControl_write m c).trans hcontrol, _, now.toMicros, hread,
    hwritable.remaining, hwritable.increment, hwritable.positive, ?_, ?_, ?_⟩
  · rw [hsent, Option.map_some]
  · simp only [Instant.toMicros]
    omega
  · have hmicros := Instant.toNanos_toMicros now
    have hge := hnow.ge
    omega

/-- What is left of the budget stays in reach. -/
theorem inReach_nextRemaining {sent : Instant}
    (hremaining : Duration.inReach c.remaining.nanos = true)
    (hexh : c.isExhausted = false) (hsent : c.timeSent = some sent)
    (hsentLeap : sent.nanos < nanosPerSecond) (hge : least - 1000 < sent.toNanos)
    (hnow : now.InWindow least) (hleap : now.nanos < nanosPerSecond) :
    Duration.inReach (c.nextRemaining now).nanos = true := by
  have hleft := c.isExhausted_eq_false_iff.1 hexh
  have hle := hnow.le
  -- the budget that is left fits, because what has passed since the last reading is bounded
  rw [Duration.inReach_iff] at hremaining
  simp only [nanosPerSecond] at hle
  -- both readings lie in the window, and 292 years are less than the reach of a duration
  have helapsed : 0 ≤ c.elapsed now ∧ c.elapsed now < 9223372036854775807 := by
    simp only [Countdown.elapsed, hsent, Instant.since_of_lt hleap hsentLeap]
    omega
  have hspan : ∃ d, Span.ofNanos? (c.remaining.nanos - c.elapsed now) = some d := by
    refine Option.ne_none_iff_exists'.1 fun hnone => ?_
    rw [Span.ofNanos?_eq_none_iff] at hnone
    simp only [Span.limit] at hnone
    omega
  obtain ⟨d, hd⟩ := hspan
  have hnanos := Span.ofNanos?_eq_some_iff.1 hd
  rw [Countdown.nextRemaining, hd, Option.getD_some, Duration.inReach_iff, hnanos]
  omega

/-- The successor of a sound message is sound. -/
theorem successor (queue : String) (h : Timely least m) (hc : tracked m = some c)
    (hexh : c.isExhausted = false) (hnow : now.InWindow least)
    (hleap : now.nanos < nanosPerSecond) :
    Timely least (c.successor m queue now).message := by
  obtain ⟨c', sent, hread, hremaining, hincrement, hpositive, hsent, hsentLeap, hge⟩ :=
    h.countdown
  obtain rfl : c' = c := by simpa [tracked, hread] using hc
  have hleft := c'.isExhausted_eq_false_iff.1 hexh
  have hnext := Countdown.nanos_increment_next c' now (Int.le_of_lt hpositive)
  have hpos : 0 < c'.increment.nanos := hpositive
  rw [Duration.inReach_iff] at hincrement
  have hreach := inReach_nextRemaining hremaining hexh hsent hsentLeap hge hnow hleap
  -- the next delay is no longer than what is left, so it is in reach as well
  refine of_write h.isControl ⟨hreach, ?_, ?_, fun t ht => ?_⟩ rfl hnow hleap
  · rw [Duration.inReach_iff] at hremaining ⊢
    omega
  · rw [Span.lt_def, Span.nanos_zero, hnext]
    omega
  · obtain rfl := Option.some.inj ht
    exact hnow.year

/-- The control message of a session is sound. -/
theorem announcement {s : Session.Outboxed} {o : Session.Opened} (hopening : o.opening.Fits64)
    (hvalid : o.opening.validate = .ok ())
    (hcountdown : Countdown.initial o.sessionId o.opening.commitBudget o.opening.firstDelay none =
      .ok o.countdown)
    (hnow : now.InWindow least) (hleap : now.nanos < nanosPerSecond) :
    Timely least (s.announcement o now).message ∧
      (s.announcement o now).message.id = o.sessionId :=
  ⟨of_write (Countdown.isControl_marked _ _) (o.writable hopening hvalid hcountdown hnow.year) rfl
    hnow hleap, (Countdown.nanos_initial hcountdown).1⟩

end Timely

/-- The terms of sessions and workers on one queue. -/
def Terms.timely (store queue : String) (least : Int) : Terms where
  store := store
  address a := a = queue
  opening o := o.Fits64
  time t := t.InWindow least ∧ t.nanos < nanosPerSecond
  reliable := True
  sound := Timely least
  isControl_of_sound h := h.isControl
  tracked_of_sound h := by
    obtain ⟨c, -, hread, -⟩ := h.countdown
    simp [tracked, hread]
  sound_successor queue h hc hexh hnow := h.successor queue hc hexh hnow.1 hnow.2
  reliable_of_sound _ := trivial

end Outbox
