import Outbox.Proofs.Retry.Budget
import Outbox.Proofs.Written.Countdown
import Outbox.Retry.Verdict

/-!
# Successors are read back

A delivery without a record sends a successor of its message, and the next delivery has to read the
countdown out of it. Whatever was read can be written and read again, but for one figure: the budget
goes below zero by all the time since the message was sent, and what is longer than a signed 64-bit
number of nanoseconds is written but not read.

* `Countdown.of_read`         what holds of a countdown that was read
* `Countdown.read_successor`  how a successor reads
-/

namespace Outbox

open Time

/-- When a computation that may fail is followed by another one. -/
theorem bind_eq_ok_iff {ε α β : Type} {x : Except ε α} {f : α → Except ε β} {b : β} :
    x >>= f = .ok b ↔ ∃ a, x = .ok a ∧ f a = .ok b := by
  cases x <;> simp [bind, Except.bind]

namespace Countdown

variable {m : Message} {c : Countdown} {now : Instant}

/-- What holds of a countdown that was read out of a message. -/
structure ReadFrom (c : Countdown) (m : Message) : Prop where
  sessionId : c.sessionId = m.id
  remaining : Duration.inReach c.remaining.nanos = true
  increment : Duration.inReach c.increment.nanos = true
  positive : Span.zero < c.increment

/-- A countdown that is read from the fields of a message has the properties that reading grants. -/
theorem of_readFields {remaining increment : String}
    (h : readFields m remaining increment = .ok c) : c.ReadFrom m := by
  unfold readFields at h
  dsimp only at h
  -- whether there is an attempt or a time sent makes no difference
  split at h
  all_goals
    obtain ⟨attempt, -, h⟩ := bind_eq_ok_iff.1 h
    split at h
    all_goals
      obtain ⟨timeSent, -, h⟩ := bind_eq_ok_iff.1 h
      obtain ⟨left, hleft, h⟩ := bind_eq_ok_iff.1 h
      obtain ⟨delay, hdelay, h⟩ := bind_eq_ok_iff.1 h
      -- the last check refuses a delay that is not above zero
      split at h
      · exact nomatch h
      · next hpositive =>
        obtain rfl := Except.ok.inj h
        exact ⟨rfl, inReach_of_readDuration hleft, inReach_of_readDuration hdelay,
          Int.not_le.1 hpositive⟩

/-- So has one that is read from the message. -/
theorem of_read (h : read m = .ok (some c)) : c.ReadFrom m := by
  unfold read at h
  -- without both durations there is no countdown, or the message is refused
  split at h
  · exact nomatch h
  · exact nomatch h
  · exact nomatch h
  · next remaining increment _ _ =>
    cases hfields : readFields m remaining increment with
    | error e =>
      rw [hfields] at h
      exact nomatch h
    | ok c' =>
      rw [hfields] at h
      obtain rfl := Option.some.inj (Except.ok.inj h)
      exact of_readFields hfields

/-- How the countdown of a successor reads: of the time sent the whole microseconds are kept. -/
def passOn (c : Countdown) (now : Instant) : Countdown :=
  { c.next now with timeSent := some now.toMicros }

/-- The budget stays in reach unless it is overdrawn by more than a header can hold. -/
theorem inReach_nextRemaining_iff (hremaining : Duration.inReach c.remaining.nanos = true)
    (helapsed : 0 ≤ c.elapsed now) : Duration.inReach (c.nextRemaining now).nanos = true ↔
      c.elapsed now ≤ c.remaining.nanos + 9223372036854775808 := by
  -- the end of the spans is out of reach
  have hlimit : Span.limit = 9223372036854775807000000 := rfl
  have hnext := nanos_nextRemaining helapsed
  simp only [Duration.inReach, decide_eq_true_eq] at hremaining ⊢
  omega

/-- The delay of a successor is in reach and above zero, as it is no longer than the budget. -/
theorem ReadFrom.nextIncrement (h : c.ReadFrom m) (hleft : c.isExhausted = false) :
    Duration.inReach c.nextIncrement.nanos = true ∧ Span.zero < c.nextIncrement := by
  -- the delay of the successor is capped by what is left, and that was read from a header
  have hpositive : Span.zero < c.nextIncrement := increment_next_pos h.positive hleft default
  have hle : c.nextIncrement ≤ c.remaining := increment_next_le h.positive default
  have hreach := h.remaining
  rw [Duration.inReach_iff] at hreach ⊢
  rw [Span.le_def] at hle
  rw [Span.lt_def, Span.nanos_zero] at hpositive ⊢
  omega

/-- The time sent of a successor lies in the years that can be written. -/
theorem year_of_next (hyear : 0 ≤ now.year ∧ now.year ≤ 9999) {t : Instant}
    (ht : (c.next now).timeSent = some t) : 0 ≤ t.year ∧ t.year ≤ 9999 := by
  obtain rfl := Option.some.inj ht
  exact hyear

/-- Unless the budget is overdrawn by more than a header can hold, a successor reads as the next
countdown. -/
theorem read_successor_of_le (queue : String) (hread : read m = .ok (some c))
    (hleft : c.isExhausted = false) (hyear : 0 ≤ now.year ∧ now.year ≤ 9999)
    (hle : c.elapsed now ≤ c.remaining.nanos + 9223372036854775808) :
    read (c.successor m queue now).message = .ok (some (c.passOn now)) := by
  have hfrom := of_read hread
  obtain ⟨hincrement, hpositive⟩ := hfrom.nextIncrement hleft
  have hreach := (inReach_nextRemaining_iff hfrom.remaining
    (elapsed_nonneg now hfrom.positive)).2 hle
  -- the message has the id of the session that its countdown is for
  have hself : { c.next now with sessionId := m.id, timeSent := some now.toMicros } =
      c.passOn now := by
    rw [← hfrom.sessionId]
    rfl
  rw [← hself]
  exact read_write m.headers ⟨hreach, hincrement, hpositive, fun _ => year_of_next hyear⟩ m

/-- How a successor reads: as the next countdown, or, when the budget is overdrawn by more than a
header can hold, not at all. -/
theorem read_successor (queue : String) (hread : read m = .ok (some c))
    (hleft : c.isExhausted = false) (hyear : 0 ≤ now.year ∧ now.year ≤ 9999) :
    read (c.successor m queue now).message =
      if c.elapsed now ≤ c.remaining.nanos + 9223372036854775808 then .ok (some (c.passOn now))
      else .error (.badDuration (Duration.format (c.nextRemaining now))) := by
  -- nothing but the remaining budget can have left the reach of a header
  have hfrom := of_read hread
  have hiff := inReach_nextRemaining_iff hfrom.remaining (elapsed_nonneg now hfrom.positive)
  split
  · next hle => exact read_successor_of_le queue hread hleft hyear hle
  · next hgt =>
    exact read_write_of_not_inReach m.headers m (fun _ => year_of_next hyear)
      (Bool.eq_false_iff.2 (mt hiff.1 hgt))

/-! ### A countdown that was sent just now, and one that was sent long ago -/

/-- A countdown with 15 s left, sent at the given time. -/
def sentAt (t : Instant) : Countdown where
  sessionId := "session"
  attempt := 1
  remaining := { nanos := 15000000000 }
  increment := { nanos := 2000000000 }
  timeSent := some t

/-- Noon of the first of May 2024. -/
def noon : Instant := .ofNanos 1714564800000000000

/-- Half a minute before noon. -/
def beforeNoon : Instant := .ofNanos 1714564770000000000

/-- The start of the year 1. -/
def yearOne : Instant := .ofNanos (-62135596800000000000)

/-- A countdown that was sent at a full microsecond is read back as it is. -/
theorem read_sentAt {t : Instant} (hyear : 0 ≤ t.year ∧ t.year ≤ 9999)
    (hmicros : t.toMicros = t) : read (controlMessage (sentAt t) ∅) = .ok (some (sentAt t)) := by
  have hpositive : Span.zero < (sentAt t).increment := by
    simp only [Span.lt_def, sentAt]
    decide
  -- all that is written is in reach, and the time sent has a year of four digits
  have hwritable : (sentAt t).Writable := by
    refine ⟨rfl, rfl, hpositive, fun t' ht' => ?_⟩
    obtain rfl := Option.some.inj ht'
    exact hyear
  have hread := read_write ((∅ : Headers).insert Headers.messageId "session" |>.insert
    Headers.controlMessage "true") hwritable { id := "session" }
  simp only [sentAt, Option.map_some, hmicros] at hread
  exact hread

/-- Half a minute after it was sent the countdown is passed on, and it reads as exhausted. -/
theorem read_successor_beforeNoon :
    read (controlMessage (sentAt beforeNoon) ∅) = .ok (some (sentAt beforeNoon)) ∧
    (sentAt beforeNoon).isExhausted = false ∧ (0 ≤ noon.year ∧ noon.year ≤ 9999) ∧
    read ((sentAt beforeNoon).successor (controlMessage (sentAt beforeNoon) ∅) "processor"
      noon).message = .ok (some ((sentAt beforeNoon).passOn noon)) ∧
    ((sentAt beforeNoon).passOn noon).remaining.nanos = -15000000000 := by
  have hread := read_sentAt (t := beforeNoon) (by decide) (by decide)
  have hyear : 0 ≤ noon.year ∧ noon.year ≤ 9999 := by decide
  refine ⟨hread, by decide, hyear, ?_, by decide⟩
  rw [read_successor "processor" hread (by decide) hyear, if_pos (by decide)]

/-- A message that says it was sent in the year 1 has a successor that cannot be read. -/
theorem unreadable_successor_yearOne :
    read (controlMessage (sentAt yearOne) ∅) = .ok (some (sentAt yearOne)) ∧
    (sentAt yearOne).isExhausted = false ∧ (0 ≤ noon.year ∧ noon.year ≤ 9999) ∧
    read ((sentAt yearOne).successor (controlMessage (sentAt yearOne) ∅) "processor"
      noon).message = .error (.badDuration "-PT63850161585S") := by
  have hyear : 0 ≤ noon.year ∧ noon.year ≤ 9999 := by decide
  refine ⟨read_sentAt (by decide) (by decide), by decide, hyear, ?_⟩
  have hwritten : Duration.format ((sentAt yearOne).next noon).remaining = "-PT63850161585S" := by
    decide
  rw [← hwritten]
  exact read_write_of_not_inReach _ _ (fun _ => year_of_next hyear) (by decide)

end Countdown

end Outbox
