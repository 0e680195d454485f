import Outbox.Proofs.Written.Duration
import Outbox.Proofs.Written.Timestamp
import Outbox.Retry.Header

/-!
# Countdowns are read back

A countdown that was written into headers is read out of them again, whatever else the headers
hold. Of the time sent the microseconds are kept.

* `Countdown.getElem?_write`  what the headers hold afterwards
* `Countdown.read_write_eq`   what is read out of them, or which duration makes them malformed
* `Countdown.read_write`      a countdown that fits is read as it was written
-/

namespace Outbox

open Time Written

/-- A text of digits is read as the attempt it denotes, if that fits. -/
theorem parseAttempt?_digits {s : List Char} (hne : s ≠ [])
    (hdigits : ∀ c ∈ s, c.isDigit = true) (hlt : Nat.ofDigitChars 10 s 0 < UInt32.size) :
    parseAttempt? s = some (UInt32.ofNat (Nat.ofDigitChars 10 s 0)) := by
  cases s with
  | nil => exact absurd rfl hne
  | cons c rest =>
    -- a digit is not a plus
    have hplus : c ≠ '+' := by
      rintro rfl
      exact absurd (hdigits '+' List.mem_cons_self) (by decide)
    have hall : (c :: rest).all Char.isDigit = true := List.all_eq_true.2 hdigits
    unfold parseAttempt?
    split
    · next heq => exact absurd (List.cons.inj heq).1 hplus
    · simp only [List.isEmpty_cons, hall, Bool.not_true, Bool.or_self, Bool.false_eq_true,
        if_false, if_pos hlt]

/-- An attempt is read as it was written. -/
theorem readAttempt_repr (n : UInt32) : readAttempt (Nat.repr n.toNat) = .ok n := by
  have htrim : Text.trim (Nat.toDigits 10 n.toNat) = Nat.toDigits 10 n.toNat := by
    refine Text.trim_of_bare (fun c hc => ?_) fun c hc => ?_
    · exact isBlank_of_isDigit (isDigit_of_mem_toDigits (List.mem_of_head? hc))
    · exact isBlank_of_isDigit (isDigit_of_mem_toDigits (List.mem_of_getLast? hc))
  have hparse := parseAttempt?_digits (s := Nat.toDigits 10 n.toNat) (by simp)
    (fun _ => isDigit_of_mem_toDigits) (by simpa using n.toNat_lt)
  simp only [Nat.ofDigitChars_ten_toDigits, UInt32.ofNat_toNat] at hparse
  simp only [readAttempt, Nat.toList_repr, htrim, hparse]

/-- What is read as a duration is within reach. -/
theorem inReach_of_readDuration {text : String} {d : Span} (h : readDuration text = .ok d) :
    Duration.inReach d.nanos = true := by
  unfold readDuration at h
  split at h
  · next d' hparse =>
    obtain rfl := Except.ok.inj h
    exact Duration.inReach_of_parse? hparse
  · exact nomatch h

/-- A written span is read as it was, or it is too long to be read. -/
theorem readDuration_format (d : Span) : readDuration (Duration.format d) =
    if Duration.inReach d.nanos then .ok d else .error (.badDuration (Duration.format d)) := by
  unfold readDuration
  rw [Duration.format, String.toList_ofList]
  cases h : Duration.inReach d.nanos with
  | true => rw [Duration.parse?_render h, if_pos rfl]
  | false => rw [Duration.parse?_render_eq_none h, if_neg Bool.false_ne_true]

/-- A time of a year with four digits is read back to the microsecond. -/
theorem readTimestamp_format {t : Instant} (hyear : 0 ≤ t.year ∧ t.year ≤ 9999) :
    readTimestamp (Timestamp.format t) = .ok t.toMicros := by
  simp only [readTimestamp, Timestamp.format, String.toList_ofList, Timestamp.parse?_render hyear]

/-- The names of the headers that hold a countdown. -/
def Headers.ofCountdown : List String :=
  [Headers.remaining, Headers.increment, Headers.attempt, Headers.timeSent]

namespace Countdown

/-- What a countdown must be like for headers to hold it. -/
structure Writable (c : Countdown) : Prop where
  remaining : Duration.inReach c.remaining.nanos = true
  increment : Duration.inReach c.increment.nanos = true
  positive : Span.zero < c.increment
  timeSent : ∀ t, c.timeSent = some t → 0 ≤ t.year ∧ t.year ≤ 9999

variable {c : Countdown}

/-- What the headers hold once a countdown has been written into them. -/
theorem getElem?_write (c : Countdown) (headers : Headers) (name : String) :
    (c.write headers)[name]? =
      if Headers.timeSent = name then c.timeSent.map Timestamp.format
      else if Headers.attempt = name then some (Nat.repr c.attempt.toNat)
      else if Headers.increment = name then some (Duration.format c.increment)
      else if Headers.remaining = name then some (Duration.format c.remaining)
      else headers[name]? := by
  unfold write
  cases c.timeSent with
  | none => simp [Std.ExtTreeMap.getElem?_insert, Std.ExtTreeMap.getElem?_erase]
  | some t => simp [Std.ExtTreeMap.getElem?_insert]

section

variable (c : Countdown) (headers : Headers)

/-- The remaining budget is under its header. -/
theorem getElem?_write_remaining :
    (c.write headers)[Headers.remaining]? = some (Duration.format c.remaining) := by
  rw [getElem?_write]
  rfl

/-- So is the increment. -/
theorem getElem?_write_increment :
    (c.write headers)[Headers.increment]? = some (Duration.format c.increment) := by
  rw [getElem?_write]
  rfl

/-- So is the attempt, as a numeral. -/
theorem getElem?_write_attempt :
    (c.write headers)[Headers.attempt]? = some (Nat.repr c.attempt.toNat) := by
  rw [getElem?_write]
  rfl

/-- So is the time sent, and without one its header is absent. -/
theorem getElem?_write_timeSent :
    (c.write headers)[Headers.timeSent]? = c.timeSent.map Timestamp.format := by
  rw [getElem?_write]
  rfl

/-- All other headers stay. -/
theorem getElem?_write_of_notMem {name : String} (h : name ∉ Headers.ofCountdown) :
    (c.write headers)[name]? = headers[name]? := by
  simp only [Headers.ofCountdown, List.mem_cons, List.not_mem_nil, or_false, not_or] at h
  obtain ⟨hremaining, hincrement, hattempt, htimeSent⟩ := h
  rw [getElem?_write, if_neg (Ne.symm htimeSent), if_neg (Ne.symm hattempt),
    if_neg (Ne.symm hincrement), if_neg (Ne.symm hremaining)]

end

/-- Writing a countdown makes no control message of a message that is none, and unmakes none. -/
theorem isControl_write (m : Message) (c : Countdown) :
    Message.isControl { m with headers := c.write m.headers } = m.isControl := by
  have hmarker : (c.write m.headers)[Headers.controlMessage]? = m.headers[Headers.controlMessage]? :=
    getElem?_write_of_notMem c m.headers (by decide)
  simp only [Message.isControl, Message.header?, hmarker]

/-- The marker makes a control message, whatever the caller's metadata. -/
theorem isControl_marked (id : String) (metadata : Headers) :
    Message.isControl
      { id, headers := (metadata.insert Headers.messageId id).insert Headers.controlMessage "true" }
      = true := by
  simp only [Message.isControl, Message.header?, Std.ExtTreeMap.getElem?_insert_self]
  rfl

/-- An attempt and a time sent that were written are read, so it is up to the durations. -/
theorem read_write_bind (headers : Headers) (m : Message)
    (hyear : ∀ t, c.timeSent = some t → 0 ≤ t.year ∧ t.year ≤ 9999) :
    read { m with headers := c.write headers } = (do
      let remaining ← readDuration (Duration.format c.remaining)
      let delay ← readDuration (Duration.format c.increment)
      if delay ≤ Span.zero then .error (.badDuration (Duration.format c.increment))
      else
        let timeSent := c.timeSent.map Instant.toMicros
        .ok (some { c with sessionId := m.id, remaining, increment := delay, timeSent })) := by
  -- every field is read without an error, so the readers are passed through one by one
  have hok : ∀ {ε α β : Type} (a : α) (f : α → Except ε β), Except.ok a >>= f = f a :=
    fun _ _ => rfl
  unfold read readFields
  simp only [Message.header?, getElem?_write_remaining, getElem?_write_increment,
    getElem?_write_attempt, getElem?_write_timeSent, readAttempt_repr, hok]
  cases hsent : c.timeSent
  case' none => rw [Option.map_none]
  case' some t => simp only [Option.map_some, readTimestamp_format (hyear t hsent)]
  all_goals
    cases readDuration (Duration.format c.remaining) with
    | error e => rfl
    | ok remaining =>
      cases readDuration (Duration.format c.increment) with
      | error e => rfl
      | ok delay =>
        simp only [hok, Option.map_none]
        split <;> rfl

/-- How headers read that hold a countdown: as it was written, up to the microsecond of the time
sent, unless one of the durations is out of reach or the delay is not above zero. -/
theorem read_write_eq (headers : Headers) (m : Message)
    (hyear : ∀ t, c.timeSent = some t → 0 ≤ t.year ∧ t.year ≤ 9999) :
    read { m with headers := c.write headers } =
      if Duration.inReach c.remaining.nanos = true ∧ Duration.inReach c.increment.nanos = true ∧
          Span.zero < c.increment then
        .ok (some { c with sessionId := m.id, timeSent := c.timeSent.map Instant.toMicros })
      else .error (.badDuration (Duration.format
        (if Duration.inReach c.remaining.nanos then c.increment else c.remaining))) := by
  rw [read_write_bind headers m hyear, readDuration_format, readDuration_format]
  -- the remaining budget is read first
  cases hremaining : Duration.inReach c.remaining.nanos with
  | false => simp [bind, Except.bind]
  | true =>
    cases hincrement : Duration.inReach c.increment.nanos with
    | false => simp [bind, Except.bind]
    | true =>
      by_cases hpositive : c.increment ≤ Span.zero
      · have hnot : ¬ Span.zero < c.increment := Int.not_lt.2 hpositive
        simp [bind, Except.bind, hpositive, hnot]
      · have hlt : Span.zero < c.increment := Int.not_le.1 hpositive
        simp [bind, Except.bind, hpositive, hlt]

/-- A countdown is read as it was written, up to the microsecond of the time sent. -/
theorem read_write (headers : Headers) (h : c.Writable) (m : Message) :
    read { m with headers := c.write headers } =
      .ok (some { c with sessionId := m.id, timeSent := c.timeSent.map Instant.toMicros }) := by
  rw [read_write_eq headers m h.timeSent, if_pos ⟨h.remaining, h.increment, h.positive⟩]

/-- A countdown whose remaining budget is out of reach cannot be read again. -/
theorem read_write_of_not_inReach (headers : Headers) (m : Message)
    (hyear : ∀ t, c.timeSent = some t → 0 ≤ t.year ∧ t.year ≤ 9999)
    (h : Duration.inReach c.remaining.nanos = false) :
    read { m with headers := c.write headers } =
      .error (.badDuration (Duration.format c.remaining)) := by
  have hnot := Bool.eq_false_iff.1 h
  rw [read_write_eq headers m hyear, if_neg (fun hfits => hnot hfits.1), if_neg hnot]

end Countdown

end Outbox
