import Outbox.Proofs.Retry.Successor
import Outbox.Proofs.Runs
import Outbox.World

/-!
# What is decided about a message without a record

A message that carries a countdown is given up when its budget is used up, and nothing is sent then.
Otherwise one message takes its place: the same message with the next countdown in its headers, held
back for a time that is never nothing. What is told depends on whether the transport takes it.

* `Countdown.succeeds_successor`  what the message is that takes the place of another
* `judged_exactly`                all that is called, and the verdict
-/

namespace Outbox

open Program Time

/-- The operation puts a message with the next countdown in the place of `m`, which carries the
countdown `c`: on its own, to the processor, and held back for twice the delay or for all that is left
of the budget. The countdown and the time sent are new in its headers, and nothing else is. -/
structure Shipment.Succeeds (op : Shipment) (m : Message) (c : Countdown) (queue : String)
    (now : Instant) : Prop where
  id : op.message.id = m.id
  body : op.message.body = m.body
  isolated : op.isolated = true
  destination : op.destination = .queue queue
  delay : ∃ n : Nat, op.delay = some n ∧ 0 < n ∧
    (n : Int) = min (2 * c.increment.nanos) c.remaining.nanos
  increment : ∃ d : Span, op.message.header? Headers.increment = some (Duration.format d) ∧
    d.nanos = min (2 * c.increment.nanos) c.remaining.nanos
  remaining : ∃ d : Span, op.message.header? Headers.remaining = some (Duration.format d) ∧
    d.nanos = c.remaining.nanos - c.elapsed now
  attempt : op.message.header? Headers.attempt =
    some (Nat.repr (min (c.attempt.toNat + 1) 0xFFFFFFFF))
  timeSent : op.message.header? Headers.timeSent = some (Timestamp.format now)
  others : ∀ name ∉ Headers.ofCountdown, op.message.header? name = m.header? name

namespace Countdown

variable {c : Countdown}

/-- The delay of a successor is above zero, so it is what the countdown says. -/
theorem toInt_delay_next (hpositive : Span.zero < c.increment) (hleft : c.isExhausted = false)
    (now : Instant) :
    ((c.next now).delay : Int) = min (2 * c.increment.nanos) c.remaining.nanos := by
  have hnext := increment_next_pos hpositive hleft now
  rw [← nanos_increment_next c now (Int.le_of_lt hpositive)]
  exact Int.toNat_of_nonneg (Int.le_of_lt hnext)

/-- The successor succeeds a message whose countdown has some budget left. -/
theorem succeeds_successor (m : Message) (queue : String) (hpositive : Span.zero < c.increment)
    (hleft : c.isExhausted = false) (now : Instant) :
    (c.successor m queue now).Succeeds m c queue now where
  id := rfl
  body := rfl
  isolated := rfl
  destination := rfl
  delay := by
    have hdelay := toInt_delay_next hpositive hleft now
    have hbudget := c.isExhausted_eq_false_iff.1 hleft
    have hincrement : 0 < c.increment.nanos := hpositive
    exact ⟨_, rfl, by omega, hdelay⟩
  increment := ⟨_, getElem?_write_increment (c.next now) m.headers,
    nanos_increment_next c now (Int.le_of_lt hpositive)⟩
  remaining := ⟨_, getElem?_write_remaining (c.next now) m.headers,
    nanos_nextRemaining_of_left hpositive hleft now⟩
  attempt := by
    rw [← toNat_nextAttempt]
    exact getElem?_write_attempt (c.next now) m.headers
  timeSent := getElem?_write_timeSent (c.next now) m.headers
  others _ hname := getElem?_write_of_notMem (c.next now) m.headers hname

end Countdown

/-- All that is called for a message with the countdown `c`, and the verdict on it. -/
inductive Decision (queue : String) (m : Message) (c : Countdown) (now : Instant) :
    List Exchange → Verdict → Prop
  /-- The budget is used up. -/
  | gaveUp : c.isExhausted = true →
      Decision queue m c now [⟨.observe ⟨.gaveUp, c.sessionId, c.attempt⟩, ()⟩] .gaveUp
  /-- The transport has taken a successor. -/
  | retried (op : Shipment) : c.isExhausted = false → op.Succeeds m c queue now →
      Decision queue m c now
        [⟨.dispatch [op], .ok ()⟩, ⟨.observe ⟨.retried, c.sessionId, c.attempt⟩, ()⟩] .retried
  /-- The transport has not taken it, which is not told. -/
  | failed (op : Shipment) (e : DispatchError) : c.isExhausted = false →
      op.Succeeds m c queue now → Decision queue m c now [⟨.dispatch [op], .error e⟩] (.failed e)

variable {m : Message} {c : Countdown}

/-- What is decided about a message out of which a countdown was read, whatever the transport replies
and at any reading of the clock. -/
theorem judged_exactly (hread : Countdown.read m = .ok (some c)) (queue : String) (now : Instant)
    {σ : Type} (answer : {β : Type} → Call β → σ → β × σ) (s : σ) :
    Decision queue m c now ((judge queue true m (some c) now).trace answer s)
      ((judge queue true m (some c) now).run answer s).1 := by
  -- a countdown that was read has a delay above zero, so its successor is in order
  have hpositive := (Countdown.of_read hread).positive
  cases hleft : c.isExhausted with
  | true =>
    rw [judge_of_exhausted hleft]
    exact .gaveUp hleft
  | false =>
    have hop := Countdown.succeeds_successor m queue hpositive hleft now
    rw [judge_of_left hleft, trace, run_call]
    -- the transport decides whether the successor counts
    cases (answer (.dispatch [c.successor m queue now]) s).1 with
    | ok _ => exact .retried _ hleft hop
    | error e => exact .failed _ e hleft hop

/-- A world whose transport rejects what it is handed next. -/
def brokerDown : World where
  clock := { start := Countdown.noon }
  transport := ({} : Transport).rejectNext "broker down"

/-- A countdown that was sent half a minute before noon. -/
def halfMinuteOld : Countdown := .sentAt Countdown.beforeNoon

/-- How its control message is judged at noon. -/
def judgedAtNoon : Program Verdict :=
  judge "processor" true (controlMessage halfMinuteOld ∅) (some halfMinuteOld) Countdown.noon

/-- At noon half a minute of the budget is gone, and the broker rejects the successor. -/
theorem judged_exactly_brokerDown :
    Countdown.read (controlMessage halfMinuteOld ∅) = .ok (some halfMinuteOld) ∧
    ∃ op : Shipment,
      op.Succeeds (controlMessage halfMinuteOld ∅) halfMinuteOld "processor" Countdown.noon ∧
      judgedAtNoon.trace (World.answer false) brokerDown =
        [⟨.dispatch [op], .error (.rejected "broker down")⟩] ∧
      (judgedAtNoon.run (World.answer false) brokerDown).1 =
        .failed (.rejected "broker down") := by
  have hread : Countdown.read (controlMessage halfMinuteOld ∅) = .ok (some halfMinuteOld) :=
    Countdown.read_sentAt (by decide) (by decide)
  have hdecision : Decision "processor" (controlMessage halfMinuteOld ∅) halfMinuteOld
      Countdown.noon (judgedAtNoon.trace (World.answer false) brokerDown)
      (judgedAtNoon.run (World.answer false) brokerDown).1 :=
    judged_exactly hread "processor" Countdown.noon (World.answer false) brokerDown
  -- played once, the verdict is that of a failure
  have hverdict : (judgedAtNoon.run (World.answer false) brokerDown).1 =
      .failed (.rejected "broker down") := by
    decide
  -- of the three decisions only one comes with this verdict
  rw [hverdict] at hdecision
  generalize judgedAtNoon.trace (World.answer false) brokerDown = calls at hdecision ⊢
  cases hdecision with
  | failed op _ _ hop => exact ⟨hread, op, hop, rfl, hverdict⟩

end Outbox
