import Outbox.Proofs.Announcing
import Outbox.Proofs.Retry.Announcement
import Outbox.Proofs.Retry.Chain

/-!
# Numbered messages

The control message of a session says of itself that it is the first, and every successor that it
is the next one.

* `Countdown.Numbered.announcement`  the first message
* `Countdown.Numbered.next`          the one after it
-/

namespace Outbox

open Time

/-- The number of the `n`-th attempt. It has 32 bits, and the greatest number stays. -/
def attemptNumber (n : Nat) : UInt32 := .ofNat (min n 0xFFFFFFFF)

/-- A number that no longer fits into 32 bits stays at the greatest. -/
theorem toNat_attemptNumber (n : Nat) : (attemptNumber n).toNat = min n 0xFFFFFFFF := by
  rw [attemptNumber, UInt32.toNat_ofNat_of_lt']
  exact Nat.lt_of_le_of_lt (Nat.min_le_right ..) (by decide)

/-- The next number is the number of the next delivery. -/
theorem nextAttempt_attemptNumber (n : Nat) :
    Countdown.nextAttempt (attemptNumber n) = attemptNumber (n + 1) := by
  apply UInt32.toNat_inj.1
  rw [Countdown.toNat_nextAttempt, toNat_attemptNumber, toNat_attemptNumber]
  omega

/-- The attempt header of a message has the number. -/
def Message.HasNumber (m : Message) (n : Nat) : Prop :=
  m.header? Headers.attempt = some (Nat.repr (attemptNumber n).toNat)

namespace Countdown

variable {least : Int} {n : Nat} {m : Message} {c : Countdown} {now : Instant}

/-- The message announces a session with this countdown, and it is the `n`-th to do so. -/
structure Numbered (least : Int) (n : Nat) (m : Message) (c : Countdown) : Prop
    extends Carried least m c where
  attempt : c.attempt = attemptNumber n
  header : m.HasNumber n

/-- The successor of a message is the next one. -/
theorem Numbered.next (h : Numbered least n m c) (queue : String) (hnow : now.InWindow least)
    (hleft : c.isExhausted = false) :
    Numbered least (n + 1) (c.successor m queue now).message (c.passOn now) := by
  -- a delivery without a record schedules the successor, and that carries the countdown on
  have hschedules : Receiver.Schedules { store := "", address := queue } m now
      (c.successor m queue now) :=
    (Receiver.schedules_iff h.isControl).2 ⟨c, h.tracked_eq, hleft, rfl⟩
  have hattempt : (c.passOn now).attempt = attemptNumber (n + 1) := by
    show nextAttempt c.attempt = _
    rw [h.attempt, nextAttempt_attemptNumber]
  refine ⟨(h.toCarried.step hnow hschedules).2.1, hattempt, ?_⟩
  rw [Message.HasNumber, ← hattempt]
  -- the header is written from the number and not from what the message said before
  exact getElem?_write_attempt (c.next now) m.headers

/-- The control message of a session is the first one. -/
theorem Numbered.announcement {s : Session.Outboxed} {o : Session.Opened} (ho : o.Regular)
    (hfits : o.opening.Fits64) (hnow : now.InWindow least) :
    Numbered least 1 (s.announcement o now).message
      { o.countdown with timeSent := some now.toMicros } := by
  have hattempt : o.countdown.attempt = attemptNumber 1 := attempt_initial ho.countdown
  refine ⟨.announcement hfits ho.valid ho.countdown hnow, hattempt, ?_⟩
  rw [Message.HasNumber, ← hattempt]
  exact getElem?_write_attempt { o.countdown with timeSent := some now } _

end Countdown

end Outbox
