import Outbox.Program
import Outbox.Retry.Header

/-!
# Retrying with delay

What happens to a control message for which there is no record yet. As long as there is budget a
successor is sent to the processor, delayed, and with the countdown of the next attempt; when the
budget is used up the session is given up. Both are told as outcomes, but a successor that the
transport does not take is not.

* `judge_of_exhausted`, `judge_of_left`  the two verdicts on a message that carries a countdown
-/

namespace Outbox

/-- What became of a delivery. -/
inductive Verdict where
  /-- The message carries no countdown: go on with it. -/
  | goOn
  /-- The budget is used up. -/
  | gaveUp
  /-- A delayed successor is on its way. -/
  | retried
  | failed (error : DispatchError)
deriving DecidableEq, Repr

namespace Countdown

/-- The outcome of a delivery with this countdown. -/
def outcome (c : Countdown) (kind : OutcomeKind) : Outcome := ⟨kind, c.sessionId, c.attempt⟩

/-- The delay of a successor with this countdown, in nanoseconds; none if it would be negative. -/
def delay (c : Countdown) : Nat := c.increment.nanos.toNat

/-- The successor of a message: the message itself with the next countdown. -/
def successor (c : Countdown) (m : Message) (queue : String) (now : Time.Instant) : Shipment where
  message := { m with headers := (c.next now).write m.headers }
  destination := .queue queue
  delay := some (c.next now).delay
  isolated := true

end Countdown

/-- Tells an outcome, if there is anyone to tell. -/
def report (reports : Bool) (o : Outcome) : Program Unit :=
  if reports then .ask (.observe o) else return

/-- Retries or gives up at a reading of the clock. -/
def judge (queue : String) (reports : Bool) (m : Message) (countdown : Option Countdown)
    (now : Time.Instant) : Program Verdict :=
  match countdown with
  | none => return .goOn
  | some c =>
    if c.isExhausted then do
      -- told before the id is blocked, which is for the caller to do
      report reports (c.outcome .gaveUp)
      return .gaveUp
    else do
      match ← .ask (.dispatch [c.successor m queue now]) with
      | .error e => return .failed e
      | .ok () =>
        report reports (c.outcome .retried)
        return .retried

section

variable {queue : String} {reports : Bool} {m : Message} {c : Countdown} {now : Time.Instant}

/-- A budget that is used up is told, and the session is given up. -/
theorem judge_of_exhausted (h : c.isExhausted = true) :
    judge queue reports m (some c) now = (do
      report reports (c.outcome .gaveUp)
      return .gaveUp) := if_pos h

/-- As long as there is budget a successor is handed over, and it is told when it was accepted. -/
theorem judge_of_left (h : c.isExhausted = false) :
    judge queue reports m (some c) now =
      .call (.dispatch [c.successor m queue now]) fun
        | .error e => .done (.failed e)
        | .ok () => do
          report reports (c.outcome .retried)
          return .retried := if_neg (Bool.eq_false_iff.1 h)

end

end Outbox
