import Outbox.Error
import Outbox.Message.Basic
import Outbox.Retry.Countdown
import Outbox.Time.Duration
import Outbox.Time.Timestamp

/-!
# Countdowns as headers

A control message carries its countdown in three headers of its own and in the time at which it
was sent. `Countdown.write` puts one into headers, `Countdown.read` takes it out of a message, and
`controlMessage` makes the message without a body that announces a session.

Of several faults in one message the first in this order is reported: a missing header, the
attempt, the time sent, the remaining budget, the delay.
-/

namespace Outbox

open Time

/-- Reads a duration header. -/
def readDuration (text : String) : Except HeaderError Span :=
  match Duration.parse? text.toList with
  | some d => .ok d
  | none => .error (.badDuration text)

/-- Reads a time header. -/
def readTimestamp (text : String) : Except HeaderError Instant :=
  match Timestamp.parse? text.toList with
  | some t => .ok t
  | none => .error (.badTimestamp text)

/-- The number that digits denote, with or without a plus in front, if it has 32 bits. -/
def parseAttempt? (s : List Char) : Option UInt32 :=
  let digits := match s with
    | '+' :: rest => rest
    | s => s
  if digits.isEmpty || !digits.all Char.isDigit then none
  else
    -- the digits have no bound, their value has
    let n := Nat.ofDigitChars 10 digits 0
    if n < UInt32.size then some (UInt32.ofNat n) else none

/-- Reads an attempt header, blanks around it aside. -/
def readAttempt (text : String) : Except HeaderError UInt32 :=
  match parseAttempt? (Text.trim text.toList) with
  | some n => .ok n
  | none => .error (.badAttempt text)

namespace Countdown

/-- The countdown of the first control message of a session, unless a duration is no span. -/
def initial (sessionId : String) (maximum increment : Nat) (timeSent : Option Instant) :
    Except HeaderError Countdown :=
  match initial? sessionId maximum increment timeSent with
  | some c => .ok c
  | none => .error .tooLong

/-- Writes the countdown into headers, over what they held before. -/
def write (c : Countdown) (headers : Headers) : Headers :=
  let headers := headers.insert Headers.remaining (Duration.format c.remaining)
  let headers := headers.insert Headers.increment (Duration.format c.increment)
  let headers := headers.insert Headers.attempt (Nat.repr c.attempt.toNat)
  match c.timeSent with
  | some sent => headers.insert Headers.timeSent (Timestamp.format sent)
  -- a countdown that does not say when it was sent leaves no older time behind
  | none => headers.erase Headers.timeSent

/-- The countdown of a message that carries both durations. -/
def readFields (m : Message) (remaining increment : String) : Except HeaderError Countdown := do
  -- without a number it is the first attempt
  let attempt ← match m.header? Headers.attempt with
    | some text => readAttempt text
    | none => pure 1
  let timeSent ← match m.header? Headers.timeSent with
    | some text => (readTimestamp text).map some
    | none => pure none
  let remaining ← readDuration remaining
  let delay ← readDuration increment
  -- a delay that does not run forward would have the message come back at once
  if delay ≤ Span.zero then throw (.badDuration increment)
  return { sessionId := m.id, attempt, remaining, increment := delay, timeSent }

/-- The countdown that a message carries, if it carries one. -/
def read (m : Message) : Except HeaderError (Option Countdown) :=
  match m.header? Headers.remaining, m.header? Headers.increment with
  | none, none => .ok none
  | none, some _ => .error (.missing Headers.remaining)
  | some _, none => .error (.missing Headers.increment)
  | some remaining, some increment => (readFields m remaining increment).map some

end Countdown

/-- The message that announces a session: the caller's metadata, with the id, the marker and the
countdown written over it, and no body. -/
def controlMessage (c : Countdown) (metadata : Headers) : Message where
  id := c.sessionId
  headers := c.write
    ((metadata.insert Headers.messageId c.sessionId).insert Headers.controlMessage "true")

end Outbox
