import Outbox.Config.Basic
import Outbox.Message.Headers
import Outbox.Session.Bag
import Outbox.Store.Database
import Outbox.Text.Blank
import Outbox.Time.Span

/-!
# Opening a session

What a caller says when it opens a session: an id, the commit budget and the first delay,
metadata for the control message, hints for the store, and a bag of values of its own.
-/

namespace Outbox

/-- What a caller says when it opens a session. Durations are in nanoseconds. -/
structure Opening where
  sessionId : Option String := none
  commitBudget : Nat := ({} : Config).commitBudget
  firstDelay : Nat := ({} : Config).firstDelay
  /-- Headers for the control message. -/
  metadata : Headers := ∅
  bag : Bag := {}
  hints : Hints := {}

namespace Opening

/-- An opening with the durations of a configuration. -/
def ofConfig (c : Config) : Opening where
  commitBudget := c.commitBudget
  firstDelay := c.firstDelay

/-- The commit budget from a signed span. -/
def setCommitBudget (o : Opening) (d : Time.Span) : Except Misuse Opening :=
  if d < Time.Span.zero then .error (.negative budgetName)
  else .ok { o with commitBudget := d.nanos.toNat }

/-- The first delay from a signed span. -/
def setFirstDelay (o : Opening) (d : Time.Span) : Except Misuse Opening :=
  -- the sign is looked at first, so a negative delay is not called zero
  if d < Time.Span.zero then .error (.negative delayName)
  else if d = Time.Span.zero then .error (.zero delayName)
  else .ok { o with firstDelay := d.nanos.toNat }

/-- A session with an outbox has to start with a delay above zero. -/
def validate (o : Opening) : Except Misuse Unit :=
  if o.firstDelay = 0 then .error (.zero delayName) else .ok ()

/-- Whether the id is no more than blanks. -/
def isBlankId (id : String) : Bool := id.toList.all Text.isBlank

end Opening

end Outbox
