import Outbox.Json.Quoted

/-!
# Outcomes

What the processor tells the world about the commit of a session, each time a control message
has been dealt with, and the listeners that hear of it.
-/

namespace Outbox

/-- How a delivery of a control message ended. -/
inductive OutcomeKind where
  /-- It completed normally. -/
  | completed
  /-- The commit budget ran out. -/
  | gaveUp
  /-- A delayed successor was scheduled. -/
  | retried
deriving DecidableEq, Repr

/-- The outcome of one delivery, with the number of the attempt. -/
structure Outcome where
  kind : OutcomeKind
  sessionId : String
  attempts : UInt32
deriving DecidableEq, Repr

/-- The word for a kind in the written form. -/
def OutcomeKind.word : OutcomeKind → String
  | .completed => "completed"
  | .gaveUp => "gave_up"
  | .retried => "retried"

namespace Outcome

/-- The event under which listeners hear of the outcome. -/
def eventName (o : Outcome) : String := "transactional_session.commit." ++ o.kind.word

/-- The outcome as a JSON object. -/
def toJson (o : Outcome) : String :=
  "\x7b\"outcome\":" ++ Json.quoted o.kind.word ++ ",\"session_id\":" ++ Json.quoted o.sessionId ++
    ",\"attempts\":" ++ Nat.repr o.attempts.toNat ++ "\x7d"

/-- What the listeners hear, each of which waits for one event: every one that waits for this
event gets the JSON object. -/
def payloads (o : Outcome) (listeners : List String) : List String :=
  (listeners.filter (· == o.eventName)).map fun _ => o.toJson

end Outcome

end Outbox
