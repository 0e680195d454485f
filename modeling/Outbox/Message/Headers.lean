import Std.Data.ExtTreeMap

/-!
# Headers

A message carries one text under each header name. The order of headers has no meaning: two
header maps are equal when they hold the same text under every name (`Std.ExtTreeMap.ext_getElem?`).
-/

namespace Outbox

/-- Header texts by name. -/
abbrev Headers := Std.ExtTreeMap String String

namespace Headers

-- what every message says about itself
def messageId : String := "message-id"
def messageType : String := "message-type"
def messageIntent : String := "message-intent"
def timeSent : String := "time-sent"
def replyTo : String := "reply-to"
-- what marks a control message, and what is noted on a message that could not be processed
def controlMessage : String := "control-message"
def exceptionMessage : String := "exception-message"
def failedQueue : String := "failed-queue"
-- the countdown of a control message
def remaining : String := "transactional-session.remaining-commit-duration"
def increment : String := "transactional-session.commit-delay-increment"
def attempt : String := "transactional-session.attempt"

/-- The headers with all of `others` written over them. -/
def overwrite (headers others : Headers) : Headers := headers ∪ others

/-- Of two texts under one name the one that is written over the other is found. -/
@[simp] theorem getElem?_overwrite (headers others : Headers) (name : String) :
    (headers.overwrite others)[name]? = others[name]?.or headers[name]? :=
  Std.ExtTreeMap.getElem?_union

end Headers

end Outbox
