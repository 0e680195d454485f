import Outbox.Message.Headers

/-!
# Messages

A `Message` is what travels through the transport, a `Draft` what a caller asks to send: it has
no identity yet, and it names the type by which it is routed.
-/

namespace Outbox

/-- The bytes that a message or a document holds. -/
abbrev Body := List UInt8

/-- A message in the transport. A control message has the id of its session. -/
structure Message where
  id : String
  headers : Headers := ∅
  body : Body := []
deriving DecidableEq

namespace Message

/-- The text under a header name. -/
def header? (m : Message) (name : String) : Option String := m.headers[name]?

/-- The message with a header added or replaced. -/
def addHeader (m : Message) (name text : String) : Message :=
  { m with headers := m.headers.insert name text }

/-- Whether the text is `true`, in upper or lower case letters. -/
def isTrueText (text : String) : Bool := text.toList.map Char.toLower == ['t', 'r', 'u', 'e']

/-- Whether the message is marked as a control message. -/
def isControl (m : Message) : Bool := (m.header? Headers.controlMessage).any isTrueText

/-- The type under which the message was routed. -/
def messageType? (m : Message) : Option String := m.header? Headers.messageType

/-- The body as text, if it is UTF-8. -/
def bodyText? (m : Message) : Option String := String.fromUTF8? ⟨m.body.toArray⟩

end Message

/-- A message that a caller wants to send. -/
structure Draft where
  messageType : String
  body : Body := []
  headers : Headers := ∅
deriving DecidableEq

/-- The bytes of a text. -/
def textBody (text : String) : Body := text.toUTF8.toList

end Outbox
