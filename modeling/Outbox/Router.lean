import Outbox.Config.Basic
import Outbox.Message.Operation
import Outbox.Program
import Outbox.Retry.Header

/-!
# The router

How a message that a caller wants to send becomes an operation: it is routed, given an identity,
and stamped with the standard headers. The headers of the draft come first, those that the caller
gives for this one sending are written over them, and the standard headers over both; only a reply
address that is there already stays.
-/

namespace Outbox

/-- How one message is to be sent. The delay is in nanoseconds. -/
structure Sending where
  /-- An explicit queue. -/
  destination : Option String := none
  /-- Whether the message goes to the endpoint that sends it. -/
  toSelf : Bool := false
  delay : Option Nat := none
  messageId : Option String := none
  headers : Headers := ∅
deriving DecidableEq

/-- How one message is to be published. -/
structure Publishing where
  /-- The topic, if it is not the message type. -/
  topic : Option String := none
  messageId : Option String := none
  headers : Headers := ∅
deriving DecidableEq

/-- Where messages go by default, and to whom they are answered. -/
structure Router where
  routes : Std.ExtTreeMap String String := ∅
  localAddress : Option String := none
deriving DecidableEq

namespace Router

/-- The router of an endpoint. -/
def ofConfig (c : Config) : Router := ⟨c.routes, c.localAddress⟩

/-- The queue for a message: an explicit one, the router's own, or that of the message type. -/
def route? (r : Router) (messageType : String) (how : Sending) : Option String :=
  match how.destination with
  | some queue => some queue
  -- an explicit queue wins; a message to the endpoint itself does not ask the routes
  | none => if how.toSelf then r.localAddress else r.routes[messageType]?

/-- What a message is meant to do. -/
inductive Intent where
  | send
  | publish
deriving DecidableEq, Repr

/-- How an intent is written in a header. -/
def Intent.text : Intent → String
  | .send => "send"
  | .publish => "publish"

/-- The message with its identity and the standard headers. -/
def stamped (r : Router) (m : Draft) (extra : Headers) (intent : Intent) (id : String)
    (now : Time.Instant) : Message :=
  -- later entries win over earlier ones
  let headers := m.headers.overwrite extra
  let headers := headers.insert Headers.messageId id
  let headers := headers.insert Headers.messageType m.messageType
  let headers := headers.insert Headers.messageIntent intent.text
  let headers := headers.insert Headers.timeSent (Time.Timestamp.format now)
  -- a reply address that the caller has given wins over the endpoint's own
  let headers := match r.localAddress with
    | some address => headers.insertIfNew Headers.replyTo address
    | none => headers
  { id, headers, body := m.body }

/-- Gives a message an identity, unless the caller has, and stamps it. -/
def identify (r : Router) (m : Draft) (id : Option String) (extra : Headers)
    (intent : Intent) : Program Message := do
  -- an id is made before the clock is read
  let id ← match id with
    | some id => pure id
    | none => .ask .freshId
  let now ← .ask .now
  return r.stamped m extra intent id now

/-- Makes the operation that sends a message. -/
def operationToSend (r : Router) (m : Draft) (how : Sending) :
    Program (Except Misuse Operation) :=
  -- a message without a queue uses up neither an id nor a reading of the clock
  match r.route? m.messageType how with
  | none => return .error (.unroutable m.messageType)
  | some queue => do
    let message ← r.identify m how.messageId how.headers .send
    return .ok { message, destination := .queue queue, delay := how.delay }

/-- Makes the operation that publishes a message. -/
def operationToPublish (r : Router) (m : Draft) (how : Publishing) :
    Program Operation := do
  let message ← r.identify m how.messageId how.headers .publish
  return { message, destination := .topic (how.topic.getD m.messageType) }

/-- Hands one operation to the transport at once. -/
def dispatchNow (op : Operation) : Program (Except CallError Unit) := do
  match ← .ask (.dispatch [op.toShipment]) with
  | .ok () => return .ok ()
  | .error e => return .error (.dispatch e)

/-- Sends a message outside of any session. -/
def send (r : Router) (m : Draft) (how : Sending) :
    Program (Except CallError Unit) := do
  match ← r.operationToSend m how with
  | .error e => return .error (.misuse e)
  | .ok op => dispatchNow op

/-- Publishes a message outside of any session. -/
def publish (r : Router) (m : Draft) (how : Publishing) :
    Program (Except CallError Unit) := do
  dispatchNow (← r.operationToPublish m how)

end Router

end Outbox
