import Outbox.Message.Basic

/-!
# Operations

An operation is a message, where it goes, and by how much it is delayed; a session collects a
batch of them. A shipment is an operation as it is handed to the transport, which also says
whether the message leaves on its own, apart from the message that is being received.
-/

namespace Outbox

/-- Where a message goes. -/
inductive Destination where
  /-- One queue. -/
  | queue (name : String)
  /-- Every queue that subscribes to the topic. -/
  | topic (name : String)
deriving DecidableEq, Repr

/-- A message on its way. The delay is in nanoseconds. -/
structure Operation where
  message : Message
  destination : Destination
  delay : Option Nat := none
deriving DecidableEq

/-- An operation as it is handed to the transport. -/
structure Shipment extends Operation where
  /-- Whether the operation is independent of the message being received. -/
  isolated : Bool := false
deriving DecidableEq

/-- The operation as part of the message being received. -/
def Operation.toShipment (op : Operation) : Shipment :=
  { toOperation := op }

/-- The operations that a session has collected, in the order of the calls. -/
abbrev Batch := List Operation

end Outbox
