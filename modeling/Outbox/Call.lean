import Outbox.Outcome
import Outbox.Store.Database
import Outbox.Time.Instant

/-!
# Calls on collaborators

Sessions and the processor do their work through collaborators: a clock, a source of ids, a
store, stagings, the transport, the handler of business messages and the observer of
outcomes. A `Call β` is one call on one of them, and `β` is the type of its reply.
-/

namespace Outbox

/-- One call on a collaborator, indexed by the type of the reply. -/
inductive Call : Type → Type 1 where
  /-- Reads the clock. -/
  | now : Call Time.Instant
  /-- Makes a new id. -/
  | freshId : Call String
  /-- Whether the caller has cancelled already. -/
  | isCancelled : Call Bool
  /-- Starts a transaction on a store. -/
  | beginTransaction (store : String) (hints : Hints) : Call (Except StoreError TransactionId)
  /-- Attaches a staging to a transaction; `false` says that it cannot join it. -/
  | attach (staging : StagingId) (tx : TransactionId) (hints : Hints) :
      Call (Except StoreError Bool)
  /-- Opens a staging that stands alone. -/
  | openStaging (staging : StagingId) (hints : Hints) : Call (Except StoreError Unit)
  /-- Hands over what a staging holds. -/
  | complete (staging : StagingId) : Call (Except StoreError Unit)
  /-- Closes a staging. -/
  | closeStaging (staging : StagingId) : Call Unit
  /-- Adds a record to a transaction. -/
  | addRecord (store : String) (record : Record) (tx : TransactionId) :
      Call (Except StoreError Unit)
  /-- Commits a transaction. -/
  | commit (tx : TransactionId) : Call (Except StoreError Unit)
  /-- Lets go of a transaction that has not been committed. -/
  | rollback (tx : TransactionId) : Call Unit
  /-- Looks a record up. -/
  | getRecord (store id : String) : Call (Except StoreError (Option Record))
  /-- Marks every operation of a record. -/
  | setDispatched (store id : String) : Call (Except StoreError Unit)
  /-- Hands operations to the transport. -/
  | dispatch (ops : List Shipment) : Call (Except DispatchError Unit)
  /-- Has a business message handled. -/
  | handle (message : Message) : Call (Except DeliveryError Unit)
  /-- Tells an outcome. -/
  | observe (outcome : Outcome) : Call Unit
  /-- Makes the call, but only waits for its reply until the caller cancels. -/
  | unlessCancelled {β : Type} (call : Call β) : Call (Option β)

end Outbox
