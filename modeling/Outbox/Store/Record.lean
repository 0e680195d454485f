import Outbox.Message.Operation

/-!
# Outbox records

A record keeps the batch of a committed session under the session's id, with a flag on every
operation that says whether the transport has it. A record without operations is a tombstone: it
keeps later commits under its id from succeeding.

* `isDispatched_markDispatched`  marking a record leaves nothing to dispatch
* `undispatched_new`             a new record has its whole batch to dispatch
-/

namespace Outbox

/-- One operation of a record, and whether it has been handed to the transport. -/
structure RecordedOperation where
  operation : Operation
  dispatched : Bool
deriving DecidableEq

/-- What the outbox keeps under a session id. -/
structure Record where
  id : String
  operations : List RecordedOperation
deriving DecidableEq

namespace Record

/-- The record of a batch of which nothing has been dispatched. -/
def new (id : String) (batch : Batch) : Record := ⟨id, batch.map (⟨·, false⟩)⟩

/-- The empty record. -/
def tombstone (id : String) : Record := ⟨id, []⟩

/-- Whether the record is empty. -/
def isTombstone (r : Record) : Bool := r.operations.isEmpty

/-- Whether every operation has been handed to the transport. -/
def isDispatched (r : Record) : Bool := r.operations.all (·.dispatched)

/-- The operations that wait for dispatch, in the order of the batch. -/
def undispatched (r : Record) : Batch :=
  (r.operations.filter (!·.dispatched)).map (·.operation)

/-- The batch of the record, dispatched or not. -/
def batch (r : Record) : Batch := r.operations.map (·.operation)

/-- The record with every operation marked. -/
def markDispatched (r : Record) : Record :=
  { r with operations := r.operations.map fun op => { op with dispatched := true } }

@[simp] theorem id_new (id : String) (b : Batch) : (new id b).id = id := rfl
@[simp] theorem id_tombstone (id : String) : (tombstone id).id = id := rfl
@[simp] theorem id_markDispatched (r : Record) : r.markDispatched.id = r.id := rfl

/-- The record of an empty batch is the empty record: nothing tells the two apart. -/
theorem new_nil (id : String) : new id [] = tombstone id := rfl

/-- A new record keeps its batch as it is. -/
@[simp] theorem batch_new (id : String) (b : Batch) : (new id b).batch = b := by
  simp [batch, new, Function.comp_def]

/-- Marks do not touch the batch. -/
@[simp] theorem batch_markDispatched (r : Record) : r.markDispatched.batch = r.batch := by
  simp [batch, markDispatched, Function.comp_def]

/-- Nothing of a new record has been dispatched. -/
@[simp] theorem undispatched_new (id : String) (b : Batch) : (new id b).undispatched = b := by
  simp [undispatched, new, List.filter_map, Function.comp_def]

/-- After a mark nothing is left to dispatch. -/
@[simp] theorem isDispatched_markDispatched (r : Record) :
    r.markDispatched.isDispatched = true := by
  simp [isDispatched, markDispatched]

/-- A record waits for dispatch exactly as long as some operation of it does. -/
theorem undispatched_eq_nil_iff (r : Record) : r.undispatched = [] ↔ r.isDispatched = true := by
  simp [undispatched, isDispatched, List.filter_eq_nil_iff]

end Record

end Outbox
