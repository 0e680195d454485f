import Outbox.Error
import Outbox.Store.Record

/-!
# The store

A store holds the documents of the business and the records of the outbox. What a transaction
has collected is a list of changes, and `Store.applyAll` makes all of them or none: a record
under an id that is taken, in the store or earlier in the list, refuses the whole list.

A store can be told to fail one of its next calls, once for each kind of call.
-/

namespace Outbox

/-- A change of the store that waits for its transaction. -/
inductive Change where
  | put (key : String) (value : Body)
  | delete (key : String)
  | record (record : Record)
deriving DecidableEq

/-- The calls of a store that can be told to fail. -/
inductive StoreCall where
  | store
  | complete
  | commit
deriving DecidableEq, Repr

/-- Why the next call of each kind is to fail. -/
structure StoreFaults where
  store : Option String := none
  complete : Option String := none
  commit : Option String := none
deriving DecidableEq

namespace StoreFaults

/-- The failure that is armed for a kind of call. -/
def get (f : StoreFaults) : StoreCall → Option String
  | .store => f.store
  | .complete => f.complete
  | .commit => f.commit

/-- Arms or disarms the failure of a kind of call. -/
def set (f : StoreFaults) (call : StoreCall) (reason : Option String) : StoreFaults :=
  match call with
  | .store => { f with store := reason }
  | .complete => { f with complete := reason }
  | .commit => { f with commit := reason }

/-- A failure that is armed for one kind of call does not show at another. -/
@[simp] theorem get_set (f : StoreFaults) (call other : StoreCall) (reason : Option String) :
    (f.set call reason).get other = if call = other then reason else f.get other := by
  cases call <;> cases other <;> rfl

end StoreFaults

/-- Documents by key, records by session id, and the failures that are armed. -/
structure Store where
  documents : Std.ExtTreeMap String Body := ∅
  records : Std.ExtTreeMap String Record := ∅
  faults : StoreFaults := {}
deriving DecidableEq

instance : Inhabited Store := ⟨{}⟩

namespace Store

/-- The committed value of a document. -/
def document? (s : Store) (key : String) : Option Body := s.documents[key]?

/-- The key under which a session with a partition keeps a document. -/
def keyWithin : Option String → String → String
  | some partition, key => partition ++ "/" ++ key
  | none, key => key

/-- The committed value of a document of a partition. -/
def documentIn? (s : Store) (partition key : String) : Option Body :=
  s.document? (keyWithin (some partition) key)

/-- The committed record under a session id. -/
def record? (s : Store) (id : String) : Option Record := s.records[id]?

/-- Makes one change. -/
def apply (s : Store) : Change → Store
  | .put key value => { s with documents := s.documents.insert key value }
  | .delete key => { s with documents := s.documents.erase key }
  | .record r => { s with records := s.records.insert r.id r }

/-- The first record id in the changes that is taken, given the ids that count as taken. -/
def takenId? (taken : String → Bool) : List Change → Option String
  | [] => none
  | .record r :: rest =>
    if taken r.id then some r.id else takenId? (fun id => id == r.id || taken id) rest
  | _ :: rest => takenId? taken rest

/-- Makes all changes in order, or none of them. -/
def applyAll (s : Store) (changes : List Change) : Except StoreError Store :=
  match takenId? s.records.contains changes with
  | some id => .error (.conflict id)
  | none => .ok (changes.foldl apply s)

/-- Marks every operation of the record under an id; without a record nothing changes. -/
def setDispatched (s : Store) (id : String) : Store :=
  { s with records := s.records.modify id Record.markDispatched }

/-- Makes the next call of a kind fail. -/
def arm (s : Store) (call : StoreCall) (reason : String) : Store :=
  { s with faults := s.faults.set call (some reason) }

/-- Disarms the failure of a kind of call and tells why it was armed. -/
def disarm (s : Store) (call : StoreCall) : Option String × Store :=
  (s.faults.get call, { s with faults := s.faults.set call none })

/-- A mark reaches the record under its id and no other. -/
@[simp] theorem record?_setDispatched (s : Store) (id other : String) :
    (s.setDispatched id).record? other =
      if id = other then (s.record? id).map Record.markDispatched else s.record? other := by
  simp [record?, setDispatched, Std.ExtTreeMap.getElem?_modify]

@[simp] theorem documents_setDispatched (s : Store) (id : String) :
    (s.setDispatched id).documents = s.documents := rfl

end Store

end Outbox
