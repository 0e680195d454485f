import Outbox.Store.Basic

/-!
# Transactions and stagings

A transaction collects changes of one store until it is committed. A staging holds the changes
that a caller makes to documents; to complete it is to hand them over, to the transaction that it
is attached to, or to its store when it stands alone. Stores are named, transactions and stagings
are numbered as they are made.

* `transactions_begin_fst`  a new transaction has a number of its own
-/

namespace Outbox

/-- The number of a transaction. -/
abbrev TransactionId := Nat

/-- The number of a staging. -/
abbrev StagingId := Nat

/-- Changes of one store that wait for their commit. -/
structure Transaction where
  store : String
  changes : List Change := []
  committed : Bool := false
deriving DecidableEq

/-- Where a staging hands its changes. -/
inductive Staging.Mode where
  | closed
  | attached (transaction : TransactionId)
  | standalone
deriving DecidableEq, Repr

/-- The changes to documents that a caller has staged. -/
structure Staging where
  store : String
  mode : Staging.Mode := .closed
  partition : Option String := none
  staged : List Change := []
deriving DecidableEq

/-- Whether the staging hands its changes to a transaction. -/
def Staging.isAttached (s : Staging) : Bool :=
  match s.mode with
  | .attached _ => true
  | .closed | .standalone => false

/-- What a caller says about where its data lie. -/
structure Hints where
  partitionKey : Option String := none
  container : Option String := none
  tableName : Option String := none
deriving DecidableEq, Repr

/-- All stores with the transactions and stagings on them. -/
structure Database where
  stores : Std.ExtTreeMap String Store := ∅
  transactions : List Transaction := []
  stagings : List Staging := []
deriving DecidableEq

namespace Database

/-- The store under a name; a store that nothing has changed is empty. -/
def store (d : Database) (name : String) : Store := d.stores.getD name {}

/-- Replaces the store under a name. -/
def setStore (d : Database) (name : String) (s : Store) : Database :=
  { d with stores := d.stores.insert name s }

/-- What is put under a name is found under it, and other stores stay. -/
@[simp] theorem store_setStore (d : Database) (name other : String) (s : Store) :
    (d.setStore name s).store other = if name = other then s else d.store other := by
  simp [store, setStore, Std.ExtTreeMap.getD_insert]

/-- Replaces a transaction. -/
def setTransaction (d : Database) (id : TransactionId) (t : Transaction) : Database :=
  { d with transactions := d.transactions.set id t }

/-- Replaces a staging. -/
def setStaging (d : Database) (id : StagingId) (s : Staging) : Database :=
  { d with stagings := d.stagings.set id s }

/-- What a call answers that names a transaction of another store. -/
def foreignTransaction : StoreError :=
  .incompatible "transaction belongs to a different store"

/-- What a call answers on a staging that is closed. -/
def stagingClosed : StoreError := .backend "storage session is not open"

/-- Starts a transaction on a store. -/
def begin (d : Database) (store : String) : TransactionId × Database :=
  (d.transactions.length, { d with transactions := d.transactions ++ [{ store }] })

/-- Adds a record to the changes of a transaction. Whether its id is taken shows at the commit. -/
def addRecord (d : Database) (store : String) (record : Record) (tx : TransactionId) :
    Except StoreError Unit × Database :=
  -- an armed failure comes before any look at the transaction
  match (d.store store).disarm .store with
  | (some reason, s) => (.error (.backend reason), d.setStore store s)
  | (none, _) =>
    match d.transactions[tx]? with
    | none => (.error foreignTransaction, d)
    | some t =>
      if t.store = store then
        (.ok (), d.setTransaction tx { t with changes := t.changes ++ [.record record] })
      else (.error foreignTransaction, d)

/-- Commits a transaction, once: committed again it answers that all is well. A commit that the
store is told to fail keeps its changes, one that meets a conflict loses them. -/
def commit (d : Database) (tx : TransactionId) : Except StoreError Unit × Database :=
  match d.transactions[tx]? with
  | none => (.error foreignTransaction, d)
  | some t =>
    -- what was added after the commit is neither applied nor refused
    if t.committed then (.ok (), d)
    else
      match (d.store t.store).disarm .commit with
      | (some reason, s) => (.error (.backend reason), d.setStore t.store s)
      | (none, s) =>
        match s.applyAll t.changes with
        -- the changes are taken out before they are applied, and a conflict does not put them back
        | .error e => (.error e, d.setTransaction tx { t with changes := [] })
        | .ok s => (.ok (), (d.setStore t.store s).setTransaction tx
            { t with changes := [], committed := true })

/-- Makes a staging on a store, closed as yet. -/
def newStaging (d : Database) (store : String) : StagingId × Database :=
  (d.stagings.length, { d with stagings := d.stagings ++ [{ store }] })

/-- Attaches a staging to a transaction, if both belong to one store. -/
def attach (d : Database) (id : StagingId) (tx : TransactionId) (hints : Hints) :
    Bool × Database :=
  match d.stagings[id]?, d.transactions[tx]? with
  | some s, some t =>
    if s.store = t.store then
      (true, d.setStaging id
        { s with mode := .attached tx, partition := hints.partitionKey })
    else (false, d)
  | _, _ => (false, d)

/-- Opens a staging that stands alone. -/
def openStaging (d : Database) (id : StagingId) (hints : Hints) : Database :=
  match d.stagings[id]? with
  | some s => d.setStaging id { s with mode := .standalone, partition := hints.partitionKey }
  | none => d

/-- Stages one change in a staging that is open. The change is given the key under which the
partition of the staging keeps the document. -/
def stage (d : Database) (id : StagingId) (key : String) (change : String → Change) :
    Except StoreError Unit × Database :=
  match d.stagings[id]? with
  | none => (.error stagingClosed, d)
  -- only an open staging takes changes
  | some s =>
    if s.mode = .closed then (.error stagingClosed, d)
    else
      (.ok (), d.setStaging id
        { s with staged := s.staged ++ [change (Store.keyWithin s.partition key)] })

/-- Stages a document. -/
def put (d : Database) (id : StagingId) (key : String) (value : Body) :
    Except StoreError Unit × Database :=
  d.stage id key (.put · value)

/-- Stages the removal of a document. -/
def delete (d : Database) (id : StagingId) (key : String) :
    Except StoreError Unit × Database :=
  d.stage id key .delete

/-- Hands the staged changes over. -/
def handOver (d : Database) (mode : Staging.Mode) (store : String) (staged : List Change) :
    Except StoreError Unit × Database :=
  match mode with
  | .closed => (.error stagingClosed, d)
  | .attached tx =>
    match d.transactions[tx]? with
    -- a transaction that is committed already collects the changes too, and never applies them
    | some t => (.ok (), d.setTransaction tx { t with changes := t.changes ++ staged })
    | none => (.ok (), d)
  | .standalone =>
    -- a staging that stands alone is a transaction of its own
    match (d.store store).applyAll staged with
    | .ok s => (.ok (), d.setStore store s)
    | .error e => (.error e, d)

/-- Completes a staging: nothing stays staged, unless the store is told to fail. -/
def complete (d : Database) (id : StagingId) : Except StoreError Unit × Database :=
  match d.stagings[id]? with
  | none => (.error stagingClosed, d)
  | some s =>
    match (d.store s.store).disarm .complete with
    -- the changes stay staged, so a later try can hand them over
    | (some reason, store) => (.error (.backend reason), d.setStore s.store store)
    | (none, _) => (d.setStaging id { s with staged := [] }).handOver s.mode s.store s.staged

/-- Closes a staging and forgets what it has staged. -/
def closeStaging (d : Database) (id : StagingId) : Database :=
  match d.stagings[id]? with
  | some s => d.setStaging id { s with mode := .closed, staged := [] }
  | none => d

/-- Marks every operation of a record. -/
def setDispatched (d : Database) (store id : String) : Database :=
  d.setStore store ((d.store store).setDispatched id)

/-- A new transaction has a number that no transaction had. -/
theorem transactions_begin_fst (d : Database) (store : String) :
    d.transactions[(d.begin store).1]? = none ∧
      (d.begin store).2.transactions[(d.begin store).1]? = some { store } := by
  simp [begin]

end Database

end Outbox
