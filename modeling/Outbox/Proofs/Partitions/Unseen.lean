import Outbox.Proofs.Partitions.Places

/-!
# A document out of sight

The database without one document, in its stores and in everything that waits, is what is left of it
for those who look elsewhere. An action makes the same of it whether or not the document has been
written, so that a write, however it is applied, is seen under its own stored key only.

* `Database.without_perform`    an action does not care about the document
* `Database.read?_after_write`  what is read elsewhere with a write and without it
-/

namespace Outbox

/-- The change is not one of the document under the stored key. -/
def Change.spares (stored : String) : Change → Bool
  | .put key _ | .delete key => key ≠ stored
  | .record _ => true

/-- The changes of everything but one document. -/
def changesWithout (stored : String) (changes : List Change) : List Change :=
  changes.filter (Change.spares stored)

@[simp] theorem changesWithout_nil (stored : String) : changesWithout stored [] = [] := rfl

/-- A change to another key stays. -/
theorem changesWithout_cons_of_spares {stored : String} {c : Change} {rest : List Change}
    (h : c.spares stored = true) :
    changesWithout stored (c :: rest) = c :: changesWithout stored rest :=
  List.filter_cons_of_pos h

/-- A change to the key is left out. -/
theorem changesWithout_cons_of_not_spares {stored : String} {c : Change} {rest : List Change}
    (h : c.spares stored = false) :
    changesWithout stored (c :: rest) = changesWithout stored rest :=
  List.filter_cons_of_neg (by simp [h])

@[simp] theorem changesWithout_record (stored : String) (r : Record) :
    changesWithout stored [.record r] = [.record r] := rfl

@[simp] theorem changesWithout_append (stored : String) (a b : List Change) :
    changesWithout stored (a ++ b) = changesWithout stored a ++ changesWithout stored b :=
  List.filter_append ..

/-- To leave a key out twice is to leave it out once. -/
@[simp] theorem changesWithout_changesWithout (stored : String) (changes : List Change) :
    changesWithout stored (changesWithout stored changes) = changesWithout stored changes := by
  simp [changesWithout]

namespace Store

variable (stored : String)

/-- The store without one document. -/
def without (s : Store) : Store := { s with documents := s.documents.erase stored }

/-- A store without a key has nothing more of it to lose. -/
@[simp] theorem without_without (s : Store) :
    (s.without stored).without stored = s.without stored := by
  simp only [without]
  congr 1
  exact Std.ExtTreeMap.ext_getElem? fun key => by
    simp only [Std.ExtTreeMap.getElem?_erase]
    split <;> rfl

/-- An empty store has nothing to lose. -/
@[simp] theorem without_empty : ({} : Store).without stored = {} := by
  simp [without]

/-- Documents under other keys are still there. -/
theorem document?_without (s : Store) {key : String} (h : key ≠ stored) :
    (s.without stored).document? key = s.document? key := by
  simp [document?, without, Std.ExtTreeMap.getElem?_erase, h.symm]

/-- What is armed has nothing to do with keys. -/
theorem disarm_without (s : Store) (call : StoreCall) :
    (s.without stored).disarm call = ((s.disarm call).1, (s.disarm call).2.without stored) := rfl

/-- A change of the document is out of sight. -/
theorem without_apply_of_not_spares {s : Store} {c : Change} (h : c.spares stored = false) :
    (s.apply c).without stored = s.without stored := by
  cases c with
  | put key value =>
    obtain rfl : key = stored := by simpa [Change.spares] using h
    simp only [apply, without]
    congr 1
    -- with the key erased, both stores have the same values under all other keys
    exact Std.ExtTreeMap.ext_getElem? fun other => by
      simp only [Std.ExtTreeMap.getElem?_erase, Std.ExtTreeMap.getElem?_insert]
      split <;> rfl
  | delete key =>
    obtain rfl : key = stored := by simpa [Change.spares] using h
    exact without_without key s
  | record r => cases h

/-- Any other change is the same without the document. -/
theorem without_apply_of_spares {s : Store} {c : Change} (h : c.spares stored = true) :
    (s.apply c).without stored = (s.without stored).apply c := by
  -- the key is another one, so inserting and erasing do not meet
  cases c with
  | put key value =>
    have hkey : key ≠ stored := by simpa [Change.spares] using h
    simp only [apply, without]
    congr 1
    refine Std.ExtTreeMap.ext_getElem? fun other => ?_
    simp only [Std.ExtTreeMap.getElem?_erase, Std.ExtTreeMap.getElem?_insert]
    grind
  | delete key =>
    simp only [apply, without]
    congr 1
    refine Std.ExtTreeMap.ext_getElem? fun other => ?_
    simp only [Std.ExtTreeMap.getElem?_erase]
    grind
  | record r => rfl

/-- A store without the key is what the other changes make of it. -/
theorem without_foldl_apply (s : Store) (changes : List Change) :
    (changes.foldl apply s).without stored =
      (changesWithout stored changes).foldl apply (s.without stored) := by
  -- on the changes; each one is seen or unseen
  induction changes generalizing s with
  | nil => rfl
  | cons c rest ih =>
    rw [List.foldl_cons, ih]
    cases h : c.spares stored with
    | true =>
      rw [changesWithout_cons_of_spares h, List.foldl_cons, without_apply_of_spares stored h]
    | false => rw [changesWithout_cons_of_not_spares h, without_apply_of_not_spares stored h]

/-- Whether an id is taken is a matter of records alone. -/
theorem takenId?_changesWithout (taken : String → Bool) (changes : List Change) :
    takenId? taken (changesWithout stored changes) = takenId? taken changes := by
  -- on the changes; those that are left out are no records and take no id
  induction changes generalizing taken with
  | nil => rfl
  | cons c rest ih =>
    cases h : c.spares stored with
    | true =>
      rw [changesWithout_cons_of_spares h]
      cases c with
      -- the id is taken already, or it is taken now
      | record r =>
        rw [takenId?, takenId?]
        split
        · rfl
        · exact ih _
      | put key value | delete key => exact ih taken
    | false =>
      rw [changesWithout_cons_of_not_spares h]
      cases c with
      | record r => cases h
      | put key value | delete key => exact ih taken

/-- Changes are applied or refused alike, with the key or without it. -/
theorem applyAll_without (s : Store) (changes : List Change) :
    (s.without stored).applyAll (changesWithout stored changes) =
      (s.applyAll changes).map (·.without stored) := by
  have htaken : takenId? (s.without stored).records.contains (changesWithout stored changes) =
      takenId? s.records.contains changes := takenId?_changesWithout stored _ changes
  rw [applyAll, applyAll, htaken]
  cases takenId? s.records.contains changes with
  | some id => rfl
  | none => exact congrArg Except.ok (without_foldl_apply stored s changes).symm

end Store

/-- The transaction without its changes of one document. -/
def Transaction.without (stored : String) (t : Transaction) : Transaction :=
  { t with changes := changesWithout stored t.changes }

@[simp] theorem Transaction.store_without (stored : String) (t : Transaction) :
    (t.without stored).store = t.store := rfl

@[simp] theorem Transaction.committed_without (stored : String) (t : Transaction) :
    (t.without stored).committed = t.committed := rfl

@[simp] theorem Transaction.changes_without (stored : String) (t : Transaction) :
    (t.without stored).changes = changesWithout stored t.changes := rfl

/-- The staging without its changes of one document. -/
def Staging.without (stored : String) (s : Staging) : Staging :=
  { s with staged := changesWithout stored s.staged }

@[simp] theorem Staging.store_without (stored : String) (s : Staging) :
    (s.without stored).store = s.store := rfl

@[simp] theorem Staging.mode_without (stored : String) (s : Staging) :
    (s.without stored).mode = s.mode := rfl

@[simp] theorem Staging.staged_without (stored : String) (s : Staging) :
    (s.without stored).staged = changesWithout stored s.staged := rfl

namespace Database

variable (stored : String)

/-- The database with one document out of sight, in the stores and in all that waits. -/
def without (d : Database) : Database where
  stores := d.stores.map fun _ s => s.without stored
  transactions := d.transactions.map (Transaction.without stored)
  stagings := d.stagings.map (Staging.without stored)

variable (d : Database)

/-- Each store of a database is left without the key. -/
@[simp] theorem store_without (name : String) :
    (d.without stored).store name = (d.store name).without stored := by
  rw [store, without, Std.ExtTreeMap.getD_map, store, Std.ExtTreeMap.getD_eq_getD_getElem?]
  cases d.stores[name]? with
  | none => exact (Store.without_empty stored).symm
  | some s => rfl

/-- So is each transaction. -/
theorem getElem?_transactions_without (tx : TransactionId) :
    (d.without stored).transactions[tx]? = (d.transactions[tx]?).map (·.without stored) :=
  List.getElem?_map

/-- So is each staging. -/
theorem getElem?_stagings_without (id : StagingId) :
    (d.without stored).stagings[id]? = (d.stagings[id]?).map (·.without stored) :=
  List.getElem?_map

/-- A store that is put in can be stripped of the key before or after. -/
theorem setStore_without (name : String) (s : Store) :
    (d.without stored).setStore name (s.without stored) = (d.setStore name s).without stored := by
  simp only [setStore, without]
  congr 1
  refine Std.ExtTreeMap.ext_getElem? fun other => ?_
  simp only [Std.ExtTreeMap.getElem?_map, Std.ExtTreeMap.getElem?_insert]
  split <;> rfl

/-- So can a transaction. -/
theorem setTransaction_without (tx : TransactionId) (t : Transaction) :
    (d.without stored).setTransaction tx (t.without stored) =
      (d.setTransaction tx t).without stored := by
  simp [setTransaction, without, List.map_set]

/-- So can a staging. -/
theorem setStaging_without (id : StagingId) (s : Staging) :
    (d.without stored).setStaging id (s.without stored) = (d.setStaging id s).without stored := by
  simp [setStaging, without, List.map_set]

/-- To leave the key out of a database twice is to leave it out once. -/
@[simp] theorem without_without : (d.without stored).without stored = d.without stored := by
  -- leaving out a list of changes twice is once, and all the rest follows from it
  have htransaction : Transaction.without stored ∘ Transaction.without stored =
      Transaction.without stored := funext fun t => by simp [Transaction.without]
  have hstaging : Staging.without stored ∘ Staging.without stored =
      Staging.without stored := funext fun s => by simp [Staging.without]
  have hstores : (d.stores.map fun _ s => s.without stored).map (fun _ s => s.without stored) =
      d.stores.map fun _ s => s.without stored := by
    refine Std.ExtTreeMap.ext_getElem? fun name => ?_
    simp [Std.ExtTreeMap.getElem?_map]
  simp [without, htransaction, hstaging, hstores]

/-! ### An action does not care about it -/

/-- A transaction begins alike without the key. -/
@[simp] theorem begin_without (name : String) :
    (d.without stored).begin name =
      ((d.begin name).1, (d.begin name).2.without stored) := by
  simp [begin, without, Transaction.without]

/-- A staging is made alike. -/
@[simp] theorem newStaging_without (name : String) :
    (d.without stored).newStaging name =
      ((d.newStaging name).1, (d.newStaging name).2.without stored) := by
  simp [newStaging, without, Staging.without]

/-- A record is added alike. -/
@[simp] theorem addRecord_without (name : String) (r : Record) (tx : TransactionId) :
    (d.without stored).addRecord name r tx =
      ((d.addRecord name r tx).1, (d.addRecord name r tx).2.without stored) := by
  rw [addRecord, addRecord, store_without, Store.disarm_without, getElem?_transactions_without]
  -- the fault is the same on both sides; without it the transaction takes the record
  obtain ⟨_ | reason, s⟩ := (d.store name).disarm .store
  · cases ht : d.transactions[tx]? with
    | none => rfl
    | some t =>
      by_cases hname : t.store = name
      · simp only [Option.map_some, Transaction.store_without, hname, if_true]
        rw [← setTransaction_without]
        -- after a fault only the store is another one
        simp [Transaction.without]
      · simp [hname]
  · exact Prod.ext rfl (setStore_without stored d name s)

/-- A commit goes alike, and makes the same of all other keys. -/
@[simp] theorem commit_without (tx : TransactionId) :
    (d.without stored).commit tx = ((d.commit tx).1, (d.commit tx).2.without stored) := by
  rw [commit, commit, getElem?_transactions_without]
  cases ht : d.transactions[tx]? with
  | none => rfl
  | some t =>
    simp only [Option.map_some, Transaction.store_without, Transaction.committed_without,
      Transaction.changes_without, store_without, Store.disarm_without]
    -- it has been committed before, or the store fails, refuses the changes, or makes them
    split
    · rfl
    · obtain ⟨_ | reason, s⟩ := (d.store t.store).disarm .commit
      · simp only [Store.applyAll_without]
        cases s.applyAll t.changes with
        | error e =>
          exact Prod.ext rfl (setTransaction_without stored d tx { t with changes := [] })
        | ok s =>
          simp only [Except.map, setStore_without]
          rw [← setTransaction_without]
          rfl
      · exact Prod.ext rfl (setStore_without stored d t.store s)

/-- A staging is attached alike. -/
@[simp] theorem attach_without (id : StagingId) (tx : TransactionId) (hints : Hints) :
    (d.without stored).attach id tx hints =
      ((d.attach id tx hints).1, (d.attach id tx hints).2.without stored) := by
  rw [attach, attach, getElem?_transactions_without, getElem?_stagings_without]
  -- an unknown staging or transaction gives the same error on both sides
  cases d.stagings[id]? with
  | none => rfl
  | some s =>
    cases d.transactions[tx]? with
    | none => rfl
    | some t =>
      -- whether they are of one store has nothing to do with the key
      by_cases hstore : s.store = t.store
      · simp only [Option.map_some, Transaction.store_without, Staging.store_without, hstore,
          if_true]
        rw [← setStaging_without]
        rfl
      · simp [hstore]

/-- A staging is opened alike. -/
@[simp] theorem openStaging_without (id : StagingId) (hints : Hints) :
    (d.without stored).openStaging id hints = (d.openStaging id hints).without stored := by
  rw [openStaging, openStaging, getElem?_stagings_without]
  cases d.stagings[id]? with
  | none => rfl
  | some s =>
    exact setStaging_without stored d id
      { s with mode := .standalone, partition := hints.partitionKey }

/-- A staging is closed alike. -/
@[simp] theorem closeStaging_without (id : StagingId) :
    (d.without stored).closeStaging id = (d.closeStaging id).without stored := by
  rw [closeStaging, closeStaging, getElem?_stagings_without]
  cases d.stagings[id]? with
  | none => rfl
  | some s => exact setStaging_without stored d id { s with mode := .closed, staged := [] }

/-- Changes are handed over alike. -/
theorem handOver_without (mode : Staging.Mode) (name : String) (staged : List Change) :
    (d.without stored).handOver mode name (changesWithout stored staged) =
      ((d.handOver mode name staged).1, (d.handOver mode name staged).2.without stored) := by
  cases mode with
  | closed => rfl
  -- to a transaction, which collects them, or to the store, which applies them
  | attached tx =>
    rw [handOver, handOver, getElem?_transactions_without]
    cases d.transactions[tx]? with
    | none => rfl
    | some t =>
      simp only [Option.map_some]
      rw [← setTransaction_without]
      simp [Transaction.without]
  | standalone =>
    rw [handOver, handOver, store_without, Store.applyAll_without]
    cases (d.store name).applyAll staged with
    | error e => rfl
    | ok s => exact Prod.ext rfl (setStore_without stored d name s)

/-- A staging is completed alike. -/
@[simp] theorem complete_without (id : StagingId) :
    (d.without stored).complete id = ((d.complete id).1, (d.complete id).2.without stored) := by
  rw [complete, complete, getElem?_stagings_without]
  -- the staging is the same but for what it has staged of the key
  cases d.stagings[id]? with
  | none => rfl
  | some s =>
    simp only [Option.map_some, Staging.store_without, store_without, Store.disarm_without]
    obtain ⟨_ | reason, store⟩ := (d.store s.store).disarm .complete
    -- the changes go over without those to the key
    · rw [← handOver_without, ← setStaging_without]
      rfl
    · exact Prod.ext rfl (setStore_without stored d s.store store)

/-- A record is marked alike. -/
@[simp] theorem setDispatched_without (name id : String) :
    (d.without stored).setDispatched name id = (d.setDispatched name id).without stored := by
  rw [setDispatched, setDispatched, store_without, ← setStore_without]
  rfl

/-- A failure is armed alike. -/
@[simp] theorem setStore_arm_without (name : String) (call : StoreCall) (reason : String) :
    (d.without stored).setStore name (((d.store name).without stored).arm call reason) =
      (d.setStore name ((d.store name).arm call reason)).without stored := by
  rw [← setStore_without]
  rfl

/-- A change of the document is staged with it out of sight, and is out of sight itself. -/
theorem stage_without (id : StagingId) (key : String) (change : String → Change) :
    ((d.without stored).stage id key change).2.without stored =
      (d.stage id key change).2.without stored := by
  rw [stage, stage, getElem?_stagings_without]
  cases d.stagings[id]? with
  | none => exact without_without stored d
  | some s =>
    -- a closed staging stages nothing
    by_cases hmode : s.mode = .closed
    · simp [hmode]
    · simp only [Option.map_some, Staging.mode_without, hmode, if_false]
      -- the one change that `without` has not taken out yet may be of the document
      rw [← setStaging_without, ← setStaging_without, without_without]
      simp [Staging.without]

/-- What an action makes of all the rest is the same with the document out of sight. -/
theorem without_perform (a : Action) :
    ((d.without stored).perform a).2.without stored = (d.perform a).2.without stored := by
  cases a with
  | put id key _ | delete id key => exact stage_without stored d id key _
  | drop _ | getRecord _ _ => exact without_without stored d
  | begin _ | addRecord _ _ _ | commit _ | newStaging _ | attach _ _ _ | openStaging _ _
  | complete _ | closeStaging _ | setDispatched _ _ | arm _ _ _ =>
    simp [perform, perform.silent]

/-! ### A write is out of sight with its document -/

variable {stored d}

/-- To put a staging back changes nothing. -/
theorem setStaging_self {id : StagingId} {s : Staging} (hs : d.stagings[id]? = some s) :
    d.setStaging id s = d := by
  obtain ⟨hlt, rfl⟩ := List.getElem?_eq_some_iff.1 hs
  simp [setStaging]

/-- A change to the key makes no difference when the key is left out. -/
theorem without_stage {id : StagingId} {partition : Option String}
    (h : d.openPartition? id = some partition) (key : String) {change : String → Change}
    (hchange : ∀ stored, (change stored).spares stored = false) :
    (d.stage id key change).2.without (Place.storedKey ⟨partition, key⟩) =
      d.without (Place.storedKey ⟨partition, key⟩) := by
  -- the staging collects one more change, which is left out
  obtain ⟨s, hs, hstage⟩ := stage_of_open h key change
  rw [hstage, ← setStaging_without]
  have hsame : Staging.without (Place.storedKey ⟨partition, key⟩)
      { s with staged := s.staged ++ [change (Place.storedKey ⟨partition, key⟩)] } =
      s.without (Place.storedKey ⟨partition, key⟩) := by
    simp [Staging.without, changesWithout_cons_of_not_spares (hchange _)]
  rw [hsame, setStaging_without, setStaging_self hs]

/-- A write is out of sight with the document that it writes. -/
theorem without_of_write {a : Action} {p : Place} {value : Option Body}
    (h : d.write? a = some (p, value)) :
    (d.perform a).2.without p.storedKey = d.without p.storedKey := by
  -- a write is a put or a deletion; what is staged is a change to the place written
  cases a with
  | put id key body =>
    obtain ⟨partition, hopen, hp⟩ := Option.map_eq_some_iff.1 h
    obtain ⟨rfl, rfl⟩ := Prod.mk.inj hp
    exact without_stage hopen key fun stored => by simp [Change.spares]
  | delete id key =>
    obtain ⟨partition, hopen, hp⟩ := Option.map_eq_some_iff.1 h
    obtain ⟨rfl, rfl⟩ := Prod.mk.inj hp
    exact without_stage hopen key fun stored => by simp [Change.spares]
  | _ => exact nomatch h

/-- Databases that differ in one document only differ in no other after the same actions. -/
theorem without_after {d' : Database} (h : d.without stored = d'.without stored)
    (actions : List Action) :
    (d.after actions).without stored = (d'.after actions).without stored := by
  -- on the actions, each of which is blind to the key
  induction actions generalizing d d' with
  | nil => exact h
  | cons a rest ih =>
    apply ih
    calc (d.perform a).2.without stored
        = ((d.without stored).perform a).2.without stored := (without_perform stored d a).symm
      _ = ((d'.without stored).perform a).2.without stored := by rw [h]
      _ = (d'.perform a).2.without stored := without_perform stored d' a

/-- A write and whatever follows leave what is read for a place with another stored key as it is
without the write. -/
theorem read?_after_write {a : Action} {p b : Place} {value : Option Body}
    (hwrite : d.write? a = some (p, value)) (hb : b.storedKey ≠ p.storedKey)
    (later : List Action) (name : String) :
    (((d.perform a).2.after later).store name).read? b = ((d.after later).store name).read? b := by
  have hsame := without_after (without_of_write hwrite) later
  have hread : ∀ d' : Database,
      (d'.store name).read? b = ((d'.without p.storedKey).store name).document? b.storedKey := by
    intro d'
    rw [Store.read?_eq, store_without, Store.document?_without _ _ hb]
  rw [hread, hread, hsame]

/-- A write and whatever follows leave the records alone. -/
theorem records_after_write {a : Action} {p : Place} {value : Option Body}
    (hwrite : d.write? a = some (p, value)) (later : List Action) (name : String) :
    (((d.perform a).2.after later).store name).records = ((d.after later).store name).records := by
  have hsame := without_after (without_of_write hwrite) later
  -- leaving out a key leaves the records, so it is enough that both sides agree without it
  have hrecords : ∀ d' : Database,
      (d'.store name).records = ((d'.without p.storedKey).store name).records := by
    intro d'
    rw [store_without]
    rfl
  rw [hrecords, hrecords (d.after later), hsame]

end Database

end Outbox
