import Outbox.Proofs.Changes
import Outbox.World

/-!
# What only grows

Whatever calls are made, by whom and in which order: a record stays under its id, with its
operations in their order, and can only become marked as dispatched; and what the transport has
accepted stays in its log.

* `grows_answer`  no call takes a record or a log entry back
-/

namespace Outbox

/-- The record later on: the same, or marked. -/
def Record.Becomes (r r' : Record) : Prop := r' = r ∨ r' = r.markDispatched

namespace Record

/-- To mark a record twice is to mark it once. -/
@[simp] theorem markDispatched_markDispatched (r : Record) :
    r.markDispatched.markDispatched = r.markDispatched := by
  simp [markDispatched]

/-- A record can stay as it is. -/
theorem Becomes.refl (r : Record) : r.Becomes r := .inl rfl

/-- What a record becomes becomes nothing but that again. -/
theorem Becomes.trans {a b c : Record} (h : a.Becomes b) (h' : b.Becomes c) : a.Becomes c := by
  -- unchanged, or marked; and a second mark changes nothing
  rcases h with rfl | rfl
  · exact h'
  · rcases h' with rfl | rfl
    · exact .inr rfl
    · exact .inr (markDispatched_markDispatched a)

/-- A record keeps its batch. -/
theorem Becomes.batch_eq {a b : Record} (h : a.Becomes b) : b.batch = a.batch := by
  rcases h with rfl | rfl
  · rfl
  · exact batch_markDispatched a

/-- What has been dispatched stays dispatched. -/
theorem Becomes.isDispatched {a b : Record} (h : a.Becomes b) (ha : a.isDispatched = true) :
    b.isDispatched = true := by
  rcases h with rfl | rfl
  · exact ha
  · exact isDispatched_markDispatched a

@[simp] theorem isDispatched_tombstone (id : String) : (tombstone id).isDispatched = true := rfl

end Record

/-- Every record stays, up to marks. -/
def Store.Grows (a b : Store) : Prop :=
  ∀ id r, a.record? id = some r → ∃ r', b.record? id = some r' ∧ r.Becomes r'

namespace Store

/-- A store that does not change has grown. -/
theorem Grows.refl (s : Store) : s.Grows s := fun _ r h => ⟨r, h, .refl r⟩

/-- A store that grows twice has grown. -/
theorem Grows.trans {a b c : Store} (h : a.Grows b) (h' : b.Grows c) : a.Grows c := by
  intro id r hr
  obtain ⟨r₁, hr₁, h₁⟩ := h id r hr
  obtain ⟨r₂, hr₂, h₂⟩ := h' id r₁ hr₁
  exact ⟨r₂, hr₂, h₁.trans h₂⟩

/-- A store with the same records has grown. -/
theorem grows_of_records_eq {a b : Store} (h : b.records = a.records) : a.Grows b := by
  intro id r hr
  exact ⟨r, by rw [record?, h]; exact hr, .refl r⟩

/-- A store grows by changes that are applied, since the ids of their records are free. -/
theorem grows_applyAll {s s' : Store} {changes : List Change} (h : s.applyAll changes = .ok s') :
    s.Grows s' :=
  fun _ r hr => ⟨r, record?_applyAll_of_some h hr, .refl r⟩

/-- A store grows when a failure is disarmed. -/
theorem grows_disarm {s s' : Store} {call : StoreCall} {reason : Option String}
    (h : s.disarm call = (reason, s')) : s.Grows s' := by
  obtain ⟨-, rfl⟩ := Prod.mk.inj h
  exact grows_of_records_eq rfl

/-- A store grows when a record is marked. -/
theorem grows_setDispatched (s : Store) (id : String) : s.Grows (s.setDispatched id) := by
  intro other r hr
  rw [record?_setDispatched]
  split
  · next heq => exact ⟨r.markDispatched, by simp [heq, hr], .inr rfl⟩
  · exact ⟨r, hr, .refl r⟩

end Store

/-- Every record of every store stays, up to marks. -/
def Database.Grows (d d' : Database) : Prop := ∀ name, (d.store name).Grows (d'.store name)

namespace Database

/-- A database that does not change has grown. -/
theorem Grows.refl (d : Database) : d.Grows d := fun _ => .refl _

/-- A database that grows twice has grown. -/
theorem Grows.trans {a b c : Database} (h : a.Grows b) (h' : b.Grows c) : a.Grows c :=
  fun name => (h name).trans (h' name)

/-- With the same stores a database has grown. -/
theorem grows_of_stores_eq {d d' : Database} (h : d'.stores = d.stores) : d.Grows d' := by
  intro name
  rw [show d'.store name = d.store name by rw [store, store, h]]
  exact .refl _

/-- A database grows with one of its stores. -/
theorem grows_setStore {d d' : Database} {name : String} {s : Store} (h : (d.store name).Grows s)
    (hd : d'.stores = (d.setStore name s).stores) : d.Grows d' := by
  intro other
  -- only the store that was set can differ
  rw [show d'.store other = (d.setStore name s).store other by rw [store, store, hd],
    store_setStore]
  split
  · next heq => exact heq ▸ h
  · exact .refl _

/-- To add a record to a transaction is growth. -/
theorem grows_addRecord (d : Database) (name : String) (r : Record) (tx : TransactionId) :
    d.Grows (d.addRecord name r tx).2 := by
  unfold addRecord
  -- the armed fault is used up; else the transaction is unknown, of this store, or of another one
  split
  · next s h => exact grows_setStore (Store.grows_disarm h) rfl
  · split
    · exact .refl d
    · split
      · exact grows_of_stores_eq rfl
      · exact .refl d

/-- A commit is growth. -/
theorem grows_commit (d : Database) (tx : TransactionId) : d.Grows (d.commit tx).2 := by
  unfold commit
  -- no such transaction, or one that is committed: nothing changes
  split
  · exact .refl d
  · next t _ =>
    split
    · exact .refl d
    · split
      -- the store fails, and is left without its armed fault
      · next s h => exact grows_setStore (Store.grows_disarm h) rfl
      · next s h =>
        -- a commit that is refused changes its transaction, one that succeeds its store as well
        split
        · exact grows_of_stores_eq rfl
        · next s' h' =>
          exact grows_setStore ((Store.grows_disarm h).trans (Store.grows_applyAll h')) rfl

/-- To attach a staging is growth. -/
theorem grows_attach (d : Database) (id : StagingId) (tx : TransactionId) (hints : Hints) :
    d.Grows (d.attach id tx hints).2 := by
  unfold attach
  -- it joins a transaction of its own store, or nothing changes; no store does
  split
  · split
    · exact grows_of_stores_eq rfl
    · exact .refl d
  · exact .refl d

/-- To open a staging is growth. -/
theorem grows_openStaging (d : Database) (id : StagingId) (hints : Hints) :
    d.Grows (d.openStaging id hints) := by
  unfold openStaging
  split
  · exact grows_of_stores_eq rfl
  · exact .refl d

/-- To hand over what is staged is growth. -/
theorem grows_handOver (d : Database) (mode : Staging.Mode) (name : String) (staged : List Change) :
    d.Grows (d.handOver mode name staged).2 := by
  unfold handOver
  -- a closed staging hands nothing over, an attached one changes its transaction and no store
  split
  · exact .refl d
  · split
    · exact grows_of_stores_eq rfl
    · exact .refl d
  · split
    -- on its own it applies the changes to the store, all of them or none
    · next s h => exact grows_setStore (Store.grows_applyAll h) rfl
    · exact .refl d

/-- To complete a staging is growth. -/
theorem grows_complete (d : Database) (id : StagingId) : d.Grows (d.complete id).2 := by
  unfold complete
  split
  · exact .refl d
  · next s _ =>
    split
    -- the store fails, or the changes leave a staging that is empty then
    · next store h => exact grows_setStore (Store.grows_disarm h) rfl
    · have h : d.Grows (d.setStaging id { s with staged := [] }) := grows_of_stores_eq rfl
      exact h.trans (grows_handOver _ _ _ _)

/-- To close a staging is growth. -/
theorem grows_closeStaging (d : Database) (id : StagingId) : d.Grows (d.closeStaging id) := by
  unfold closeStaging
  split
  · exact grows_of_stores_eq rfl
  · exact .refl d

/-- To mark a record is growth. -/
theorem grows_setDispatched (d : Database) (name id : String) :
    d.Grows (d.setDispatched name id) :=
  grows_setStore (Store.grows_setDispatched _ id) rfl

end Database

namespace Transport

@[simp] theorem dispatched_enqueue (t : Transport) (name : String) (e : QueuedMessage) :
    (t.enqueue name e).dispatched = t.dispatched := rfl

/-- Copies that are put into queues are no entries of the log. -/
theorem dispatched_foldl_enqueue (names : List String) (e : QueuedMessage) (t : Transport) :
    (names.foldl (fun t name => t.enqueue name e) t).dispatched = t.dispatched := by
  induction names generalizing t with
  | nil => rfl
  | cons name rest ih => rw [List.foldl_cons, ih, dispatched_enqueue]

/-- An operation that is accepted is an entry of the log. -/
@[simp] theorem dispatched_accept (now : Nat) (t : Transport) (op : Shipment) :
    (t.accept now op).dispatched = t.dispatched ++ [op] := by
  simp only [accept, dispatched_foldl_enqueue]

/-- Operations are logged in the order in which they are accepted. -/
theorem dispatched_foldl_accept (now : Nat) (ops : List Shipment) (t : Transport) :
    (ops.foldl (accept now) t).dispatched = t.dispatched ++ ops := by
  induction ops generalizing t with
  | nil => simp
  | cons op rest ih => rw [List.foldl_cons, ih, dispatched_accept, List.append_assoc]; rfl

/-- The log of the transport lists exactly what it has accepted. -/
theorem dispatched_dispatch (t : Transport) (now : Nat) (ops : List Shipment) :
    (t.dispatch now ops).2.dispatched =
      if t.rejection = none then t.dispatched ++ ops else t.dispatched := by
  unfold dispatch
  cases t.rejection with
  | some reason => simp
  | none => simp [dispatched_foldl_accept]

/-- The log before a dispatch is the beginning of the log after it. -/
theorem dispatched_prefix_dispatch (t : Transport) (now : Nat) (ops : List Shipment) :
    t.dispatched <+: (t.dispatch now ops).2.dispatched := by
  rw [dispatched_dispatch]
  split
  · exact List.prefix_append _ _
  · exact List.prefix_rfl

end Transport

namespace World

/-- The record that a store holds under an id. -/
def record? (w : World) (store id : String) : Option Record := (w.database.store store).record? id

/-- Every record stays, up to marks, and so does the log of the transport. -/
structure Grows (w w' : World) : Prop where
  database : w.database.Grows w'.database
  dispatched : w.transport.dispatched <+: w'.transport.dispatched

/-- A world that does not change has grown. -/
theorem Grows.refl (w : World) : w.Grows w := ⟨.refl _, List.prefix_rfl⟩

/-- A world that grows twice has grown. -/
theorem Grows.trans {a b c : World} (h : a.Grows b) (h' : b.Grows c) : a.Grows c :=
  ⟨h.database.trans h'.database, h.dispatched.trans h'.dispatched⟩

/-- A record is still there when the world has grown, perhaps marked. -/
theorem Grows.record? {w w' : World} (h : w.Grows w') {store id : String} {r : Record}
    (hr : w.record? store id = some r) : ∃ r', w'.record? store id = some r' ∧ r.Becomes r' :=
  h.database store id r hr

/-- What was accepted is still in the log. -/
theorem Grows.mem_dispatched {w w' : World} (h : w.Grows w') {op : Shipment}
    (hop : op ∈ w.transport.dispatched) : op ∈ w'.transport.dispatched :=
  h.dispatched.subset hop

/-- A world grows with its database. -/
theorem grows_of_database {w : World} {d : Database} (h : w.database.Grows d) :
    w.Grows { w with database := d } :=
  ⟨h, List.prefix_rfl⟩

/-- A look-up is growth. -/
theorem grows_getRecord (w : World) (store id : String) : w.Grows (w.getRecord store id).2 := by
  unfold getRecord
  -- a failure is used up, or the record is hidden once more, or it is read
  split
  · exact ⟨.refl _, List.prefix_rfl⟩
  · split
    · exact ⟨.refl _, List.prefix_rfl⟩
    · exact .refl w

/-- To mark a record is growth, whether the store fails or not. -/
theorem grows_setDispatched (w : World) (store id : String) :
    w.Grows (w.setDispatched store id).2 := by
  unfold setDispatched
  -- the store fails, or one record is marked
  split
  · exact ⟨.refl _, List.prefix_rfl⟩
  · exact grows_of_database (Database.grows_setDispatched _ _ _)

/-- A dispatch is growth. -/
theorem grows_dispatch (w : World) (ops : List Shipment) : w.Grows (w.dispatch ops).2 :=
  ⟨.refl _, Transport.dispatched_prefix_dispatch _ _ _⟩

/-- No call takes back a record or an entry of the transport's log. -/
theorem grows_answer (cancelled : Bool) {β : Type} (c : Call β) (w : World) :
    w.Grows (answer cancelled c w).2 := by
  -- one call after the other; only a call that may be cancelled wraps another one
  induction c generalizing w with
  | now => exact .refl w
  | isCancelled => exact .refl w
  | rollback tx => exact .refl w
  | freshId => exact ⟨.refl _, List.prefix_rfl⟩
  | handle m => exact ⟨.refl _, List.prefix_rfl⟩
  | observe outcome => exact ⟨.refl _, List.prefix_rfl⟩
  | beginTransaction store hints => exact grows_of_database (Database.grows_of_stores_eq rfl)
  | attach id tx hints => exact grows_of_database (Database.grows_attach _ _ _ _)
  | openStaging id hints => exact grows_of_database (Database.grows_openStaging _ _ _)
  | complete id => exact grows_of_database (Database.grows_complete _ _)
  | closeStaging id => exact grows_of_database (Database.grows_closeStaging _ _)
  | addRecord store r tx => exact grows_of_database (Database.grows_addRecord _ _ _ _)
  | commit tx => exact grows_of_database (Database.grows_commit _ _)
  | getRecord store id => exact grows_getRecord w store id
  | setDispatched store id => exact grows_setDispatched w store id
  | dispatch ops => exact grows_dispatch w ops
  | unlessCancelled c ih =>
    unfold answer
    split
    · exact .refl w
    · exact ih w

end World

end Outbox
