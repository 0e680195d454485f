import Outbox.Proofs.Growth

/-!
# What a call touches

A call on a database touches the transaction and the staging that it names, and at most one store.
The frame lemmas say that all others stay; after them stand the lemmas that say what becomes of the
transaction or the staging that is named, given what it is like before, and at the end what a
look-up and a mark leave alone.

* `commits`         the ways in which a commit goes
* `complete_cases`  the two ways in which an attached staging is completed
-/

namespace Outbox.Database

variable {d : Database}

/-! ### Frames -/

/-- A transaction that is begun is none of those that were there. -/
theorem transactions_begin_of_lt (store : String) {i : TransactionId}
    (h : i < d.transactions.length) : (d.begin store).2.transactions[i]? = d.transactions[i]? :=
  List.getElem?_append_left h

/-- A record that is added to a transaction does not touch another one. -/
theorem transactions_addRecord_of_ne (name : String) (r : Record) {tx i : TransactionId}
    (h : tx ≠ i) : (d.addRecord name r tx).2.transactions[i]? = d.transactions[i]? := by
  unfold addRecord
  -- a fault, an unknown transaction, and one of another store leave the transactions as they are
  split
  · rfl
  · split
    · rfl
    · split
      · exact List.getElem?_set_ne h
      · rfl

/-- It touches no staging. -/
theorem stagings_addRecord (name : String) (r : Record) (tx : TransactionId) :
    (d.addRecord name r tx).2.stagings = d.stagings := by
  unfold addRecord
  split
  · rfl
  · split
    · rfl
    · split <;> rfl

/-- A commit does not touch another transaction. -/
theorem transactions_commit_of_ne {tx i : TransactionId} (h : tx ≠ i) :
    (d.commit tx).2.transactions[i]? = d.transactions[i]? := by
  unfold commit
  -- only the last two ways change a transaction, and it is the one that is committed
  split
  · rfl
  · split
    · rfl
    · split
      · rfl
      · split <;> exact List.getElem?_set_ne h

/-- It touches no staging. -/
theorem stagings_commit (tx : TransactionId) : (d.commit tx).2.stagings = d.stagings := by
  unfold commit
  -- each way changes a store or a transaction
  split
  · rfl
  · split
    · rfl
    · split
      · rfl
      · split <;> rfl

/-- To attach a staging touches no transaction. -/
theorem transactions_attach (id : StagingId) (tx : TransactionId) (hints : Hints) :
    (d.attach id tx hints).2.transactions = d.transactions := by
  unfold attach
  split
  · split <;> rfl
  · rfl

/-- It does not touch another staging. -/
theorem stagings_attach_of_ne (tx : TransactionId) (hints : Hints) {id i : StagingId}
    (h : id ≠ i) : (d.attach id tx hints).2.stagings[i]? = d.stagings[i]? := by
  unfold attach
  split
  · split
    · exact List.getElem?_set_ne h
    · rfl
  · rfl

/-- To close a staging does not touch another one. -/
theorem stagings_closeStaging_of_ne {id i : StagingId} (h : id ≠ i) :
    (d.closeStaging id).stagings[i]? = d.stagings[i]? := by
  unfold closeStaging
  split
  · exact List.getElem?_set_ne h
  · rfl

/-- It touches no transaction. -/
theorem transactions_closeStaging (id : StagingId) :
    (d.closeStaging id).transactions = d.transactions := by
  unfold closeStaging
  split <;> rfl

/-- To open a staging touches no transaction. -/
theorem transactions_openStaging (id : StagingId) (hints : Hints) :
    (d.openStaging id hints).transactions = d.transactions := by
  unfold openStaging
  split <;> rfl

/-- To stage a change touches no transaction. -/
theorem transactions_stage (id : StagingId) (key : String) (change : String → Change) :
    (d.stage id key change).2.transactions = d.transactions := by
  unfold stage
  split
  · rfl
  · split <;> rfl

/-- To hand changes over touches no staging. -/
theorem stagings_handOver (mode : Staging.Mode) (name : String) (staged : List Change) :
    (d.handOver mode name staged).2.stagings = d.stagings := by
  unfold handOver
  split
  · rfl
  · split <;> rfl
  · split <;> rfl

/-- To complete a staging does not touch another one. -/
theorem stagings_complete_of_ne {id i : StagingId} (h : id ≠ i) :
    (d.complete id).2.stagings[i]? = d.stagings[i]? := by
  unfold complete
  -- only what is handed over reaches the stagings: it empties the one that is completed
  split
  · rfl
  · split
    · rfl
    · rw [stagings_handOver]
      exact List.getElem?_set_ne h

/-- To complete a staging touches no transaction but the one that it is attached to. -/
theorem transactions_complete_of_ne {id : StagingId} {s : Staging} {tx i : TransactionId}
    (hs : d.stagings[id]? = some s) (hmode : s.mode = .attached tx) (h : tx ≠ i) :
    (d.complete id).2.transactions[i]? = d.transactions[i]? := by
  unfold complete
  rw [hs]
  dsimp only
  split
  -- the store has failed
  · rfl
  · rw [hmode]
    -- what an attached staging hands over goes to its transaction, not to a store
    dsimp only [handOver]
    split
    · exact List.getElem?_set_ne h
    · rfl

/-- Transactions and stagings keep their numbers. -/
structure SameSize (d d' : Database) : Prop where
  stagings : d'.stagings.length = d.stagings.length
  transactions : d'.transactions.length = d.transactions.length

/-- A database has the size that it has. -/
theorem SameSize.refl (d : Database) : SameSize d d := ⟨rfl, rfl⟩

/-- No record adds a transaction or a staging. -/
theorem sameSize_addRecord (name : String) (r : Record) (tx : TransactionId) :
    SameSize d (d.addRecord name r tx).2 := by
  unfold addRecord
  split
  -- the only way that changes a transaction sets it to another value
  · exact ⟨rfl, rfl⟩
  · split
    · exact .refl d
    · split
      · exact ⟨rfl, List.length_set⟩
      · exact .refl d

/-- Nor does a commit. -/
theorem sameSize_commit (tx : TransactionId) : SameSize d (d.commit tx).2 := by
  unfold commit
  -- no transaction, a committed one, a failing store, a refusal, and a commit
  split
  · exact .refl d
  · split
    · exact .refl d
    · split
      · exact ⟨rfl, rfl⟩
      · split <;> exact ⟨rfl, List.length_set⟩

/-- Nor does a staging that is attached. -/
theorem sameSize_attach (id : StagingId) (tx : TransactionId) (hints : Hints) :
    SameSize d (d.attach id tx hints).2 := by
  unfold attach
  split
  · split
    · exact ⟨List.length_set, rfl⟩
    · exact .refl d
  · exact .refl d

/-- Nor one that is closed. -/
theorem sameSize_closeStaging (id : StagingId) : SameSize d (d.closeStaging id) := by
  unfold closeStaging
  split
  · exact ⟨List.length_set, rfl⟩
  · exact .refl d

/-- Nor one that is completed. -/
theorem sameSize_complete (id : StagingId) : SameSize d (d.complete id).2 := by
  -- emptying the staging keeps their number
  have hset : ∀ u, (d.setStaging id u).stagings.length = d.stagings.length :=
    fun u => List.length_set
  unfold complete
  split
  · exact .refl d
  · split
    -- the store has failed, or the changes are handed over from a staging that is emptied
    · exact ⟨rfl, rfl⟩
    · unfold handOver
      -- by its mode: closed, attached to a transaction that exists or does not, and on its own
      split
      · exact ⟨hset _, rfl⟩
      · split
        · exact ⟨hset _, List.length_set⟩
        · exact ⟨hset _, rfl⟩
      · split <;> exact ⟨hset _, rfl⟩

/-! ### What becomes of what is named -/

/-- A staging of the same store joins a transaction. -/
theorem transactions_attach_joined {id : StagingId} {s : Staging} {tx : TransactionId}
    {t : Transaction} (hints : Hints) (hs : d.stagings[id]? = some s)
    (ht : d.transactions[tx]? = some t) (hstore : s.store = t.store) :
    d.attach id tx hints =
      (true, d.setStaging id { s with mode := .attached tx, partition := hints.partitionKey }) := by
  simp [attach, hs, ht, hstore]

/-- The transaction that was set is found under its number. -/
theorem getElem?_setTransaction_self {tx : TransactionId} {t u : Transaction}
    (h : d.transactions[tx]? = some t) : (d.setTransaction tx u).transactions[tx]? = some u := by
  have hlt : tx < d.transactions.length := (List.getElem?_eq_some_iff.1 h).1
  simp [setTransaction, hlt]

/-- The staging that was set is found under its number. -/
theorem getElem?_setStaging_self {id : StagingId} {s u : Staging}
    (h : d.stagings[id]? = some s) : (d.setStaging id u).stagings[id]? = some u := by
  have hlt : id < d.stagings.length := (List.getElem?_eq_some_iff.1 h).1
  simp [setStaging, hlt]

/-- A record is added to a transaction, or the store fails. -/
theorem addRecord_cases {name : String} {tx : TransactionId} {t : Transaction} (r : Record)
    (ht : d.transactions[tx]? = some t) (hname : t.store = name) :
    (∃ reason, (d.addRecord name r tx).1 = .error (.backend reason)) ∨
      d.addRecord name r tx =
        (.ok (), d.setTransaction tx { t with changes := t.changes ++ [.record r] }) := by
  unfold addRecord
  split
  · next reason s _ => exact .inl ⟨reason, rfl⟩
  · simp [ht, hname]

/-- A transaction that has not begun cannot be committed. -/
theorem commit_of_none {tx : TransactionId} (ht : d.transactions[tx]? = none) :
    d.commit tx = (.error foreignTransaction, d) := by
  rw [commit, ht]

/-- A transaction that has been committed answers a further commit, and does nothing. -/
theorem commit_of_committed {tx : TransactionId} {t : Transaction}
    (ht : d.transactions[tx]? = some t) (hdone : t.committed = true) :
    d.commit tx = (.ok (), d) := by
  simp [commit, ht, hdone]

/-- A transaction that is not committed yet: the store fails, it finds an id taken, or it makes all
changes. -/
theorem commit_cases {tx : TransactionId} {t : Transaction} (ht : d.transactions[tx]? = some t)
    (hopen : t.committed = false) :
    (∃ reason, d.commit tx = (.error (.backend reason),
      d.setStore t.store ((d.store t.store).disarm .commit).2)) ∨
    (∃ e, (d.store t.store).applyAll t.changes = .error e ∧
      d.commit tx = (.error e, d.setTransaction tx { t with changes := [] })) ∨
    (∃ s, (d.store t.store).applyAll t.changes = .ok s ∧
      d.commit tx = (.ok (), (d.setStore t.store s).setTransaction tx
        { t with changes := [], committed := true })) := by
  unfold commit
  -- nothing stands in the way but the fault and the changes
  rw [ht]
  simp only [hopen, Bool.false_eq_true, if_false]
  -- an armed fault is used up; when there is none, the store is as it was
  cases hf : (d.store t.store).faults.get .commit with
  | some reason => exact .inl ⟨reason, by simp [Store.disarm, hf]⟩
  | none =>
    rw [Store.disarm_of_none hf]
    dsimp only
    -- the changes fit, or one of their ids is taken
    cases happly : (d.store t.store).applyAll t.changes with
    | error e => exact .inr (.inl ⟨e, rfl, rfl⟩)
    | ok s => exact .inr (.inr ⟨s, rfl, rfl⟩)

/-- The ways in which a commit of any transaction goes. -/
inductive Commits (d : Database) (tx : TransactionId) : Prop
  /-- The transaction has not begun. -/
  | unknown : d.transactions[tx]? = none →
      d.commit tx = (.error foreignTransaction, d) → Commits d tx
  /-- It has been committed before. -/
  | again (t : Transaction) : d.transactions[tx]? = some t → t.committed = true →
      d.commit tx = (.ok (), d) → Commits d tx
  /-- The store fails. -/
  | failed (t : Transaction) (reason : String) : d.transactions[tx]? = some t →
      t.committed = false → d.commit tx = (.error (.backend reason),
        d.setStore t.store ((d.store t.store).disarm .commit).2) → Commits d tx
  /-- An id is taken, and the changes are lost. -/
  | refused (t : Transaction) (e : StoreError) : d.transactions[tx]? = some t →
      t.committed = false → (d.store t.store).applyAll t.changes = .error e →
      d.commit tx = (.error e, d.setTransaction tx { t with changes := [] }) → Commits d tx
  | applied (t : Transaction) (s : Store) : d.transactions[tx]? = some t →
      t.committed = false → (d.store t.store).applyAll t.changes = .ok s →
      d.commit tx = (.ok (), (d.setStore t.store s).setTransaction tx
        { t with changes := [], committed := true }) → Commits d tx

/-- The ways in which a commit can go. -/
theorem commits (d : Database) (tx : TransactionId) : d.Commits tx := by
  -- a transaction that is unknown or committed needs no look at its store
  cases ht : d.transactions[tx]? with
  | none => exact .unknown ht (commit_of_none ht)
  | some t =>
    cases hopen : t.committed with
    | true => exact .again t ht hopen (commit_of_committed ht hopen)
    | false =>
      obtain ⟨reason, heq⟩ | ⟨e, happly, heq⟩ | ⟨s, happly, heq⟩ := commit_cases ht hopen
      · exact .failed t reason ht hopen heq
      · exact .refused t e ht hopen happly heq
      · exact .applied t s ht hopen happly heq

/-- A staging that is attached to a transaction is completed, or the store fails. -/
theorem complete_cases {id : StagingId} {s : Staging} {tx : TransactionId} {t : Transaction}
    (hs : d.stagings[id]? = some s) (hmode : s.mode = .attached tx)
    (ht : d.transactions[tx]? = some t) :
    (∃ reason, (d.complete id).1 = .error (.backend reason)) ∨
      d.complete id = (.ok (), (d.setStaging id { s with staged := [] }).setTransaction tx
        { t with changes := t.changes ++ s.staged }) := by
  unfold complete
  rw [hs]
  dsimp only
  -- the armed fault, if there is one
  split
  · next reason _ _ => exact .inl ⟨reason, rfl⟩
  · rw [hmode]
    exact .inr (by simp [handOver, setStaging, setTransaction, ht])

end Outbox.Database

namespace Outbox.World

/-! ### Look-ups and marks

A look-up changes nothing but the faults that are armed for it; a mark changes stores beside. -/

/-- A look-up leaves the stores alone. -/
@[simp] theorem database_getRecord (w : World) (store id : String) :
    (w.getRecord store id).2.database = w.database := by
  unfold getRecord
  split
  · rfl
  · split <;> rfl

/-- It leaves the transport alone. -/
@[simp] theorem transport_getRecord (w : World) (store id : String) :
    (w.getRecord store id).2.transport = w.transport := by
  unfold getRecord
  split
  · rfl
  · split <;> rfl

/-- It leaves the clock alone. -/
@[simp] theorem clock_getRecord (w : World) (store id : String) :
    (w.getRecord store id).2.clock = w.clock := by
  unfold getRecord
  split
  · rfl
  · split <;> rfl

/-- A mark leaves the stagings alone. -/
@[simp] theorem stagings_setDispatched (w : World) (store id : String) :
    (w.setDispatched store id).2.database.stagings = w.database.stagings := by
  unfold setDispatched
  split <;> rfl

/-- It leaves the transactions alone. -/
@[simp] theorem transactions_setDispatched (w : World) (store id : String) :
    (w.setDispatched store id).2.database.transactions = w.database.transactions := by
  unfold setDispatched
  split <;> rfl

/-- It leaves the transport alone. -/
@[simp] theorem transport_setDispatched (w : World) (store id : String) :
    (w.setDispatched store id).2.transport = w.transport := by
  unfold setDispatched
  split <;> rfl

/-- It leaves the clock alone. -/
@[simp] theorem clock_setDispatched (w : World) (store id : String) :
    (w.setDispatched store id).2.clock = w.clock := by
  unfold setDispatched
  split <;> rfl

end Outbox.World
