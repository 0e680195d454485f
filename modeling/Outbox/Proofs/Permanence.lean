import Outbox.Proofs.Actions

/-!
# Records are permanent

A record that has been committed stays: whatever is done afterwards, by however many transactions
and stagings, it keeps its id and its operations in their order, and what is marked as dispatched
stays marked. A mark is a matter of one record. A transaction whose changes meet a record under an
id of theirs, or add two records under one id, is refused for the first such id and changes nothing.

That refusal is for a transaction that has not been committed. One that has been committed answers
every further commit that all is well, whatever has been added to it since, and makes no change.

* `takenId?_eq_some_iff`         the id for which changes are refused
* `Database.records_permanent`   what holds after any actions
* `Database.taken_id_unnoticed`  a committed transaction does not notice that an id is taken
-/

namespace Outbox

/-- The record later on: its id and its operations in their order are the same, and no mark has
been taken back. -/
structure Record.Continues (r r' : Record) : Prop where
  id : r'.id = r.id
  operations : r'.operations.map (·.operation) = r.operations.map (·.operation)
  dispatched : ∀ (i : Nat) (op op' : RecordedOperation), r.operations[i]? = some op →
    r'.operations[i]? = some op' → op.dispatched = true → op'.dispatched = true

/-- What a record becomes continues it. -/
theorem Record.Becomes.continues {r r' : Record} (h : r.Becomes r') : r.Continues r' := by
  obtain rfl | rfl := h
  · refine ⟨rfl, rfl, fun i op op' hop hop' hd => ?_⟩
    obtain rfl := Option.some.inj (hop.symm.trans hop')
    exact hd
  · refine ⟨rfl, batch_markDispatched r, fun i op op' _ hop' _ => ?_⟩
    rw [markDispatched, List.getElem?_map] at hop'
    obtain ⟨op₀, -, rfl⟩ := Option.map_eq_some_iff.1 hop'
    rfl

namespace Store

/-- The id for which changes are refused is the first one that is taken, or that an earlier record
of the changes has. -/
theorem first_of_takenId? {taken : String → Bool} {changes : List Change} {id : String}
    (h : takenId? taken changes = some id) :
    ∃ before rest, recordIds changes = before ++ id :: rest ∧
      (taken id = true ∨ id ∈ before) ∧ before.Nodup ∧ ∀ other ∈ before, taken other = false := by
  induction changes generalizing taken with
  | nil => cases h
  | cons c rest ih =>
    cases c with
    | put key value => exact ih h
    | delete key => exact ih h
    | record r =>
      rw [takenId?] at h
      split at h
      · next htaken =>
        obtain rfl := Option.some.inj h
        exact ⟨[], _, rfl, .inl htaken, .nil, by simp⟩
      · next hfirst =>
        -- for the rest of the changes the id of the record is taken, so it differs from theirs
        obtain ⟨before, rest', hids, htaken, hnodup, hfree⟩ := ih h
        refine ⟨r.id :: before, rest', by rw [recordIds_record, hids]; rfl, ?_, ?_, ?_⟩
        · rw [Bool.or_eq_true, beq_iff_eq] at htaken
          rcases htaken with (rfl | htaken) | hmem
          · exact .inr List.mem_cons_self
          · exact .inl htaken
          · exact .inr (List.mem_cons_of_mem _ hmem)
        · refine List.nodup_cons.2 ⟨fun hmem => ?_, hnodup⟩
          simpa using hfree r.id hmem
        · intro other hother
          rcases List.mem_cons.1 hother with rfl | hother
          · exact Bool.eq_false_iff.2 hfirst
          · exact (Bool.or_eq_false_iff.1 (hfree other hother)).2

/-- Some id of the changes is taken in the store, or they have it twice. -/
def Refuses (s : Store) (changes : List Change) : Prop :=
  (∃ id ∈ recordIds changes, s.record? id ≠ none) ∨ ¬ (recordIds changes).Nodup

/-- The id is the first that is taken, in the store or by an earlier record of the changes. -/
def RefusesFor (s : Store) (changes : List Change) (id : String) : Prop :=
  ∃ before rest, recordIds changes = before ++ id :: rest ∧
    (s.record? id ≠ none ∨ id ∈ before) ∧ before.Nodup ∧ ∀ other ∈ before, s.record? other = none

/-- Changes that a store refuses are not applied, and the error names the id. -/
theorem Refuses.applyAll {s : Store} {changes : List Change} (h : s.Refuses changes) :
    ∃ id, s.RefusesFor changes id ∧ s.applyAll changes = .error (.conflict id) := by
  cases htaken : takenId? s.records.contains changes with
  -- were there no such id, the changes would fit
  | none =>
    -- then the ids are distinct and free
    obtain ⟨hnodup, hfree⟩ := takenId?_eq_none_iff.1 htaken
    rcases h with ⟨id, hid, htaken⟩ | htwice
    · exact absurd (contains_eq_false_iff.1 (hfree id hid)) htaken
    · exact absurd hnodup htwice
  | some id =>
    obtain ⟨before, rest, hids, hid, hnodup, hfree⟩ := first_of_takenId? htaken
    refine ⟨id, ⟨before, rest, hids, hid.imp_left fun hcontains hnone => ?_, hnodup, ?_⟩, ?_⟩
    · rw [contains_eq_false_iff.2 hnone] at hcontains
      exact Bool.false_ne_true hcontains
    · exact fun other hother => contains_eq_false_iff.1 (hfree other hother)
    · rw [Store.applyAll, htaken]

/-! ### Marks -/

/-- A mark changes nothing but records. -/
theorem setDispatched_eq_self {s : Store} {id : String}
    (h : ∀ other, (s.setDispatched id).record? other = s.record? other) :
    s.setDispatched id = s := by
  have hrecords : (s.setDispatched id).records = s.records := Std.ExtTreeMap.ext_getElem? h
  show { s with records := (s.setDispatched id).records } = s
  rw [hrecords]

/-- To mark twice is to mark once. -/
theorem setDispatched_setDispatched (s : Store) (id : String) :
    (s.setDispatched id).setDispatched id = s.setDispatched id := by
  apply setDispatched_eq_self
  intro other
  simp only [record?_setDispatched]
  split
  · simp [Function.comp_def]
  · rfl

/-- Without a record there is nothing to mark. -/
theorem setDispatched_of_absent {s : Store} {id : String} (h : s.record? id = none) :
    s.setDispatched id = s := by
  apply setDispatched_eq_self
  intro other
  rw [record?_setDispatched]
  split
  · next heq => rw [← heq, h, Option.map_none]
  · rfl

end Store

namespace Database

variable {d : Database}

/-- A transaction that has not been committed and meets an id that is taken is refused for it. -/
theorem commit_of_refuses {tx : TransactionId} {t : Transaction}
    (ht : d.transactions[tx]? = some t) (hopen : t.committed = false)
    (hfault : (d.store t.store).faults.commit = none)
    (h : (d.store t.store).Refuses t.changes) :
    ∃ id, (d.store t.store).RefusesFor t.changes id ∧ (d.commit tx).1 = .error (.conflict id) ∧
      ∀ name, (d.commit tx).2.store name = d.store name := by
  obtain ⟨id, hfor, happly⟩ := h.applyAll
  have hcommit : d.commit tx =
      (.error (.conflict id), d.setTransaction tx { t with changes := [] }) := by
    have hquiet : (d.store t.store).disarm .commit = (none, d.store t.store) :=
      Store.disarm_of_none hfault
    simp [commit, ht, hopen, hquiet, happly]
  exact ⟨id, hfor, by rw [hcommit], fun name => by rw [hcommit]; rfl⟩

/-- A failure that is armed comes before everything that a commit finds out. -/
theorem commit_of_armed {tx : TransactionId} {t : Transaction} {reason : String}
    (ht : d.transactions[tx]? = some t) (hopen : t.committed = false)
    (hfault : (d.store t.store).faults.commit = some reason) :
    (d.commit tx).1 = .error (.backend reason) ∧
      ∀ name, (d.store name).SameContent ((d.commit tx).2.store name) := by
  have hcommit : d.commit tx = (.error (.backend reason),
      d.setStore t.store ((d.store t.store).disarm .commit).2) := by
    simp [commit, ht, hopen, Store.disarm, StoreFaults.get, hfault]
  rw [hcommit]
  exact ⟨rfl, sameContent_disarm d t.store .commit⟩

/-! ### Marks -/

/-- The second database is the first with the record under one id of one store marked, if there
is one. -/
structure MarksOnly (name id : String) (d d' : Database) : Prop where
  documents : ∀ other, (d'.store other).documents = (d.store other).documents
  records : ∀ other otherId, ¬ (other = name ∧ otherId = id) →
    (d'.store other).record? otherId = (d.store other).record? otherId
  /-- Marked again, it is as it was. -/
  again : ∀ other, (d'.setDispatched name id).store other = d'.store other
  absent : (d.store name).record? id = none → ∀ other, d'.store other = d.store other
  transactions : d'.transactions = d.transactions
  stagings : d'.stagings = d.stagings

/-- A mark changes one store. -/
theorem store_setDispatched (d : Database) (name id other : String) :
    (d.setDispatched name id).store other =
      if name = other then (d.store name).setDispatched id else d.store other :=
  store_setStore d name other _

/-- A mark changes the record under its id in its store, and nothing else. -/
theorem marksOnly_setDispatched (d : Database) (name id : String) :
    MarksOnly name id d (d.setDispatched name id) where
  documents other := by
    rw [store_setDispatched]
    -- it is this store or another, in each of the four parts
    split
    · next heq => rw [heq, Store.documents_setDispatched]
    · rfl
  records other otherId hother := by
    rw [store_setDispatched]
    split
    · next heq =>
      rw [heq, Store.record?_setDispatched, if_neg]
      exact fun hid => hother ⟨heq.symm, hid.symm⟩
    · rfl
  again other := by
    rw [store_setDispatched]
    split
    · next heq =>
      rw [← heq, store_setDispatched, if_pos rfl]
      exact Store.setDispatched_setDispatched (d.store name) id
    · rfl
  absent hnone other := by
    rw [store_setDispatched]
    split
    · next heq => rw [← heq, Store.setDispatched_of_absent hnone]
    · rfl
  transactions := rfl
  stagings := rfl

/-! ### Any actions -/

/-- What holds of the records of any store after any actions, by any number of transactions and
stagings in any order. -/
theorem records_permanent (before later : List Action) :
    let d := ({} : Database).after before
    -- a record stays, whatever is done later
    (∀ name id r, (d.store name).record? id = some r →
      ∃ r', ((d.after later).store name).record? id = some r' ∧ r.Continues r') ∧
    (∀ name id, MarksOnly name id d (d.perform (.setDispatched name id)).2) ∧
    (∀ name id r, (d.perform (.getRecord name id)).1 = .ok (some r) → r.id = id) ∧
    -- a commit is refused for an id that is taken, unless a failure is armed that comes first
    (∀ tx t, d.transactions[tx]? = some t → t.committed = false →
      (d.store t.store).Refuses t.changes →
      match (d.store t.store).faults.commit with
      | none => ∃ id, (d.store t.store).RefusesFor t.changes id ∧
          (d.perform (.commit tx)).1 = .error (.conflict id) ∧
          ∀ name, (d.perform (.commit tx)).2.store name = d.store name
      | some reason => (d.perform (.commit tx)).1 = .error (.backend reason) ∧
          ∀ name, (d.store name).SameContent ((d.perform (.commit tx)).2.store name)) ∧
    -- but a transaction that has been committed applies nothing more, and does not say so
    (∀ tx t, d.transactions[tx]? = some t → t.committed = true →
      d.perform (.commit tx) = (.ok none, d)) := by
  intro d
  -- one part after the other: records stay, marks, ids, refused commits, committed transactions
  refine ⟨fun name id r hr => ?_, marksOnly_setDispatched d, fun name id r hr => ?_, ?_, ?_⟩
  · obtain ⟨r', hr', hbecomes⟩ := grows_after d later name id r hr
    exact ⟨r', hr', hbecomes.continues⟩
  · have hkeyed : (d.store name).Keyed := keyed_after (fun other => by
      rw [store_empty]
      exact Store.keyed_empty) before name
    exact hkeyed id r (Except.ok.inj hr)
  · intro tx t ht hopen hrefuses
    -- a failure that is armed comes first
    cases hfault : (d.store t.store).faults.commit with
    | none =>
      obtain ⟨id, hfor, hreply, hstores⟩ := commit_of_refuses ht hopen hfault hrefuses
      exact ⟨id, hfor, by simp [perform, perform.silent, hreply, Except.map], hstores⟩
    | some reason =>
      obtain ⟨hreply, hcontent⟩ := commit_of_armed ht hopen hfault
      exact ⟨by simp [perform, perform.silent, hreply, Except.map], hcontent⟩
  · intro tx t ht hdone
    simp [perform, perform.silent, commit_of_committed ht hdone, Except.map]

/-- A record under the id a is committed by a first transaction; a second one is committed with a
record under the id b, and then collects a record under the id a. -/
def lateRecord : List Action :=
  [.begin "db", .addRecord "db" (.tombstone "a") 0, .commit 0,
   .begin "db", .addRecord "db" (.tombstone "b") 1, .commit 1, .addRecord "db" (.tombstone "a") 1]

/-- A commit that meets an id that is taken is not always refused: committed again, the second
transaction is told that all is well. -/
theorem taken_id_unnoticed :
    ¬ ∀ (before : List Action) (tx : TransactionId) (t : Transaction),
      let d := ({} : Database).after before
      d.transactions[tx]? = some t → (d.store t.store).faults.commit = none →
      (∃ id ∈ recordIds t.changes, (d.store t.store).record? id ≠ none) →
      ∃ id, (d.perform (.commit tx)).1 = .error (.conflict id) := by
  intro h
  -- the record stands under the id, and the transaction that has been committed takes it again
  have htaken : ("a" ∈ recordIds [Change.record (.tombstone "a")]) ∧
      ((({} : Database).after lateRecord).store "db").record? "a" ≠ none := by decide +kernel
  obtain ⟨id, hid⟩ := h lateRecord 1 ⟨"db", [.record (.tombstone "a")], true⟩ (by decide +kernel)
    (by decide +kernel) ⟨"a", htaken⟩
  have hok : ((({} : Database).after lateRecord).perform (.commit 1)).1.isOk = true := by
    decide +kernel
  rw [hid] at hok
  exact nomatch hok

end Database

end Outbox
