import Outbox.Proofs.Partitions.Places

/-!
# Where the changes of documents come from

A document is written by a change that has waited, in a transaction or in a staging, and what waits
there was staged by a put or a delete, under the stored key of its place.

* `Database.mem_pending_perform`  what an action adds to what waits
* `Database.document?_perform`    when documents change, and by what
* `Database.traced_after`         every change that waits has been asked for
-/

namespace Outbox

/-- The document that a change is about, and what is read there when it has been applied. -/
def Change.written? : Change → Option (String × Option Body)
  | .put key value => some (key, some value)
  | .delete key => some (key, none)
  | .record _ => none

/-- What is read under a key after changes is what was read before, or what one of them has
written. -/
theorem Store.document?_foldl_apply (s : Store) (changes : List Change) (key : String) :
    (changes.foldl apply s).document? key = s.document? key ∨
      ∃ c ∈ changes, c.written? = some (key, (changes.foldl apply s).document? key) := by
  -- on the changes; the last one that writes the key has the last word
  induction changes generalizing s with
  | nil => exact .inl rfl
  | cons c rest ih =>
    -- what the rest leaves is what the first change has left, or the rest has written it
    obtain hrest | ⟨c', hmem, hwritten⟩ := ih (s.apply c)
    · -- the first change decides, or leaves the document
      have hfirst : (s.apply c).document? key = s.document? key ∨
          c.written? = some (key, (s.apply c).document? key) := by
        cases c with
        | put other value =>
          by_cases heq : other = key
          · exact .inr (by simp [heq, Change.written?, apply, document?])
          · exact .inl (by simp [heq, apply, document?, Std.ExtTreeMap.getElem?_insert])
        | delete other =>
          by_cases heq : other = key
          · exact .inr (by simp [heq, Change.written?, apply, document?])
          · exact .inl (by simp [heq, apply, document?, Std.ExtTreeMap.getElem?_erase])
        | record r => exact .inl rfl
      rw [List.foldl_cons, hrest]
      exact hfirst.imp_right fun hwritten => ⟨c, List.mem_cons_self, hwritten⟩
    · exact .inr ⟨c', List.mem_cons_of_mem _ hmem, hwritten⟩

namespace Database

variable {d : Database} {c : Change}

/-- All changes that wait: in transactions for their commit, in stagings to be handed over. -/
def pending (d : Database) : List Change :=
  d.transactions.flatMap (·.changes) ++ d.stagings.flatMap (·.staged)

/-- What a transaction has collected is pending. -/
theorem mem_pending_of_transaction {tx : TransactionId} {t : Transaction}
    (ht : d.transactions[tx]? = some t) (hc : c ∈ t.changes) : c ∈ d.pending :=
  List.mem_append_left _ (List.mem_flatMap_of_mem (List.mem_of_getElem? ht) hc)

/-- What is staged is pending. -/
theorem mem_pending_of_staging {id : StagingId} {s : Staging} (hs : d.stagings[id]? = some s)
    (hc : c ∈ s.staged) : c ∈ d.pending :=
  List.mem_append_right _ (List.mem_flatMap_of_mem (List.mem_of_getElem? hs) hc)

/-- When a transaction is set, what is pending was so before, or is collected in it. -/
theorem mem_pending_setTransaction {tx : TransactionId} {t : Transaction}
    (h : c ∈ (d.setTransaction tx t).pending) : c ∈ t.changes ∨ c ∈ d.pending := by
  obtain h | h := List.mem_append.1 h
  · obtain ⟨t', ht', hc⟩ := List.mem_flatMap.1 h
    obtain hmem | rfl := List.mem_or_eq_of_mem_set ht'
    · exact .inr (List.mem_append_left _ (List.mem_flatMap_of_mem hmem hc))
    · exact .inl hc
  · exact .inr (List.mem_append_right _ h)

/-- When a staging is set, what is pending was so before, or is staged on it. -/
theorem mem_pending_setStaging {id : StagingId} {s : Staging}
    (h : c ∈ (d.setStaging id s).pending) : c ∈ s.staged ∨ c ∈ d.pending := by
  obtain h | h := List.mem_append.1 h
  · exact .inr (List.mem_append_left _ h)
  · obtain ⟨s', hs', hc⟩ := List.mem_flatMap.1 h
    obtain hmem | rfl := List.mem_or_eq_of_mem_set hs'
    · exact .inr (List.mem_append_right _ (List.mem_flatMap_of_mem hmem hc))
    · exact .inl hc

/-- What a transaction collects when changes are handed over is what it had, and these. -/
theorem mem_pending_handOver {mode : Staging.Mode} {name : String} {staged : List Change}
    (h : c ∈ (d.handOver mode name staged).2.pending) : c ∈ staged ∨ c ∈ d.pending := by
  rw [handOver.eq_def] at h
  -- only a staging that is attached to a transaction leaves changes pending
  split at h
  · exact .inr h
  · split at h
    · next t ht =>
      obtain hc | hc := mem_pending_setTransaction h
      · obtain hc | hc := List.mem_append.1 hc
        · exact .inr (mem_pending_of_transaction ht hc)
        · exact .inl hc
      · exact .inr hc
    · exact .inr h
  · split at h <;> exact .inr h

/-- To complete a staging makes nothing pending that was not. -/
theorem mem_pending_complete {id : StagingId} (h : c ∈ (d.complete id).2.pending) :
    c ∈ d.pending := by
  -- an unknown staging and a failing store leave everything where it was
  rw [complete] at h
  split at h
  · exact h
  · next s hs =>
    split at h
    · exact h
    · -- what is handed over was staged, and what stays is what was there
      obtain hc | hc := mem_pending_handOver h
      · exact mem_pending_of_staging hs hc
      · exact (mem_pending_setStaging hc).resolve_left List.not_mem_nil

/-- Nor does a commit. -/
theorem mem_pending_commit {tx : TransactionId} (h : c ∈ (d.commit tx).2.pending) :
    c ∈ d.pending := by
  -- only a commit that is decided, one way or the other, empties its transaction
  cases d.commits tx with
  | unknown _ heq | again _ _ _ heq | failed _ _ _ _ heq =>
    rw [heq] at h
    exact h
  | refused t e ht _ _ heq | applied t s ht _ _ heq =>
    rw [heq] at h
    exact (mem_pending_setTransaction h).resolve_left List.not_mem_nil

/-- A record that is added is the only change that becomes pending. -/
theorem mem_pending_addRecord {name : String} {r : Record} {tx : TransactionId}
    (h : c ∈ (d.addRecord name r tx).2.pending) : c = .record r ∨ c ∈ d.pending := by
  rw [addRecord] at h
  -- the store has failed, the transaction is unknown or of another store, or it collects the record
  split at h
  · exact .inr h
  · split at h
    · exact .inr h
    · next t ht =>
      split at h
      · obtain hc | hc := mem_pending_setTransaction h
        · obtain hc | hc := List.mem_append.1 hc
          · exact .inr (mem_pending_of_transaction ht hc)
          · exact .inl (List.mem_singleton.1 hc)
        · exact .inr hc
      · exact .inr h

/-- A staging that changes in something else than what it has staged. -/
theorem mem_pending_restage {id : StagingId} {s s' : Staging} (hs : d.stagings[id]? = some s)
    (h : c ∈ (d.setStaging id s').pending) (hsub : s'.staged ⊆ s.staged) : c ∈ d.pending := by
  obtain hc | hc := mem_pending_setStaging h
  · exact mem_pending_of_staging hs (hsub hc)
  · exact hc

/-- To attach a staging makes nothing pending. -/
theorem mem_pending_attach {id : StagingId} {tx : TransactionId} {hints : Hints}
    (h : c ∈ (d.attach id tx hints).2.pending) : c ∈ d.pending := by
  rw [attach] at h
  -- what is staged stays staged, under another mode
  split at h
  · next s t hs _ =>
    split at h
    · exact mem_pending_restage hs h (List.Subset.refl _)
    · exact h
  · exact h

/-- Nor does it to open one. -/
theorem mem_pending_openStaging {id : StagingId} {hints : Hints}
    (h : c ∈ (d.openStaging id hints).pending) : c ∈ d.pending := by
  rw [openStaging] at h
  split at h
  · next s hs => exact mem_pending_restage hs h (List.Subset.refl _)
  · exact h

/-- Nor does it to close one. -/
theorem mem_pending_closeStaging {id : StagingId} (h : c ∈ (d.closeStaging id).pending) :
    c ∈ d.pending := by
  rw [closeStaging] at h
  split at h
  · next s hs => exact mem_pending_restage hs h (List.nil_subset _)
  · exact h

/-- A put or a delete stages its change, under the stored key of its place, or is refused. -/
theorem mem_pending_stage {id : StagingId} {key : String} {change : String → Change}
    (h : c ∈ (d.stage id key change).2.pending) :
    c ∈ d.pending ∨ ∃ partition, d.openPartition? id = some partition ∧
      c = change (Place.storedKey ⟨partition, key⟩) := by
  cases hopen : d.openPartition? id with
  -- a staging that is not open refuses the change
  | none =>
    rw [stage_of_not_open hopen] at h
    exact .inl h
  | some partition =>
    obtain ⟨s, hs, hstage⟩ := stage_of_open hopen key change
    rw [hstage] at h
    obtain hc | hc := mem_pending_setStaging h
    · obtain hc | hc := List.mem_append.1 hc
      · exact .inl (mem_pending_of_staging hs hc)
      · exact .inr ⟨partition, rfl, List.mem_singleton.1 hc⟩
    · exact .inl hc

/-- A change that waits after an action has waited before it, adds a record, or is what the action
writes. -/
theorem mem_pending_perform {a : Action} (h : c ∈ (d.perform a).2.pending) :
    c ∈ d.pending ∨ ∀ stored value, c.written? = some (stored, value) →
      ∃ p, d.write? a = some (p, value) ∧ p.storedKey = stored := by
  cases a with
  | begin name => exact .inl (by simpa [perform, begin, pending] using h)
  | newStaging name => exact .inl (by simpa [perform, newStaging, pending] using h)
  | addRecord name r tx =>
    -- what is pending behind a record is that record, or was pending before
    obtain rfl | hc := mem_pending_addRecord h
    · refine .inr fun stored written hwritten => ?_
      -- a record writes no document
      simp [Change.written?] at hwritten
    · exact .inl hc
  | commit tx => exact .inl (mem_pending_commit h)
  | attach id tx hints => exact .inl (mem_pending_attach h)
  | openStaging id hints => exact .inl (mem_pending_openStaging h)
  | complete id => exact .inl (mem_pending_complete h)
  | closeStaging id => exact .inl (mem_pending_closeStaging h)
  | drop _ | getRecord _ _ | setDispatched _ _ | arm _ _ _ => exact .inl h
  -- a put and a delete are the actions that write documents
  | put id key value =>
    refine (mem_pending_stage h).imp_right ?_
    rintro ⟨partition, hopen, rfl⟩ stored written hwritten
    obtain ⟨rfl, rfl⟩ := Prod.mk.inj (Option.some.inj hwritten)
    exact ⟨⟨partition, key⟩, by simp [write?, hopen], rfl⟩
  | delete id key =>
    refine (mem_pending_stage h).imp_right ?_
    rintro ⟨partition, hopen, rfl⟩ stored written hwritten
    obtain ⟨rfl, rfl⟩ := Prod.mk.inj (Option.some.inj hwritten)
    exact ⟨⟨partition, key⟩, by simp [write?, hopen], rfl⟩

/-- A store is given another document by changes that have waited. -/
theorem document?_of_applied {d' : Database} (home : String) {changes : List Change}
    (hstores : d'.stores =
      (d.setStore home (changes.foldl Store.apply (d.store home))).stores)
    (hpending : changes ⊆ d.pending) (name key : String) :
    (d'.store name).document? key = (d.store name).document? key ∨
      ∃ c ∈ d.pending, c.written? = some (key, (d'.store name).document? key) := by
  -- other stores stay, and that one applies what was pending
  rw [show d'.store name = (d.setStore home (changes.foldl Store.apply (d.store home))).store name
    by rw [store, store, hstores], store_setStore]
  split
  · next heq =>
    obtain hkept | ⟨c, hc, hwritten⟩ := Store.document?_foldl_apply (d.store home) changes key
    · exact .inl (heq ▸ hkept)
    · exact .inr ⟨c, hpending hc, hwritten⟩
  · exact .inl rfl

/-- A document is read from the documents of its store. -/
theorem document?_of_documents {d' : Database} {name : String} (key : String)
    (h : (d'.store name).documents = (d.store name).documents) :
    (d'.store name).document? key = (d.store name).document? key := by
  rw [Store.document?, h, Store.document?]

/-- A store with the same documents in place of another changes no document. -/
theorem documents_setStore {home : String} {s : Store}
    (h : s.documents = (d.store home).documents) (name : String) :
    ((d.setStore home s).store name).documents = (d.store name).documents := by
  rw [store_setStore]
  split
  · next heq => exact heq ▸ h
  · rfl

/-- A document changes in a commit to what a pending change has written. -/
theorem document?_commit (d : Database) (tx : TransactionId) (name key : String) :
    ((d.commit tx).2.store name).document? key = (d.store name).document? key ∨
      ∃ c ∈ d.pending, c.written? = some (key, ((d.commit tx).2.store name).document? key) := by
  cases d.commits tx with
  | unknown _ heq | again _ _ _ heq | refused _ _ _ _ _ heq =>
    rw [heq]
    exact .inl rfl
  -- a commit that fails or is refused writes nothing
  | failed t reason _ _ heq =>
    rw [heq]
    have hdisarm := sameContent_disarm d t.store .commit name
    exact .inl (document?_of_documents key hdisarm.documents)
  -- one that goes well writes what the transaction has collected
  | applied t s ht _ happly heq =>
    rw [heq]
    obtain ⟨-, -, rfl⟩ := Store.applyAll_eq_ok_iff.1 happly
    exact document?_of_applied t.store rfl
      (fun c hc => mem_pending_of_transaction ht hc) name key

/-- A document changes when a staging is completed to what a pending change has written. -/
theorem document?_complete (d : Database) (id : StagingId) (name key : String) :
    ((d.complete id).2.store name).document? key = (d.store name).document? key ∨
      ∃ c ∈ d.pending, c.written? = some (key, ((d.complete id).2.store name).document? key) := by
  rw [complete]
  -- unknown, failing, or handing over by its mode
  split
  · exact .inl rfl
  · next s hs =>
    split
    · next store hstore =>
      obtain rfl : _ = store := congrArg Prod.snd hstore
      have hdisarm := sameContent_disarm d s.store .complete name
      exact .inl (document?_of_documents key hdisarm.documents)
    · -- only a staging that stands alone hands its changes to the store itself
      rw [handOver.eq_def]
      split
      · exact .inl rfl
      · split <;> exact .inl rfl
      · split
        · next s' happly =>
          obtain ⟨-, -, rfl⟩ := Store.applyAll_eq_ok_iff.1 happly
          exact document?_of_applied s.store rfl
            (fun c hc => mem_pending_of_staging hs hc) name key
        · exact .inl rfl

/-- Documents change when changes that have waited are applied, by a commit or by the completion of
a staging, and at no other time. -/
theorem document?_perform (d : Database) (a : Action) (name key : String) :
    ((d.perform a).2.store name).document? key = (d.store name).document? key ∨
      ((∃ tx, a = .commit tx) ∨ ∃ id, a = .complete id) ∧
        ∃ c ∈ d.pending, c.written? = some (key, ((d.perform a).2.store name).document? key) := by
  -- a commit and a completion write; everything else leaves all documents
  cases a with
  | commit tx => exact (document?_commit d tx name key).imp_right fun h => ⟨.inl ⟨tx, rfl⟩, h⟩
  | complete id =>
    exact (document?_complete d id name key).imp_right fun h => ⟨.inr ⟨id, rfl⟩, h⟩
  | begin _ | drop _ | newStaging _ | getRecord _ _ => exact .inl rfl
  | addRecord store r tx =>
    exact .inl (document?_of_documents key (sameContent_addRecord d store r tx name).documents)
  | attach id tx hints =>
    exact .inl (congrArg (·.document? key) (store_attach d id tx hints name))
  | openStaging id hints =>
    exact .inl (congrArg (·.document? key) (store_openStaging d id hints name))
  | put id key' _ | delete id key' =>
    exact .inl (congrArg (·.document? key) (store_stage d id key' _ name))
  | closeStaging id => exact .inl (congrArg (·.document? key) (store_closeStaging d id name))
  | setDispatched store id =>
    have hmark : ((d.store store).setDispatched id).documents = (d.store store).documents := rfl
    exact .inl (document?_of_documents key (documents_setStore hmark name))
  | arm store call reason =>
    have harm : ((d.store store).arm call reason).documents = (d.store store).documents := rfl
    exact .inl (document?_of_documents key (documents_setStore harm name))

end Database

/-! ### Any run -/

/-- A put or a delete of the run has asked for the change. -/
def Change.AskedFor (past : List Moment) (c : Change) : Prop :=
  ∀ stored value, c.written? = some (stored, value) →
    ∃ m ∈ past, ∃ p, m.write? = some (p, value) ∧ p.storedKey = stored

namespace Database

/-- Every change that waits has been asked for. -/
def Traced (past : List Moment) (d : Database) : Prop := ∀ c ∈ d.pending, c.AskedFor past

/-- Each pending change can be traced to the write that has staged it, after one more action. -/
theorem Traced.concat {past : List Moment} {m : Moment} (h : Traced past m.database) :
    Traced (past ++ [m]) m.next := by
  intro c hc stored value hwritten
  obtain hold | hnew := mem_pending_perform hc
  · obtain ⟨m', hm', hask⟩ := h c hold stored value hwritten
    exact ⟨m', List.mem_append_left _ hm', hask⟩
  · exact ⟨m, List.mem_append_right _ List.mem_cons_self, hnew stored value hwritten⟩

/-- And so it can after any list of actions. -/
theorem traced_after (actions : List Action) :
    Traced (({} : Database).moments actions) (({} : Database).after actions) :=
  have hstart : Traced [] {} := fun _ hc => nomatch hc
  invariant_run (P := Traced) (fun _ _ h => h.concat) hstart actions

end Database

end Outbox
