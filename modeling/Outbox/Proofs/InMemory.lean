import Outbox.Proofs.Changes
import Outbox.Proofs.Contract.Effects
import Outbox.Proofs.Uses

/-!
# A session whose collaborators are in memory

What the stores of a world hold when a session with an outbox has been opened, and when it has been
committed: a transaction of its own, and then the record of its batch.

* `Session.Outboxed.transaction_of_run_openWith`  the transaction after an open that goes well
* `Session.Outboxed.record_of_run_commit`         the record after a commit that goes well
-/

namespace Outbox

open Program

namespace Database

variable {d : Database}

/-- To complete a staging commits no transaction. -/
theorem committed_complete (id : StagingId) {tx : TransactionId} {t : Transaction}
    (h : (d.complete id).2.transactions[tx]? = some t) :
    ∃ t', d.transactions[tx]? = some t' ∧ t'.committed = t.committed := by
  unfold complete at h
  -- the staging is unknown, or the store fails, or the changes are handed over
  split at h
  · exact ⟨t, h, rfl⟩
  · next s _ =>
    split at h
    · exact ⟨t, h, rfl⟩
    · unfold handOver at h
      split at h
      · exact ⟨t, h, rfl⟩
      · next other _ =>
        split at h
        · next t' ht' =>
          -- the transaction that collects the changes is this one or another
          by_cases heq : other = tx
          · subst heq
            rw [getElem?_setTransaction_self ht'] at h
            obtain rfl := Option.some.inj h
            exact ⟨t', ht', rfl⟩
          · exact ⟨t, (List.getElem?_set_ne heq).symm.trans h, rfl⟩
        · exact ⟨t, h, rfl⟩
      · split at h <;> exact ⟨t, h, rfl⟩

/-- What is added to a transaction is of its store. -/
theorem addRecord_ok {name : String} {r : Record} {tx : TransactionId}
    (h : (d.addRecord name r tx).1 = .ok ()) : ∃ t, d.transactions[tx]? = some t ∧
      t.store = name ∧ (d.addRecord name r tx).2 =
        d.setTransaction tx { t with changes := t.changes ++ [.record r] } := by
  unfold addRecord at h ⊢
  split at h
  -- the store fails, the transaction is unknown, of another store, or collects the record
  · exact nomatch h
  · split at h
    · exact nomatch h
    · next t ht =>
      split at h
      · next hname =>
        exact ⟨t, ht, hname, by rw [if_pos hname]⟩
      · exact nomatch h

/-- When the commit of a transaction goes well, the records that it has collected are there. -/
theorem record?_of_commit {tx : TransactionId} {t : Transaction} {r : Record}
    (ht : d.transactions[tx]? = some t) (hopen : t.committed = false)
    (hr : Change.record r ∈ t.changes) (h : (d.commit tx).1 = .ok ()) :
    ((d.commit tx).2.store t.store).record? r.id = some r := by
  obtain ⟨reason, heq⟩ | ⟨e, -, heq⟩ | ⟨s, happly, heq⟩ := commit_cases ht hopen
  · exact nomatch (congrArg Prod.fst heq).symm.trans h
  · exact nomatch (congrArg Prod.fst heq).symm.trans h
  -- of the three outcomes of a commit only this one is without an error
  · obtain ⟨hnodup, -, rfl⟩ := Store.applyAll_eq_ok_iff.1 happly
    have hstore : (d.commit tx).2.store t.store =
        t.changes.foldl Store.apply (d.store t.store) := by
      rw [heq]
      exact (store_setStore ..).trans (if_pos rfl)
    rw [hstore]
    exact Store.record?_foldl_apply_self hnodup hr

end Database

section

variable {α : Type} {allowed : Except Misuse Unit} {refused : CallError → α} {rest : Program α}

/-- The gate in a world. -/
theorem run_gate (w : World) (cancelled : Bool) :
    w.run cancelled (gate allowed refused rest) =
      match allowed with
      | .error e => (refused (.misuse e), w)
      | .ok () => if cancelled then (refused .cancelled, w) else w.run cancelled rest := by
  cases allowed with
  | error e => rfl
  | ok _ => cases cancelled <;> rfl

end

namespace Session.Outboxed

variable {w w' : World} {cancelled : Bool} {s s' : Outboxed} {opening : Opening}

/-- A session that is abandoned reports the error for which it was. -/
theorem result_run_abandon (w : World) (s : Outboxed) (tx : TransactionId) (e : CallError) :
    (w.run cancelled (s.abandon tx e)).1.2 = .error e := by
  rw [abandon, World.run, run_bind]
  rfl

/-- A transaction that a session has begun by being started is empty and open. -/
theorem transaction_of_run_start {id : String} {countdown : Countdown}
    (h : w.run false (s.start opening id countdown) = ((s', .ok ()), w')) {tx : TransactionId}
    (htx : s'.transaction? = some tx) :
    w'.database.transactions[tx]? = some { store := s.store } := by
  unfold start at h
  rw [ask_bind, World.run_unlessCancelled, if_neg Bool.false_ne_true] at h
  dsimp only [World.answer] at h
  rw [ask_bind, World.run_unlessCancelled, if_neg Bool.false_ne_true] at h
  dsimp only [World.answer] at h
  -- whether the staging can join has been asked: only where it can does the open go well
  split at h
  · next heq => exact nomatch heq
  · next heq => exact nomatch heq
  -- a staging that cannot join has the session abandoned
  · exact nomatch (result_run_abandon ..).symm.trans (congrArg (·.1.2) h)
  · obtain ⟨heq, rfl⟩ := Prod.mk.inj h
    obtain rfl := (Prod.mk.inj heq).1
    obtain rfl := Option.some.inj htx
    show ((w.database.begin s.store).2.attach _ _ _).2.transactions[_]? = _
    rw [Database.transactions_attach]
    exact (Database.transactions_begin_fst w.database s.store).2

/-- So it is with a session that has been opened. -/
theorem transaction_of_run_openWith
    (h : w.run cancelled (s.openWith opening) = ((s', .ok ()), w')) {tx : TransactionId}
    (htx : s'.transaction? = some tx) :
    w'.database.transactions[tx]? = some { store := s.store } := by
  have hgate : s.openWith opening =
      gate s.phase.requireUnopened (fun e => (s, Except.error e)) _ := rfl
  -- the phase, the token, the opening, the id and the countdown can each stop it before it starts
  rw [hgate, run_gate] at h
  split at h
  · cases h
  · split at h
    · cases h
    · next hlive =>
      obtain rfl := Bool.eq_false_iff.2 hlive
      split at h
      · cases h
      · rw [World.run, run_bind] at h
        split at h
        · cases h
        · next id _ =>
          split at h
          · cases h
          · exact transaction_of_run_start h htx

/-- A session is finished with the result that it is finished with. -/
theorem result_run_finish (w : World) (s : Outboxed) (phase : Phase)
    (result : Except CallError Unit) : (w.run cancelled (s.finish phase result)).1.2 = result := by
  rw [finish, World.run, run_bind]
  rfl

/-- To let go is to leave what the stores hold. -/
theorem store_run_release (w : World) (s : Outboxed) (name : String) :
    (w.run cancelled s.release).2.database.store name = w.database.store name := by
  have hclose : (w.run cancelled s.withoutTransaction.closeOnce).2.database.store name =
      w.database.store name := by
    -- the staging was closed before, or it is closed now
    unfold closeOnce
    split
    · rfl
    · exact Database.store_closeStaging ..
  cases htx : s.transaction? with
  | none =>
    rw [release_of_none htx]
    exact hclose
  | some tx =>
    rw [release_of_some htx]
    exact hclose

/-- To finish a session leaves the stores as they are. -/
theorem store_run_finish (w : World) (s : Outboxed) (phase : Phase)
    (result : Except CallError Unit) (name : String) :
    (w.run cancelled (s.finish phase result)).2.database.store name = w.database.store name := by
  rw [finish, World.run, run_bind]
  exact store_run_release w s name

/-- An announcement goes to the transport alone. -/
theorem database_run_announce (w : World) (s : Outboxed) (o : Opened) :
    (w.run cancelled (s.announce o)).2.database = w.database := by
  unfold announce
  rw [ask_bind, World.run, run_call, ask_bind]
  -- a caller that has cancelled announces nothing
  cases cancelled with
  | true => rfl
  | false =>
    show (World.run w false
      (call (.unlessCancelled (.dispatch [s.announcement o w.clock.now])) _)).2.database = _
    rw [World.run_unlessCancelled, if_neg Bool.false_ne_true]
    split <;> rfl

/-- A batch that has been applied is under the id of its session. -/
theorem record_of_run_applyIn {id : String} {tx : TransactionId}
    (hopen : ∀ t, w.database.transactions[tx]? = some t → t.committed = false)
    (h : w.run cancelled (s.applyIn id tx) = (.ok (), w')) :
    (w'.database.store s.store).record? id = some (.new id s.batch) := by
  unfold applyIn at h
  rw [ask_bind, World.run, run_call] at h
  -- the three calls one after the other: the first that fails ends it
  cases hcompleted : (w.database.complete s.staging).1 with
  | error e =>
    dsimp only [World.answer, World.withDatabase] at h
    rw [hcompleted] at h
    exact nomatch h
  | ok _ =>
    dsimp only [World.answer, World.withDatabase] at h
    rw [hcompleted] at h
    dsimp only at h
    rw [ask_bind, run_call] at h
    cases hadded : ((w.database.complete s.staging).2.addRecord s.store (.new id s.batch) tx).1 with
    | error e =>
      dsimp only [World.answer, World.withDatabase] at h
      rw [hadded] at h
      exact nomatch h
    | ok _ =>
      obtain ⟨t, ht, hstore, hafter⟩ := Database.addRecord_ok hadded
      dsimp only [World.answer, World.withDatabase] at h
      rw [hadded, hafter] at h
      -- the transaction was open before the staging was completed, and completing commits nothing
      obtain ⟨t', ht', hsame⟩ := Database.committed_complete s.staging ht
      have hrecord := Database.record?_of_commit
        (t := { t with changes := t.changes ++ [.record (.new id s.batch)] })
        (Database.getElem?_setTransaction_self ht) (hsame.symm.trans (hopen t' ht'))
        (List.mem_append_right _ List.mem_cons_self) (congrArg Prod.fst h)
      obtain rfl := congrArg Prod.snd h
      rw [← hstore]
      exact hrecord

/-- When changes and record are made durable, the record is there. -/
theorem record_of_run_makeDurable {id : String} {tx : TransactionId}
    (hopen : ∀ t, w.database.transactions[tx]? = some t → t.committed = false)
    (h : (w.run cancelled (s.makeDurable id tx)).1 = .ok ()) :
    ((w.run cancelled (s.makeDurable id tx)).2.database.store s.store).record? id =
      some (.new id s.batch) := by
  unfold makeDurable at h ⊢
  rw [World.run, run_bind] at h ⊢
  cases happlied : run (World.answer cancelled) (s.applyIn id tx) w with
  | mk applied w' =>
    rw [happlied] at h
    cases applied with
    | error e => exact nomatch h
    | ok _ => exact record_of_run_applyIn hopen happlied

/-- A commit that goes well leaves its record, with the batch of the session in it. -/
theorem record_of_run_commit {o : Opened} {tx : TransactionId} (ho : s.opened = some o)
    (htx : o.transaction = some tx)
    (hopen : ∀ t, w.database.transactions[tx]? = some t → t.committed = false)
    (h : (w.run cancelled s.commit).1.2 = .ok ()) :
    ((w.run cancelled s.commit).2.database.store s.store).record? o.sessionId =
      some (.new o.sessionId s.batch) := by
  have hgate : s.commit = gate s.phase.requireOpen (fun e => (s, Except.error e)) _ := rfl
  -- the phase and the token are passed, since the commit goes well
  rw [hgate, run_gate] at h ⊢
  split at h
  · exact nomatch h
  · split at h
    · exact nomatch h
    · next hlive =>
      rw [if_neg hlive]
      rw [ho] at h ⊢
      dsimp only at h ⊢
      rw [World.run, run_bind] at h ⊢
      -- the announcement comes first, and the commit starts from the stores as they were
      have hdatabase : (w.run cancelled (s.announce o)).2.database = w.database :=
        database_run_announce w s o
      unfold World.run at hdatabase
      generalize run _ (s.announce o) w = announced at h hdatabase ⊢
      obtain ⟨told, w₁⟩ := announced
      cases told with
      | error e => exact nomatch (result_run_finish ..).symm.trans h
      | ok _ =>
        dsimp only at h ⊢
        rw [htx] at h ⊢
        dsimp only at h ⊢
        -- after the announcement the result is that of making the batch durable
        rw [run_bind] at h ⊢
        have hdurable := (result_run_finish _ s.withoutTransaction _ _).symm.trans h
        rw [← hdatabase] at hopen
        exact (congrArg (Store.record? · _) (store_run_finish _ s.withoutTransaction _ _ _)).trans
          (record_of_run_makeDurable hopen hdurable)

end Session.Outboxed

end Outbox
