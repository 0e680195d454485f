import Outbox.Proofs.Actions
import Outbox.Proofs.Blocked

/-!
# What becomes of what is staged

Changes are staged into a transaction when a record is added to it, or when a staging that is
attached to it is completed. From then on each of them is in one of four places: it waits in the
transaction, it has been applied by the commit of the transaction, it was lost to a conflict at an
earlier attempt to commit, or it came when the transaction had been committed and stays where it is.
The changes of the last two kinds are the ones that a commit passes over when it answers that all
is well.

* `Moment.balance`            one action moves changes from one place to the next
* `Database.settled_after`    where everything that was staged is, after any actions
* `Database.commit_accounts`  what a commit that answers has done, and what it has not
* `Database.refused_lost`     a commit that succeeds at the second attempt, and does nothing
-/

namespace Outbox

namespace Database

/-- The changes that wait in a transaction. -/
def waiting (d : Database) (tx : TransactionId) : List Change :=
  (d.transactions[tx]?.map (·.changes)).getD []

/-- Whether a transaction has been committed. -/
def isCommitted (d : Database) (tx : TransactionId) : Bool :=
  (d.transactions[tx]?.map (·.committed)).getD false

end Database

namespace Moment

variable (tx : TransactionId)

/-- The changes that the action stages into a transaction: a record that is added, or what a
staging that is attached to the transaction hands over. -/
def staged (m : Moment) : List Change :=
  match m.action, m.reply with
  | .addRecord _ r other, .ok _ => if other = tx then [.record r] else []
  | .complete id, .ok _ =>
    match m.database.stagings[id]? with
    | some s =>
      -- a transaction that has not begun collects nothing
      if s.mode = .attached tx ∧ tx < m.database.transactions.length then s.staged else []
    | none => []
  | _, _ => []

/-- The changes that a commit of the transaction applies. -/
def applied (m : Moment) : List Change :=
  match m.action, m.reply with
  | .commit other, .ok _ =>
    if other = tx ∧ m.database.isCommitted tx = false then m.database.waiting tx else []
  | _, _ => []

/-- The changes that a commit of the transaction takes out of it and loses to a conflict. -/
def refused (m : Moment) : List Change :=
  match m.action, m.reply with
  | .commit other, .error (.conflict _) => if other = tx then m.database.waiting tx else []
  | _, _ => []

end Moment

namespace Database

variable {d d' : Database} {tx : TransactionId}

/-! ### One action -/

/-- What waits depends on the transaction only. -/
theorem waiting_congr (h : d'.transactions[tx]? = d.transactions[tx]?) :
    d'.waiting tx = d.waiting tx := by
  rw [waiting, waiting, h]

/-- And so does whether it has been committed. -/
theorem isCommitted_congr (h : d'.transactions[tx]? = d.transactions[tx]?) :
    d'.isCommitted tx = d.isCommitted tx := by
  rw [isCommitted, isCommitted, h]

/-- What waits in a transaction that has begun is what it has collected. -/
theorem waiting_of_some {t : Transaction} (h : d.transactions[tx]? = some t) :
    d.waiting tx = t.changes := by
  rw [waiting, h]
  rfl

/-- A transaction that has begun says itself whether it has been committed. -/
theorem isCommitted_of_some {t : Transaction} (h : d.transactions[tx]? = some t) :
    d.isCommitted tx = t.committed := by
  rw [isCommitted, h]
  rfl

/-- A record is refused and the transactions stay, or its transaction collects it. -/
theorem addRecord_or (d : Database) (name : String) (r : Record) (tx : TransactionId) :
    ((∃ e, (d.addRecord name r tx).1 = .error e) ∧
      (d.addRecord name r tx).2.transactions = d.transactions) ∨
    ∃ t, d.transactions[tx]? = some t ∧ (d.addRecord name r tx).1 = .ok () ∧
      (d.addRecord name r tx).2 =
        d.setTransaction tx { t with changes := t.changes ++ [.record r] } := by
  cases hreply : (d.addRecord name r tx).1 with
  | ok _ =>
    obtain ⟨t, ht, -, hafter⟩ := addRecord_ok hreply
    exact .inr ⟨t, ht, rfl, hafter⟩
  | error e =>
    refine .inl ⟨⟨e, rfl⟩, ?_⟩
    -- the store fails, the transaction is unknown, or it is of another store
    unfold addRecord at hreply ⊢
    split
    · rfl
    · split
      · rfl
      · split
        · next hname =>
          simp_all
        · rfl

/-- A staging is not completed and the transactions stay, or its transaction, when it is attached
to one that has begun, collects what it has staged. -/
theorem complete_or (d : Database) (id : StagingId) :
    ((∃ e, (d.complete id).1 = .error e) ∧ (d.complete id).2.transactions = d.transactions) ∨
    ∃ s, d.stagings[id]? = some s ∧ (d.complete id).1 = .ok () ∧
      ((∃ tx t, s.mode = .attached tx ∧ d.transactions[tx]? = some t ∧
        (d.complete id).2.transactions =
          d.transactions.set tx { t with changes := t.changes ++ s.staged }) ∨
      (∀ tx, s.mode = .attached tx → d.transactions[tx]? = none) ∧
        (d.complete id).2.transactions = d.transactions) := by
  unfold complete
  -- the staging is unknown, the store fails, the staging is not open, or it hands its changes over
  split
  · exact .inl ⟨⟨_, rfl⟩, rfl⟩
  · next s hs =>
    split
    · exact .inl ⟨⟨_, rfl⟩, rfl⟩
    · unfold handOver
      split
      · exact .inl ⟨⟨_, rfl⟩, rfl⟩
      · next tx hmode =>
        refine .inr ⟨s, hs, ?_⟩
        split
        · next t ht => exact ⟨rfl, .inl ⟨tx, t, hmode, ht, rfl⟩⟩
        -- what is attached to a transaction that has not begun hands its changes to nobody
        · next hnone =>
          refine ⟨rfl, .inr ⟨fun other hother => ?_, rfl⟩⟩
          obtain rfl : tx = other := by simpa [hmode] using hother
          exact hnone
      · next hmode =>
        split
        · exact .inr ⟨s, hs, rfl, .inr ⟨fun _ h => absurd (hmode.symm.trans h) nofun, rfl⟩⟩
        · exact .inl ⟨⟨_, rfl⟩, rfl⟩

end Database

namespace Moment

open Database

variable (tx : TransactionId)

/-- What one action does about the changes of a transaction: it stages some more, if any, or it
commits the transaction, which loses what waits in it or applies it. -/
inductive Turn (m : Moment) : Prop
  | collects : m.refused tx = [] → m.applied tx = [] →
      m.next.waiting tx = m.database.waiting tx ++ m.staged tx →
      m.next.isCommitted tx = m.database.isCommitted tx → Turn m
  | loses : m.staged tx = [] → m.applied tx = [] → m.refused tx = m.database.waiting tx →
      m.next.waiting tx = [] → m.database.isCommitted tx = false →
      m.next.isCommitted tx = false → Turn m
  | settles : m.staged tx = [] → m.refused tx = [] → m.applied tx = m.database.waiting tx →
      m.next.waiting tx = [] → m.database.isCommitted tx = false →
      m.next.isCommitted tx = true → Turn m

variable (d : Database)

/-- What the addition of a record stages for a transaction. -/
theorem staged_addRecord (store : String) (r : Record) (other : TransactionId) :
    staged tx ⟨d, .addRecord store r other⟩ =
      match (d.addRecord store r other).1 with
      | .ok _ => if other = tx then [.record r] else []
      | .error _ => [] := by
  cases h : (d.addRecord store r other).1 <;>
    simp [staged, reply, perform, perform.silent, h, Except.map]

/-- What the completion of a staging stages for a transaction. -/
theorem staged_complete {d : Database} {id : StagingId} {s : Staging}
    (hs : d.stagings[id]? = some s) :
    staged tx ⟨d, .complete id⟩ =
      match (d.complete id).1 with
      | .ok _ => if s.mode = .attached tx ∧ tx < d.transactions.length then s.staged else []
      | .error _ => [] := by
  cases h : (d.complete id).1 <;>
    simp [staged, reply, perform, perform.silent, h, hs, Except.map]

/-- What a commit applies of a transaction. -/
theorem applied_commit (other : TransactionId) :
    applied tx ⟨d, .commit other⟩ =
      match (d.commit other).1 with
      | .ok _ => if other = tx ∧ d.isCommitted tx = false then d.waiting tx else []
      | .error _ => [] := by
  cases h : (d.commit other).1 <;>
    simp [applied, reply, perform, perform.silent, h, Except.map]

/-- What a commit refuses of a transaction. -/
theorem refused_commit (other : TransactionId) :
    refused tx ⟨d, .commit other⟩ =
      match (d.commit other).1 with
      | .error (.conflict _) => if other = tx then d.waiting tx else []
      | _ => [] := by
  cases h : (d.commit other).1 with
  | ok _ => simp [refused, reply, perform, perform.silent, h, Except.map]
  | error e => cases e <;> simp [refused, reply, perform, perform.silent, h, Except.map]

variable {tx} {d}

/-- An action that leaves the transaction as it is. -/
theorem turn_of_eq {m : Moment} (h : m.next.transactions[tx]? = m.database.transactions[tx]?)
    (hrefused : m.refused tx = []) (happlied : m.applied tx = []) (hstaged : m.staged tx = []) :
    m.Turn tx :=
  .collects hrefused happlied (by rw [waiting_congr h, hstaged, List.append_nil])
    (isCommitted_congr h)

/-- To begin a transaction is a turn of every transaction. -/
theorem turn_begin (store : String) : Turn tx ⟨d, .begin store⟩ := by
  obtain ⟨hnone, hnew⟩ := transactions_begin_fst d store
  by_cases hlt : tx < d.transactions.length
  · exact turn_of_eq (transactions_begin_of_lt store hlt) rfl rfl rfl
  by_cases heq : (d.begin store).1 = tx
  · -- the new transaction is empty, and nothing waited under its number
    subst heq
    refine .collects rfl rfl ?_ ?_
    · exact (waiting_of_some hnew).trans (by rw [waiting, hnone]; rfl)
    · exact (isCommitted_of_some hnew).trans (by rw [isCommitted, hnone]; rfl)
  -- another transaction has begun, and this one is still to come
  · refine turn_of_eq ?_ rfl rfl rfl
    have hlater : d.transactions.length < tx := Nat.lt_of_le_of_ne (Nat.not_lt.1 hlt) heq
    have hafter : (d.begin store).2.transactions[tx]? = none :=
      List.getElem?_eq_none (by simpa [begin] using Nat.succ_le_of_lt hlater)
    exact hafter.trans (List.getElem?_eq_none (Nat.not_lt.1 hlt)).symm

/-- To add a record is a turn. -/
theorem turn_addRecord (store : String) (r : Record) (other : TransactionId) :
    Turn tx ⟨d, .addRecord store r other⟩ := by
  have hstaged := staged_addRecord tx d store r other
  obtain ⟨⟨e, hreply⟩, hsame⟩ | ⟨t, ht, hreply, hafter⟩ := addRecord_or d store r other
  · rw [hreply] at hstaged
    exact turn_of_eq (congrArg (·[tx]?) hsame) rfl rfl hstaged
  · rw [hreply] at hstaged
    -- the record goes to this transaction or to another one
    by_cases heq : other = tx
    · subst heq
      have hnext : (d.addRecord store r other).2.transactions[other]? =
          some { t with changes := t.changes ++ [.record r] } := by
        rw [hafter]
        exact getElem?_setTransaction_self ht
      refine .collects rfl rfl ?_ ((isCommitted_of_some hnext).trans (isCommitted_of_some ht).symm)
      rw [hstaged, if_pos rfl]
      exact (waiting_of_some hnext).trans (by rw [waiting_of_some ht])
    · exact turn_of_eq (transactions_addRecord_of_ne store r heq) rfl rfl
        (hstaged.trans (if_neg heq))

/-- To complete a staging is a turn. -/
theorem turn_complete (id : StagingId) : Turn tx ⟨d, .complete id⟩ := by
  obtain ⟨⟨e, hreply⟩, hsame⟩ | ⟨s, hs, hreply, hafter⟩ := complete_or d id
  · have hstaged : staged tx ⟨d, .complete id⟩ = [] := by
      simp [staged, reply, perform, perform.silent, hreply, Except.map]
    exact turn_of_eq (congrArg (·[tx]?) hsame) rfl rfl hstaged
  · have hstaged := staged_complete tx hs
    rw [hreply] at hstaged
    obtain ⟨other, t, hmode, ht, hafter⟩ | ⟨hnone, hsame⟩ := hafter
    · have hlt : other < d.transactions.length := (List.getElem?_eq_some_iff.1 ht).1
      -- the staging hands its changes to this transaction or to another one
      by_cases heq : other = tx
      · subst heq
        have hnext : (d.complete id).2.transactions[other]? =
            some { t with changes := t.changes ++ s.staged } := by
          rw [hafter, List.getElem?_set_self hlt]
        refine .collects rfl rfl ?_
          ((isCommitted_of_some hnext).trans (isCommitted_of_some ht).symm)
        rw [hstaged, if_pos ⟨hmode, hlt⟩]
        exact (waiting_of_some hnext).trans (by rw [waiting_of_some ht])
      · have hother : ¬ (s.mode = .attached tx ∧ tx < d.transactions.length) :=
          fun h => heq (by simpa [hmode] using h.1)
        refine turn_of_eq ?_ rfl rfl (hstaged.trans (if_neg hother))
        exact (congrArg (·[tx]?) hafter).trans (List.getElem?_set_ne heq)
    · -- whatever the staging is attached to, it is not a transaction that has begun
      have hother : ¬ (s.mode = .attached tx ∧ tx < d.transactions.length) :=
        fun h => absurd (hnone tx h.1) (by simp [h.2])
      exact turn_of_eq (congrArg (·[tx]?) hsame) rfl rfl (hstaged.trans (if_neg hother))

/-- A commit of the transaction itself. -/
theorem turn_commit_self : Turn tx ⟨d, .commit tx⟩ := by
  have hrefused := refused_commit tx d tx
  have happlied := applied_commit tx d tx
  cases d.commits tx with
  | unknown _ hcommit =>
    rw [hcommit] at hrefused happlied
    exact turn_of_eq (by rw [next, perform, hcommit]; rfl) hrefused happlied rfl
  -- it was committed before, so what waits in it waits for good
  | again t ht hdone hcommit =>
    have hflag := (isCommitted_of_some ht).trans hdone
    rw [hcommit] at hrefused happlied
    exact turn_of_eq (by rw [next, perform, hcommit]; rfl) hrefused
      (happlied.trans (by simp [hflag])) rfl
  -- the store has failed, and everything is as it was
  | failed t reason _ _ hcommit =>
    rw [hcommit] at hrefused happlied
    exact turn_of_eq (by rw [next, perform, hcommit]; rfl) hrefused happlied rfl
  | refused t e ht hopen happly hcommit =>
    -- the changes have been taken out and are not put back
    obtain ⟨id, -, rfl⟩ := Store.applyAll_eq_error happly
    have hnext : (d.commit tx).2.transactions[tx]? = some { t with changes := [] } := by
      rw [hcommit]
      exact getElem?_setTransaction_self ht
    rw [hcommit] at hrefused happlied
    exact .loses rfl happlied (hrefused.trans (if_pos rfl)) (waiting_of_some hnext)
      ((isCommitted_of_some ht).trans hopen) ((isCommitted_of_some hnext).trans hopen)
  | applied t s ht hopen _ hcommit =>
    have hflag := (isCommitted_of_some ht).trans hopen
    have hnext : (d.commit tx).2.transactions[tx]? =
        some { t with changes := [], committed := true } := by
      rw [hcommit]
      exact getElem?_setTransaction_self (d := d.setStore t.store s) ht
    rw [hcommit] at hrefused happlied
    exact .settles rfl hrefused (happlied.trans (if_pos ⟨rfl, hflag⟩)) (waiting_of_some hnext)
      hflag (isCommitted_of_some hnext)

/-- A commit is a turn. -/
theorem turn_commit (other : TransactionId) : Turn tx ⟨d, .commit other⟩ := by
  by_cases heq : other = tx
  · subst heq
    exact turn_commit_self
  · refine turn_of_eq (transactions_commit_of_ne heq) ?_ ?_ rfl
    · rw [refused_commit]
      split
      · exact if_neg heq
      · rfl
    · rw [applied_commit]
      split
      · exact if_neg fun h => heq h.1
      · rfl

/-- Every action is a turn of every transaction. -/
theorem turn (tx : TransactionId) (m : Moment) : m.Turn tx := by
  obtain ⟨d, a⟩ := m
  -- what is left after the first four are actions that no transaction takes notice of
  cases a with
  | begin store => exact turn_begin store
  | addRecord store r other => exact turn_addRecord store r other
  | commit other => exact turn_commit other
  | complete id => exact turn_complete id
  | attach staging other hints =>
    exact turn_of_eq (congrArg (·[tx]?) (transactions_attach staging other hints)) rfl rfl rfl
  | openStaging staging hints =>
    exact turn_of_eq (congrArg (·[tx]?) (transactions_openStaging staging hints)) rfl rfl rfl
  | put staging key value | delete staging key =>
    exact turn_of_eq (congrArg (·[tx]?) (transactions_stage staging key _)) rfl rfl rfl
  | closeStaging staging =>
    exact turn_of_eq (congrArg (·[tx]?) (transactions_closeStaging staging)) rfl rfl rfl
  | drop _ | newStaging _ | setDispatched _ _ | getRecord _ _ | arm _ _ _ =>
    exact turn_of_eq rfl rfl rfl rfl

end Moment

namespace Database

variable {tx : TransactionId}

/-! ### Any actions -/

/-- The moments of a run at which a transaction has been committed already. -/
def sinceCommitted (tx : TransactionId) (past : List Moment) : List Moment :=
  past.filter (·.database.isCommitted tx)

/-- Where everything is that a run has staged into a transaction: it was refused, it was applied, or
it waits. Until the transaction is committed nothing is applied; afterwards nothing is refused, and
what waits is what has been staged since. -/
structure Settled (tx : TransactionId) (past : List Moment) (d : Database) : Prop where
  total : past.flatMap (Moment.staged tx) =
    past.flatMap (Moment.refused tx) ++ past.flatMap (Moment.applied tx) ++ d.waiting tx
  applied : d.isCommitted tx = false → past.flatMap (Moment.applied tx) = []
  late : (sinceCommitted tx past).flatMap (Moment.staged tx) =
    if d.isCommitted tx then d.waiting tx else []

/-- What has been staged too late is what was staged at moments when the transaction was
committed. -/
theorem sinceCommitted_concat (tx : TransactionId) (past : List Moment) (m : Moment) :
    (sinceCommitted tx (past ++ [m])).flatMap (Moment.staged tx) =
      (sinceCommitted tx past).flatMap (Moment.staged tx) ++
        if m.database.isCommitted tx then m.staged tx else [] := by
  rw [sinceCommitted, List.filter_append, List.flatMap_append]
  cases hflag : m.database.isCommitted tx <;> simp [sinceCommitted, hflag]

/-- The balance is kept by every turn. -/
theorem Settled.concat {past : List Moment} {m : Moment} (h : Settled tx past m.database) :
    Settled tx (past ++ [m]) m.next := by
  have hlate := sinceCommitted_concat tx past m
  cases m.turn tx with
  -- what is staged now waits, and it waits too late when the transaction was committed before
  | collects hrefused happlied hwaiting hflag =>
    refine ⟨?_, fun hopen => ?_, ?_⟩
    · simp [h.total, hrefused, happlied, hwaiting]
    · simp [h.applied (hflag.symm.trans hopen), happlied]
    · rw [hlate, h.late, hflag, hwaiting]
      split <;> simp
  -- what waited is refused now, and nothing waits any more
  | loses hstaged happlied hrefused hwaiting hopen hflag =>
    refine ⟨?_, fun _ => ?_, ?_⟩
    · simp [h.total, hstaged, hrefused, happlied, hwaiting, h.applied hopen]
    · simp [h.applied hopen, happlied]
    · simp [hlate, h.late, hopen, hflag]
  -- what waited is applied now, and whatever comes after it is late
  | settles hstaged hrefused happlied hwaiting hopen hflag =>
    refine ⟨?_, fun hopen' => absurd (hflag.symm.trans hopen') (by simp), ?_⟩
    · simp [h.total, hstaged, hrefused, happlied, hwaiting]
    · simp [hlate, h.late, hopen, hflag, hwaiting]

/-- Where everything is that has been staged, after any actions. -/
theorem settled_after (tx : TransactionId) (actions : List Action) :
    Settled tx (({} : Database).moments actions) (({} : Database).after actions) :=
  have hstart : Settled tx [] {} := ⟨rfl, fun _ => rfl, rfl⟩
  invariant_run (P := Settled tx) (fun _ _ h => h.concat) hstart actions

/-! ### A commit that answers -/

/-- What a commit applies is in the store of the transaction afterwards, and other stores stay. -/
theorem store_commit {d : Database} {t : Transaction} (ht : d.transactions[tx]? = some t)
    (name : String) :
    Store.SameContent (if t.store = name then
        (Moment.applied tx ⟨d, .commit tx⟩).foldl Store.apply (d.store name) else d.store name)
      ((d.commit tx).2.store name) := by
  have happlied := Moment.applied_commit tx d tx
  -- where nothing is applied, all stores stay
  have hkept : Moment.applied tx ⟨d, .commit tx⟩ = [] →
      (d.store name).SameContent ((d.commit tx).2.store name) → Store.SameContent
        (if t.store = name then (Moment.applied tx ⟨d, .commit tx⟩).foldl Store.apply (d.store name)
          else d.store name) ((d.commit tx).2.store name) := by
    intro hnil hsame
    rw [hnil]
    split <;> exact hsame
  have hflag := isCommitted_of_some ht
  cases hopen : t.committed with
  | true =>
    have hcommit : d.commit tx = (.ok (), d) := commit_of_committed ht hopen
    refine hkept (happlied.trans ?_) (by rw [hcommit]; exact .refl _)
    simp [hcommit, hflag, hopen]
  | false =>
    -- the store has failed, has refused the changes, or has made them
    obtain ⟨reason, hcommit⟩ | ⟨e, -, hcommit⟩ | ⟨s, happly, hcommit⟩ := commit_cases ht hopen
    · refine hkept (happlied.trans (by rw [hcommit])) ?_
      rw [hcommit]
      exact sameContent_disarm d t.store .commit name
    · refine hkept (happlied.trans (by rw [hcommit])) ?_
      rw [hcommit]
      exact .refl _
    · obtain ⟨-, -, rfl⟩ := Store.applyAll_eq_ok_iff.1 happly
      have hmade : Moment.applied tx ⟨d, .commit tx⟩ = t.changes := by
        rw [happlied, hcommit]
        exact (if_pos ⟨rfl, hflag.trans hopen⟩).trans (waiting_of_some ht)
      rw [hmade, hcommit]
      show Store.SameContent _ ((d.setStore t.store _).store name)
      -- the changes are made in the store of the transaction and in no other
      rw [store_setStore]
      split
      · next heq => exact heq ▸ .refl _
      · exact .refl _

/-- A commit that fails leaves every store as it is. -/
theorem sameContent_commit_of_error {d : Database} {e : StoreError}
    (h : (d.commit tx).1 = .error e) (name : String) :
    (d.store name).SameContent ((d.commit tx).2.store name) := by
  cases d.commits tx with
  | unknown _ hcommit =>
    rw [hcommit]
    exact .refl _
  | failed t reason _ _ hcommit =>
    rw [hcommit]
    exact sameContent_disarm d t.store .commit name
  | refused t e _ _ _ hcommit =>
    rw [hcommit]
    exact .refl _
  | again t _ _ hcommit | applied t s _ _ _ hcommit =>
    rw [hcommit] at h
    cases h

/-- The reply to a commit is that of the database, without a record. -/
theorem reply_commit {d : Database} :
    Moment.reply ⟨d, .commit tx⟩ = (d.commit tx).1.map fun _ => none := rfl

/-- When the reply is good, so is the commit. -/
theorem commit_of_reply_ok {d : Database} {found : Option Record}
    (h : Moment.reply ⟨d, .commit tx⟩ = .ok found) : (d.commit tx).1 = .ok () := by
  rw [reply_commit] at h
  cases hreply : (d.commit tx).1 with
  | error e => rw [hreply] at h; exact nomatch h
  | ok _ => rfl

/-- When the reply is an error, the commit has failed with it. -/
theorem commit_of_reply_error {d : Database} {e : StoreError}
    (h : Moment.reply ⟨d, .commit tx⟩ = .error e) : (d.commit tx).1 = .error e := by
  rw [reply_commit] at h
  cases hreply : (d.commit tx).1 with
  | error e' => rw [hreply] at h; simpa [Except.map] using h
  | ok _ => rw [hreply] at h; exact nomatch h

/-- A transaction whose commit is answered that all is well has been committed. -/
theorem isCommitted_commit {d : Database} (h : (d.commit tx).1 = .ok ()) :
    (d.commit tx).2.isCommitted tx = true := by
  cases d.commits tx with
  | unknown _ hcommit | failed _ _ _ _ hcommit | refused _ _ _ _ _ hcommit =>
    rw [hcommit] at h
    cases h
  | again t ht hdone hcommit =>
    rw [hcommit]
    exact (isCommitted_of_some ht).trans hdone
  | applied t s ht _ _ hcommit =>
    rw [hcommit]
    exact isCommitted_of_some (getElem?_setTransaction_self (d := d.setStore t.store s) ht)

/-- What a commit has done that follows any actions, and what it has not. When it fails, no store
changes. When it answers that all is well, what has been staged into the transaction has been
applied by its commits, except for what was lost to a conflict at an earlier attempt, and for what
was staged when it had been committed already. -/
theorem commit_accounts (actions : List Action) (tx : TransactionId) :
    let past := ({} : Database).moments actions
    let now : Moment := ⟨({} : Database).after actions, .commit tx⟩
    (∀ e, now.reply = .error e →
      ∀ name, (now.database.store name).SameContent (now.next.store name)) ∧
    (∀ m ∈ past ++ [now], m.action = .commit tx →
      ∀ t, m.database.transactions[tx]? = some t → ∀ name,
        Store.SameContent (if t.store = name then
            (m.applied tx).foldl Store.apply (m.database.store name) else m.database.store name)
          (m.next.store name)) ∧
    (∀ found, now.reply = .ok found →
      past.flatMap (Moment.staged tx) =
        past.flatMap (Moment.refused tx) ++ (past ++ [now]).flatMap (Moment.applied tx) ++
          (sinceCommitted tx past).flatMap (Moment.staged tx) ∧
      (past.flatMap (Moment.staged tx) = (past ++ [now]).flatMap (Moment.applied tx) ↔
        past.flatMap (Moment.refused tx) = [] ∧
          (sinceCommitted tx past).flatMap (Moment.staged tx) = [])) := by
  intro past now
  have hsettled : Settled tx past now.database := settled_after tx actions
  -- a failed commit leaves the stores; each commit applies what it applies; the balance
  refine ⟨?_, ?_, ?_⟩
  · intro e hreply name
    exact sameContent_commit_of_error (commit_of_reply_error hreply) name
  · rintro ⟨d, a⟩ - rfl t ht name
    exact store_commit ht name
  · intro found hreply
    have hcommitted : now.next.isCommitted tx = true :=
      isCommitted_commit (commit_of_reply_ok hreply)
    have hbalance : past.flatMap (Moment.staged tx) =
        past.flatMap (Moment.refused tx) ++ (past ++ [now]).flatMap (Moment.applied tx) ++
          (sinceCommitted tx past).flatMap (Moment.staged tx) := by
      -- the commit stages nothing and refuses nothing, and what waits after it has come too late
      have hstaged : now.staged tx = [] := rfl
      have hrefused : now.refused tx = [] := by
        rw [Moment.refused_commit, commit_of_reply_ok hreply]
      have hlate : (sinceCommitted tx (past ++ [now])).flatMap (Moment.staged tx) =
          (sinceCommitted tx past).flatMap (Moment.staged tx) := by
        rw [sinceCommitted_concat, hstaged, ite_self, List.append_nil]
      have hwaiting := hsettled.concat.late
      rw [hcommitted, if_pos rfl, hlate] at hwaiting
      have htotal := hsettled.concat.total
      rw [← hwaiting] at htotal
      simpa [hstaged, hrefused] using htotal
    -- all that was staged is applied when the other two parts of the balance are empty
    refine ⟨hbalance, fun hall => ?_, fun ⟨hrefused, hlate⟩ => ?_⟩
    · have hlength := congrArg List.length (hall.symm.trans hbalance)
      simp only [List.length_append] at hlength
      exact ⟨List.eq_nil_of_length_eq_zero (by omega), List.eq_nil_of_length_eq_zero (by omega)⟩
    · rw [hbalance, hrefused, hlate, List.nil_append, List.append_nil]

/-- Under the id a there is a record already when a second transaction collects a document and a
record under the id a, and is refused. -/
def refusedOnce : List Action :=
  [.begin "db", .addRecord "db" (.tombstone "a") 0, .commit 0,
   .begin "db", .newStaging "db", .attach 0 1 {}, .put 0 "order" [1], .complete 0,
   .addRecord "db" (.tombstone "a") 1, .commit 1]

/-- A commit that answers that all is well has not always applied what was staged: after the
refusal, the second transaction is committed again and applies nothing. -/
theorem refused_lost :
    ¬ ∀ (actions : List Action) (tx : TransactionId),
      let past := ({} : Database).moments actions
      let now : Moment := ⟨({} : Database).after actions, .commit tx⟩
      ∀ found, now.reply = .ok found →
        ∀ c ∈ past.flatMap (Moment.staged tx), c ∈ (past ++ [now]).flatMap (Moment.applied tx) := by
  intro h
  -- the last commit goes well, the document had been staged, and no commit has applied it
  have hok : (Moment.reply ⟨({} : Database).after refusedOnce, .commit 1⟩).isOk = true := by
    decide +kernel
  have hstaged : Change.put "order" [1] ∈
      (({} : Database).moments refusedOnce).flatMap (Moment.staged 1) := by
    decide +kernel
  have hlost : Change.put "order" [1] ∉ (({} : Database).moments refusedOnce ++
      [Moment.mk (({} : Database).after refusedOnce) (.commit 1)]).flatMap (Moment.applied 1) := by
    decide +kernel
  cases hreply : Moment.reply ⟨({} : Database).after refusedOnce, .commit 1⟩ with
  | error e =>
    rw [hreply] at hok
    exact nomatch hok
  | ok found => exact hlost (h refusedOnce 1 found hreply _ hstaged)

end Database

end Outbox
