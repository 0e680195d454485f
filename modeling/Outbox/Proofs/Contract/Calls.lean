import Outbox.Proofs.Contract

/-!
# Calls under the contract

For each call one rule: what must be known before it, and what the rest of the program may build
on after it. The rules hide the world in which the call is made; a program learns the reply, and
what has become of the records, of the transport's log and of what it owns.
-/

namespace Outbox

open Program

variable {T : Terms} {role : Role} {α β : Type} {g : Standing} {w : World}
  {post : Standing → α → World → Prop}

/-- What is accepted of a record is accepted of what the record becomes. -/
theorem Record.Becomes.accepted {r r' : Record} (h : r.Becomes r')
    (hr : r.markDispatched.Accepted w) : r'.markDispatched.Accepted w := by
  rcases h with rfl | rfl
  -- the only other thing a record can become is itself with every operation marked
  · exact hr
  · simpa using hr

/-- When what waits in a record has been accepted too, all of it can be marked. -/
theorem Record.Accepted.markDispatched {r : Record} (h : r.Accepted w)
    (hops : ∀ op ∈ r.undispatched, op.toShipment ∈ w.transport.dispatched) :
    r.markDispatched.Accepted w := by
  intro op hop _
  obtain ⟨op', hop', rfl⟩ := List.mem_map.1 hop
  -- an operation had been marked before, or it waited
  cases hd : op'.dispatched with
  | true => exact h op' hop' hd
  | false =>
    refine hops op'.operation (List.mem_map_of_mem (List.mem_filter.2 ⟨hop', ?_⟩))
    simp [hd]

/-- What happens outside of the stores and of the transport's log breaks nobody's reliance. -/
theorem Relies.of_database_transport {w' w'' : World} (h : Relies T g w w')
    (hd : w''.database = w'.database) (ht : w''.transport.dispatched = w'.transport.dispatched)
    (hv : w''.faults.hiddenRecords = w'.faults.hiddenRecords) (hc : w''.clock = w'.clock) :
    Relies T g w w'' where
  grows := ⟨hd ▸ h.grows.database, ht ▸ h.grows.dispatched⟩
  shared :=
    { visible := hv ▸ h.shared.visible
      time := hc ▸ h.shared.time
      id_eq := by simpa only [World.record?, hd] using h.shared.id_eq
      accepted := by
        simpa only [World.record?, Record.Accepted, hd, ht] using h.shared.accepted }
  staging := hd ▸ h.staging
  transaction := hd ▸ h.transaction

/-- A dispatch keeps what participants keep. -/
theorem Shared.dispatch (h : Shared T w) (ops : List Shipment) : Shared T (w.dispatch ops).2 where
  visible := h.visible
  time := h.time
  id_eq := h.id_eq
  accepted id r hr := (h.accepted id r hr).grow (World.grows_dispatch w ops)

/-- A dispatch takes nothing from what a participant relies on. -/
theorem Relies.dispatch {w' : World} (h : Relies T g w w') (ops : List Shipment) :
    Relies T g w (w'.dispatch ops).2 where
  grows := h.grows.trans (World.grows_dispatch w' ops)
  shared := h.shared.dispatch ops
  staging := h.staging
  transaction := h.transaction

/-- Who has no duty has none after a dispatch. -/
theorem Standing.after_dispatch_of_free (h : g.duty = none) (ops : List Shipment) :
    g.after T (.dispatch ops) (.ok ()) = g := by
  cases g
  obtain rfl : _ = none := h
  simp [Standing.after]

/-- The reading of the clock is one that the terms allow. -/
theorem keeps_now {next : Time.Instant → Program α}
    (hnext : ∀ now w', Relies T g w w' → T.time now →
      (next now).Keeps (contract T role) post g w') :
    (call .now next).Keeps (contract T role) post g w :=
  fun w' hw _ => ⟨trivial, fun _ => hnext _ w' hw hw.shared.time⟩

/-- The answer to the question for cancellation can be either. -/
theorem keeps_isCancelled {next : Bool → Program α}
    (hnext : ∀ b w', Relies T g w w' → (next b).Keeps (contract T role) post g w') :
    (call .isCancelled next).Keeps (contract T role) post g w :=
  fun w' hw _ => ⟨trivial, fun cancelled => hnext cancelled w' hw⟩

/-- An id is made without a change to what participants keep. -/
theorem keeps_freshId {next : String → Program α}
    (hnext : ∀ id w', Relies T g w w' → (next id).Keeps (contract T role) post g w') :
    (call .freshId next).Keeps (contract T role) post g w :=
  fun _ hw _ => ⟨trivial, fun _ => hnext _ _ (hw.of_database_transport rfl rfl rfl rfl)⟩

/-- What is told changes nothing that participants keep. -/
theorem keeps_observe {outcome : Outcome} {next : Unit → Program α}
    (hnext : ∀ w', Relies T g w w' → (next ()).Keeps (contract T role) post g w') :
    (call (.observe outcome) next).Keeps (contract T role) post g w :=
  fun _ hw _ => ⟨trivial, fun _ => hnext _ (hw.of_database_transport rfl rfl rfl rfl)⟩

/-- Whatever a handler answers, it changes nothing that participants keep. -/
theorem keeps_handle {m : Message} {next : Except DeliveryError Unit → Program α}
    (hnext : ∀ reply w', Relies T g w w' → (next reply).Keeps (contract T role) post g w') :
    (call (.handle m) next).Keeps (contract T role) post g w :=
  fun _ hw _ => ⟨trivial, fun _ => hnext _ _ (hw.of_database_transport rfl rfl rfl rfl)⟩

/-- A rollback gives up a transaction that nobody looks at any more. -/
theorem keeps_rollback {tx : TransactionId} {next : Unit → Program α}
    (hnext : ∀ w', Relies T g w w' → (next ()).Keeps (contract T role) post g w') :
    (call (.rollback tx) next).Keeps (contract T role) post g w :=
  fun w' hw _ => ⟨trivial, fun _ => hnext w' hw⟩

/-- A look-up fails, or it gives what is there at that moment. -/
theorem keeps_getRecord {id : String} {next : Except StoreError (Option Record) → Program α}
    (hfail : ∀ e w', Relies T g w w' → (next (.error e)).Keeps (contract T role) post g w')
    (hfound : ∀ w', Relies T g w w' →
      (next (.ok (w'.record? T.store id))).Keeps (contract T role) post g w') :
    (call (.getRecord T.store id) next).Keeps (contract T role) post g w := by
  intro w' hw _
  -- the world at the moment of the call is any world that others may have brought about
  refine ⟨trivial, fun cancelled => ?_⟩
  simp only [World.answer, World.getRecord]
  cases hf : w'.faults.getRecord with
  | some reason => exact hfail _ _ (hw.of_database_transport rfl rfl rfl rfl)
  | none =>
    -- no records are hidden, so the look-up finds what is there
    rw [hw.shared.visible]
    exact hfound w' hw

/-- A dispatch is rejected, or all of it is accepted. -/
theorem keeps_dispatch {ops : List Shipment} {next : Except DispatchError Unit → Program α}
    (hlawful : ∀ w', Relies T g w w' → role.MayHandOver T ops w')
    (hrejected : ∀ e w', Relies T g w w' → (T.reliable → role.Forwards ops → False) →
      (next (.error e)).Keeps (contract T role) post g w')
    (haccepted : ∀ w', Relies T g w w' → (∀ op ∈ ops, op ∈ w'.transport.dispatched) →
      (next (.ok ())).Keeps (contract T role) post (g.after T (.dispatch ops) (.ok ())) w') :
    (call (.dispatch ops) next).Keeps (contract T role) post g w := by
  intro w' hw ha
  refine ⟨hlawful w' hw, fun cancelled => ?_⟩
  have hdispatch := hw.dispatch ops
  have hlog := Transport.dispatched_dispatch w'.transport w'.clock.elapsed ops
  -- the transport has a rejection armed or it has none, and that decides the reply
  cases hr : w'.transport.rejection with
  | some reason =>
    have hreply : (w'.dispatch ops).1 = .error (.rejected reason) := by
      simp [World.dispatch, Transport.dispatch, hr]
    simp only [World.answer, hreply]
    -- on reliable terms a copy for the error queue is not what was rejected
    refine hrejected _ _ hdispatch fun hrel hfwd => ?_
    simp [ha hrel hfwd] at hr
  | none =>
    have hreply : (w'.dispatch ops).1 = .ok () := by
      simp [World.dispatch, Transport.dispatch, hr]
    simp only [World.answer, hreply]
    refine haccepted _ hdispatch fun op hop => ?_
    rw [if_pos hr] at hlog
    -- the operations stand at the end of the log
    change op ∈ (w'.transport.dispatch w'.clock.elapsed ops).2.dispatched
    rw [hlog]
    exact List.mem_append_right _ hop

/-- A record is marked, or the store fails. -/
theorem keeps_setDispatched {id : String} {next : Except StoreError Unit → Program α}
    (hrole : role.MayMark id)
    (haccepted : ∀ w' r, Relies T g w w' → w'.record? T.store id = some r →
      r.markDispatched.Accepted w')
    (hfail : ∀ e w', w.Grows w' → (next (.error e)).Keeps (contract T role) post g w')
    (hmarked : ∀ w', w.Grows w' → (∀ r, w'.record? T.store id = some r → r.isDispatched = true) →
      (next (.ok ())).Keeps (contract T role) post g w') :
    (call (.setDispatched T.store id) next).Keeps (contract T role) post g w := by
  intro w' hw _
  refine ⟨⟨rfl, hrole, fun r hr => haccepted w' r hw hr⟩, fun cancelled => ?_⟩
  have hgrows := hw.grows.trans (World.grows_setDispatched w' T.store id)
  -- the world that `hgrows` speaks of depends on the fault, so it is split along
  revert hgrows
  simp only [World.answer, World.setDispatched]
  cases w'.faults.setDispatched with
  | some reason => exact fun hgrows => hfail _ _ hgrows
  | none =>
    refine fun hgrows => hmarked _ hgrows fun r hr => ?_
    -- what is found under the id afterwards is what was there, marked
    simp only [World.record?, Database.setDispatched, Database.store_setStore, if_true,
      Store.record?_setDispatched, Option.map_eq_some_iff] at hr
    obtain ⟨r', -, rfl⟩ := hr
    exact Record.isDispatched_markDispatched r'

/-- A transaction is begun, and the participant owns it. -/
theorem keeps_beginTransaction {hints : Hints}
    {next : Except StoreError TransactionId → Program α}
    (hnext : ∀ tx w', w.Grows w' →
      (∀ id, g.staging = some id → w'.database.stagings[id]? = w.database.stagings[id]?) →
      w'.database.transactions[tx]? = some { store := T.store } →
      (next (.ok tx)).Keeps (contract T role) post { g with transaction := some tx } w') :
    (call (.beginTransaction T.store hints) next).Keeps (contract T role) post g w := by
  intro w' hw _
  refine ⟨rfl, fun cancelled => hnext _ _ ?_ hw.staging ?_⟩
  -- the new transaction comes after all others, so none of those that are owned is touched
  · exact hw.grows.trans (World.grows_answer cancelled (.beginTransaction T.store hints) w')
  · exact (Database.transactions_begin_fst w'.database T.store).2

/-- A record is added to a transaction that the participant owns, or the store fails. -/
theorem keeps_addRecord {r : Record} {tx : TransactionId} {t : Transaction}
    {next : Except StoreError Unit → Program α} (htx : g.transaction = some tx)
    (ht : w.database.transactions[tx]? = some t) (hstore : t.store = T.store)
    (hfail : ∀ reason w', w.Grows w' →
      (next (.error (.backend reason))).Keeps (contract T role) post g w')
    (hnext : ∀ w', w.Grows w' →
      w'.database.transactions[tx]? = some { t with changes := t.changes ++ [.record r] } →
      (next (.ok ())).Keeps (contract T role) post g w') :
    (call (.addRecord T.store r tx) next).Keeps (contract T role) post g w := by
  intro w' hw _
  refine ⟨⟨rfl, htx⟩, fun cancelled => ?_⟩
  have hgrows := hw.grows.trans (World.grows_answer cancelled (.addRecord T.store r tx) w')
  -- the transaction is the participant's own, so nobody else has changed it
  have ht' : w'.database.transactions[tx]? = some t := (hw.transaction tx htx).trans ht
  simp only [World.answer, World.withDatabase] at hgrows ⊢
  -- the store has failed, or the record stands behind the other changes
  rcases Database.addRecord_cases r ht' hstore with ⟨reason, hreply⟩ | heq
  · rw [hreply]
    exact hfail reason _ hgrows
  · rw [heq] at hgrows ⊢
    exact hnext _ hgrows (Database.getElem?_setTransaction_self ht')

/-- Whether the caller has cancelled is settled before the call is made. -/
theorem keeps_unlessCancelled {c : Call β} {next : Option β → Program α}
    (hadmits : ∀ w', Admits T role c w')
    (hnone : ∀ w', Relies T g w w' → (next none).Keeps (contract T role) post g w')
    (hsome : (call c fun reply => next (some reply)).Keeps (contract T role) post g w) :
    (call (.unlessCancelled c) next).Keeps (contract T role) post g w := by
  intro w' hw _
  obtain ⟨hlawful, hnext⟩ := hsome w' hw (hadmits w')
  refine ⟨hlawful, fun cancelled => ?_⟩
  -- when the caller has cancelled, the call is not made
  cases cancelled with
  | true => exact hnone w' hw
  | false => exact hnext false

/-- A staging is attached to a transaction of the same store; the participant owns both. -/
theorem keeps_attach {id : StagingId} {s : Staging} {tx : TransactionId} {t : Transaction}
    {hints : Hints} {next : Except StoreError Bool → Program α} (hid : g.staging = some id)
    (htx : g.transaction = some tx) (hs : w.database.stagings[id]? = some s)
    (ht : w.database.transactions[tx]? = some t) (hstore : s.store = t.store)
    (hnext : ∀ w', w.Grows w' →
      w'.database.stagings[id]? =
        some { s with mode := .attached tx, partition := hints.partitionKey } →
      w'.database.transactions[tx]? = some t →
      (next (.ok true)).Keeps (contract T role) post g w') :
    (call (.attach id tx hints) next).Keeps (contract T role) post g w := by
  intro w' hw _
  refine ⟨⟨hid, htx⟩, fun cancelled => ?_⟩
  have hgrows := hw.grows.trans (World.grows_answer cancelled (.attach id tx hints) w')
  -- both are its own, so they are as they were when it looked
  have hs' := (hw.staging id hid).trans hs
  have ht' := (hw.transaction tx htx).trans ht
  simp only [World.answer] at hgrows ⊢
  -- both are of one store, so the staging joins
  rw [Database.transactions_attach_joined hints hs' ht' hstore] at hgrows ⊢
  exact hnext _ hgrows (Database.getElem?_setStaging_self hs') ht'

/-- A staging hands its changes to the transaction that it is attached to, or the store fails. -/
theorem keeps_complete {id : StagingId} {s : Staging} {tx : TransactionId} {t : Transaction}
    {next : Except StoreError Unit → Program α} (hid : g.staging = some id)
    (htx : g.transaction = some tx) (hs : w.database.stagings[id]? = some s)
    (hmode : s.mode = .attached tx) (ht : w.database.transactions[tx]? = some t)
    (hfail : ∀ reason w', w.Grows w' →
      (next (.error (.backend reason))).Keeps (contract T role) post g w')
    (hnext : ∀ w', w.Grows w' →
      w'.database.transactions[tx]? = some { t with changes := t.changes ++ s.staged } →
      (next (.ok ())).Keeps (contract T role) post g w') :
    (call (.complete id) next).Keeps (contract T role) post g w := by
  intro w' hw _
  have hs' := (hw.staging id hid).trans hs
  have ht' := (hw.transaction tx htx).trans ht
  refine ⟨⟨hid, s, tx, hs', hmode, htx⟩, fun cancelled => ?_⟩
  have hgrows := hw.grows.trans (World.grows_answer cancelled (.complete id) w')
  simp only [World.answer, World.withDatabase] at hgrows ⊢
  -- the store has failed, or what was staged stands behind the other changes
  rcases Database.complete_cases hs' hmode ht' with ⟨reason, hreply⟩ | heq
  · rw [hreply]
    exact hfail reason _ hgrows
  · rw [heq] at hgrows ⊢
    exact hnext _ hgrows (Database.getElem?_setTransaction_self ht')

/-- A staging is closed by the participant that owns it. -/
theorem keeps_closeStaging {id : StagingId} {next : Unit → Program α}
    (hid : g.staging = some id)
    (hnext : ∀ w', (next ()).Keeps (contract T role) post g w') :
    (call (.closeStaging id) next).Keeps (contract T role) post g w :=
  fun _ _ _ => ⟨hid, fun _ => hnext _⟩

/-- A commit fails with the store, is refused because an id is taken, or makes all changes. -/
theorem keeps_commit {tx : TransactionId} {next : Except StoreError Unit → Program α}
    (htx : g.transaction = some tx)
    (ht : w.database.transactions[tx]? =
      some { store := T.store, changes := role.contribution })
    (hplain : role.Plain) (hannounced : ∀ w', w.Grows w' → role.Announced T w')
    (hfail : ∀ reason w', w.Grows w' →
      (next (.error (.backend reason))).Keeps (contract T role) post g w')
    (hrefused : ∀ e w', w.Grows w' →
      (∀ s, (w'.database.store T.store).applyAll role.contribution ≠ .ok s) →
      (next (.error e)).Keeps (contract T role) post g w')
    (hnext : ∀ w', w.Grows w' →
      (∀ r, .record r ∈ role.contribution → w'.record? T.store r.id = some r) →
      (next (.ok ())).Keeps (contract T role) post { g with committed := true } w') :
    (call (.commit tx) next).Keeps (contract T role) post g w := by
  intro w' hw _
  have ht' := (hw.transaction tx htx).trans ht
  -- what it has put in the transaction is still all that is in it
  refine ⟨⟨htx, ht', hplain, hannounced w' hw.grows⟩, fun cancelled => ?_⟩
  have hgrows := hw.grows.trans (World.grows_answer cancelled (.commit tx) w')
  simp only [World.answer, World.withDatabase] at hgrows ⊢
  rcases Database.commit_cases ht' rfl with ⟨reason, heq⟩ | ⟨e, happly, heq⟩ | ⟨s, happly, heq⟩
  · rw [heq] at hgrows ⊢
    exact hfail reason _ hgrows
  · -- the changes are forgotten, and the store is as it was when it refused them
    rw [heq] at hgrows ⊢
    refine hrefused e _ hgrows fun s hs => ?_
    have hstores : (w'.database.setTransaction tx
        { store := T.store, changes := [] }).store T.store = w'.database.store T.store := rfl
    rw [hstores, happly] at hs
    cases hs
  · -- the store is now what the changes make of it, and they add each record once
    rw [heq] at hgrows ⊢
    refine hnext _ hgrows fun r hr => ?_
    obtain ⟨hnd, -, rfl⟩ := Store.applyAll_eq_ok_iff.1 happly
    have hstores : ((w'.database.setStore T.store
        (role.contribution.foldl Store.apply (w'.database.store T.store))).setTransaction tx
        { store := T.store, changes := [], committed := true }).store T.store =
        role.contribution.foldl Store.apply (w'.database.store T.store) := by
      change (w'.database.setStore T.store _).store T.store = _
      rw [Database.store_setStore, if_pos rfl]
    rw [World.record?, hstores]
    exact Store.record?_foldl_apply_self hnd hr

end Outbox
