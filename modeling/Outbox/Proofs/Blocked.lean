import Outbox.Proofs.Dispatches

/-!
# What an empty record blocks

An empty record stays as it is for good. From then on no transaction commits another record under
its id, and nobody hands over a batch in the name of its session: the deliveries of its control
messages hand over successors and copies of them, and nothing else.

* `Database.commit_of_taken`  a commit under an id that is taken is refused
* `System.Fresh.blocked`      what holds in every later state
-/

namespace Outbox

/-- Changes are refused for an id of theirs. -/
theorem Store.applyAll_eq_error {s : Store} {changes : List Change} {e : StoreError}
    (h : s.applyAll changes = .error e) : ∃ id ∈ recordIds changes, e = .conflict id := by
  have htaken : ∀ (taken : String → Bool) (id : String), takenId? taken changes = some id →
      id ∈ recordIds changes := by
    -- the ids that count as taken grow along the list, so the hypothesis on the store must go first
    clear h
    induction changes with
    | nil =>
      intro taken id hid
      cases hid
    | cons c rest ih =>
      intro taken id hid
      cases c with
      | put key value => exact ih taken id hid
      | delete key => exact ih taken id hid
      | record r =>
        unfold takenId? at hid
        split at hid
        -- the id is that of this record, or of one further on
        · obtain rfl := Option.some.inj hid
          exact List.mem_cons_self
        · exact List.mem_cons_of_mem _ (ih _ id hid)
  unfold applyAll at h
  split at h
  · next id hid => exact ⟨id, htaken _ id hid, (Except.error.inj h).symm⟩
  · cases h

/-- A commit under an id that is taken is refused for that, or fails before that is known. -/
theorem Database.commit_of_taken {d : Database} {tx : TransactionId} {t : Transaction}
    {id : String} (ht : d.transactions[tx]? = some t) (hopen : t.committed = false)
    (hids : recordIds t.changes = [id]) (htaken : (d.store t.store).record? id ≠ none) :
    (d.commit tx).1 = .error (.conflict id) ∨
      ∃ reason, (d.commit tx).1 = .error (.backend reason) := by
  -- whether an injected fault fails the commit is seen before whether the id is taken
  obtain ⟨reason, heq⟩ | ⟨e, happly, heq⟩ | ⟨s, happly, -⟩ := commit_cases ht hopen
  · exact .inr ⟨reason, congrArg Prod.fst heq⟩
  · obtain ⟨id', hid', rfl⟩ := Store.applyAll_eq_error happly
    obtain rfl : id' = id := by simpa [hids] using hid'
    exact .inl (congrArg Prod.fst heq)
  · obtain ⟨-, hfree, -⟩ := Store.applyAll_eq_ok_iff.1 happly
    exact absurd (hfree id (by simp [hids])) htaken

/-- An empty record stays as it is. -/
theorem Record.Becomes.eq_tombstone {id : String} {r : Record} (h : (tombstone id).Becomes r) :
    r = tombstone id := by
  -- a mark has nothing to mark in an empty record
  obtain rfl | rfl := h <;> rfl

namespace System

variable {s s' : System} {admissible : System → Event → Prop}

/-! ### What the later states of a system keep -/

/-- No event takes an entry out of the log. -/
theorem exists_log_step (s : System) (e : Event) : ∃ new, (s.step e).log = s.log ++ new := by
  have hsame : ∃ new, s.log = s.log ++ new := ⟨[], (List.append_nil _).symm⟩
  cases e with
  | request who what =>
    simp only [step, System.request]
    split
    · exact ⟨_, rfl⟩
    · exact hsame
  | call who cancelled =>
    simp only [step, System.call]
    split
    · exact hsame
    · exact ⟨_, rfl⟩
  | edit who e => exact ⟨[], by rw [step, log_edit, List.append_nil]⟩
  | take worker => exact ⟨[], by rw [step, log_take, List.append_nil]⟩
  | create store router address => exact hsame
  | hand p m => exact hsame
  | disturb d => exact hsame

/-- No event takes a record out of a store; at most it is marked. -/
theorem grows_step (s : System) (e : Event) : s.world.database.Grows (s.step e).world.database := by
  by_cases he : ∃ who cancelled, e = .call who cancelled
  · obtain ⟨who, cancelled, rfl⟩ := he
    simp only [step, System.call]
    split
    · exact .refl _
    · exact (World.grows_answer cancelled _ s.world).database
  · intro name
    -- an event that is no call leaves all content alone
    exact Store.grows_of_records_eq
      (sameContent_step (fun who cancelled heq => he ⟨who, cancelled, heq⟩) name).records

/-- The log is only added to. -/
theorem Reaches.exists_log (h : Reaches admissible s s') : ∃ new, s'.log = s.log ++ new := by
  induction h with
  | start => exact ⟨[], (List.append_nil _).symm⟩
  | @next t e _ _ ih =>
    obtain ⟨new, hnew⟩ := ih
    obtain ⟨more, hmore⟩ := t.exists_log_step e
    exact ⟨new ++ more, by rw [hmore, hnew, List.append_assoc]⟩

/-- Records stay, up to marks. -/
theorem Reaches.grows (h : Reaches admissible s s') :
    s.world.database.Grows s'.world.database := by
  induction h with
  | start => exact .refl _
  | next _ _ ih => exact ih.trans (grows_step _ _)

/-- A commit that the log tells of has the batch of the record in the store. -/
theorem Recorded.batch_eq {store id : String} {r r₀ : Record} (h : Recorded store s)
    (hr : s.world.record? store id = some r)
    (hcommitted : .record r₀ ∈ committedChanges s.log) (hid : r₀.id = id) : r₀.batch = r.batch := by
  -- the store is the replay of the log, so its record is the one that the log tells of, up to marks
  have hreplay := h.agrees.records id
  have hself := Store.record?_foldl_apply_self (s := {}) h.nodup hcommitted
  rw [show (s.world.database.store store).record? id = some r from hr, ← hid, replay, hself]
    at hreplay
  simpa [Record.unmarked] using (congrArg Record.batch (Option.some.inj hreplay)).symm

/-! ### Blocked ids -/

/-- Since the first state an id is blocked in the second: there is an empty record under it. -/
structure BlockedSince (store id : String) (s s' : System) : Prop where
  record : s'.world.record? store id = some (.tombstone id)
  /-- A commit under the id is refused. -/
  refused : ∀ (tx : TransactionId) (t : Transaction),
    s'.world.database.transactions[tx]? = some t → t.store = store → t.committed = false →
    recordIds t.changes = [id] →
    (s'.world.database.commit tx).1 = .error (.conflict id) ∨
      ∃ reason, (s'.world.database.commit tx).1 = .error (.backend reason)
  /-- So none has succeeded since. -/
  committed : ∃ new, s'.log = s.log ++ new ∧ id ∉ recordIds (committedChanges new)
  /-- A delivery for the session has never handed over a batch. -/
  handedOver : ∀ (who : Nat) (ops : List Shipment) (reply : Except DispatchError Unit)
    (k : Consumer) (m : Message), .handedOver who ops reply ∈ s'.log →
    s'.tasks[who]?.bind Task.message? = some (k, m) → m.id = id →
    ops = [] ∨
      (∃ (c : Countdown) (now : Time.Instant), ops = [c.successor m k.setup.address now]) ∨
      ∃ (worker : Worker) (e : DeliveryError), k = .worker worker ∧ ops = [worker.forwarded m e]

/-- What holds of a blocked id in every state that follows. -/
theorem Fresh.blocked {store id : String} {s₀ : System} (hfresh : s₀.Fresh)
    (h : Reaches (OnStore store) s₀ s) (hr : s.world.record? store id = some (.tombstone id))
    (hlater : Reaches (OnStore store) s s') : BlockedSince store id s s' := by
  obtain ⟨-, -, -, hrecorded⟩ :=
    hfresh.reaches (T := .sharing store) trivial (h.mono fun _ _ => OnStore.fits)
  obtain ⟨-, -, -, hrecorded'⟩ := hfresh.reaches (T := .sharing store) trivial
    ((h.trans hlater).mono fun _ _ => OnStore.fits)
  -- the record is still there, and an empty record has only itself to become
  have hr' : s'.world.record? store id = some (.tombstone id) := by
    obtain ⟨r, hr', hbecomes⟩ := hlater.grows store id _ hr
    exact hbecomes.eq_tombstone ▸ hr'
  obtain ⟨new, hnew⟩ := hlater.exists_log
  -- refused, not committed since, and no batch handed over
  refine ⟨hr', fun tx t ht hstore hopen hids => ?_, ⟨new, hnew, fun hid => ?_⟩, ?_⟩
  · refine Database.commit_of_taken ht hopen hids ?_
    rw [hstore, show (s'.world.database.store store).record? id = _ from hr']
    exact Option.some_ne_none _
  · -- the empty record was committed before, and no two commits have one id
    obtain ⟨who, n, changes, r₀, hcommitted, hr₀, rfl, -⟩ := hrecorded.exists_committed hr
    have hold : r₀.id ∈ recordIds (committedChanges s.log) :=
      mem_recordIds (mem_committedChanges.2 ⟨who, n, changes, hcommitted, hr₀⟩)
    have hnodup := hrecorded'.nodup
    rw [hnew, committedChanges_append, recordIds_append] at hnodup
    exact (List.nodup_append.1 hnodup).2.2 _ hold _ hid rfl
  · intro who ops reply k m hmem hmessage hid
    -- a batch that is handed over was committed before, and what is committed under the id is empty
    obtain ⟨before, after, hlog⟩ := List.append_of_mem hmem
    obtain ⟨t, ht, hops⟩ := hfresh.accounted (h.trans hlater) before _ after hlog who ops reply rfl
    rw [ht, Option.bind_some] at hmessage
    rw [Task.MayHaveHandedOver, hmessage] at hops
    cases hops with
    -- successors and copies may still be handed over
    | successor c now hc => exact .inr (.inl ⟨c, now, rfl⟩)
    | copy worker e hk => exact .inr (.inr ⟨worker, e, hk, rfl⟩)
    | batch who' n changes r₀ ops hm hcommitted hr₀ hid₀ hsub =>
      have hmem₀ : .committed who' n changes ∈ s'.log :=
        hlog ▸ List.mem_append_left _ hcommitted
      have hempty := hrecorded'.batch_eq hr'
        (mem_committedChanges.2 ⟨who', n, changes, hmem₀, hr₀⟩) (hid₀.trans hid)
      rw [hempty] at hsub
      obtain rfl : ops = [] := List.sublist_nil.1 hsub
      exact .inl rfl

end System

end Outbox
