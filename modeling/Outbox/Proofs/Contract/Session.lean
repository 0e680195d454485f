import Outbox.Proofs.Contract.Calls

/-!
# Requests keep the contract

Between two requests a session stands where `Session.Outboxed.Stands` says: before it is opened its
staging is untouched; while it is open its transaction is empty and its staging, attached to it,
holds the changes that were staged; afterwards nothing of it matters any more. Every request keeps
the contract and leaves the session standing there again, and a request has committed a transaction
exactly when it is a commit that has gone well.

* `keeps_commitSession`  the commit of a session
* `keeps_perform`        every request
-/

namespace Outbox

open Program

variable {T : Terms} {role : Role} {g : Standing} {w : World}

/-! ### Programs that leave the world to others -/

/-- Nothing of what the participant holds has changed, nor has it changed what others rely on. -/
def Unmoved (T : Terms) (g : Standing) (w : World) (g' : Standing) (w' : World) : Prop :=
  g' = g ∧ Relies T g w w'

/-- Whether a request is allowed is seen without a call that others notice. -/
theorem keeps_passIf (allowed : Except Misuse Unit) :
    (passIf allowed).Keeps (contract T role)
      (fun g' result w' => Unmoved T g w g' w' ∧ (result = .ok () → allowed = .ok ())) g w := by
  unfold passIf
  cases allowed with
  | error e => exact keeps_done fun w₁ hw₁ => ⟨⟨rfl, hw₁⟩, nofun⟩
  | ok _ =>
    rw [ask_bind]
    refine keeps_isCancelled fun b w₁ hw₁ => ?_
    cases b <;> exact keeps_done fun w₂ hw₂ => ⟨⟨rfl, hw₁.trans hw₂⟩, fun _ => rfl⟩

/-- An id is chosen, and nothing moves. -/
theorem keeps_chooseId (opening : Opening) :
    opening.chooseId.Keeps (contract T role) (fun g' _ w' => Unmoved T g w g' w') g w := by
  unfold Opening.chooseId
  split
  · rw [ask_bind]
    refine keeps_freshId fun id w₁ hw₁ => ?_
    exact keeps_done fun w₂ hw₂ => ⟨rfl, hw₁.trans hw₂⟩
  · split <;> exact keeps_done fun w₁ hw₁ => ⟨rfl, hw₁⟩

/-- A message is given an id and stamped, and nothing moves. -/
theorem keeps_identify (r : Router) (m : Draft) (id : Option String) (extra : Headers)
    (intent : Router.Intent) :
    (r.identify m id extra intent).Keeps (contract T role) (fun g' _ w' => Unmoved T g w g' w')
      g w := by
  have hstamp : ∀ id w₁, Relies T g w w₁ →
      (call .now fun now => done (r.stamped m extra intent id now)).Keeps (contract T role)
        (fun g' _ w' => Unmoved T g w g' w') g w₁ := by
    intro id w₁ hw₁
    refine keeps_now fun now w₂ hw₂ _ => ?_
    exact keeps_done fun w₃ hw₃ => ⟨rfl, (hw₁.trans hw₂).trans hw₃⟩
  unfold Router.identify
  -- the id is made or given; the clock is read in both cases
  cases id with
  | none => exact keeps_freshId fun id w₁ hw₁ => hstamp id w₁ hw₁
  | some id => exact keeps_of_later fun w₁ hw₁ => hstamp id w₁ hw₁

/-- An operation to send is collected, and nothing moves. -/
theorem keeps_collectSend (phase : Session.Phase) (r : Router) (m : Draft) (how : Sending) :
    (collectSend phase r m how).Keeps (contract T role) (fun g' _ w' => Unmoved T g w g' w')
      g w := by
  unfold collectSend
  refine keeps_bind (keeps_passIf _) fun g₁ result w₁ ⟨⟨hg₁, hw₁⟩, _⟩ => ?_
  subst hg₁
  cases result with
  | error e => exact keeps_done fun w₂ hw₂ => ⟨rfl, hw₁.trans hw₂⟩
  | ok _ =>
    dsimp only
    unfold Router.operationToSend
    -- without a route there is no operation
    split
    · exact keeps_done fun w₂ hw₂ => ⟨rfl, hw₁.trans hw₂⟩
    · rw [bind_assoc]
      refine keeps_bind (keeps_identify ..) fun g₂ message w₂ ⟨hg₂, hw₂⟩ => ?_
      subst hg₂
      exact keeps_done fun w₃ hw₃ => ⟨rfl, (hw₁.trans hw₂).trans hw₃⟩

/-- An operation to publish is collected, and nothing moves. -/
theorem keeps_collectPublish (phase : Session.Phase) (r : Router) (m : Draft)
    (how : Publishing) :
    (collectPublish phase r m how).Keeps (contract T role) (fun g' _ w' => Unmoved T g w g' w')
      g w := by
  unfold collectPublish
  refine keeps_bind (keeps_passIf _) fun g₁ result w₁ ⟨⟨hg₁, hw₁⟩, _⟩ => ?_
  subst hg₁
  cases result with
  | error e => exact keeps_done fun w₂ hw₂ => ⟨rfl, hw₁.trans hw₂⟩
  | ok _ =>
    dsimp only
    unfold Router.operationToPublish
    rw [bind_assoc]
    refine keeps_bind (keeps_identify ..) fun g₂ message w₂ ⟨hg₂, hw₂⟩ => ?_
    subst hg₂
    exact keeps_done fun w₃ hw₃ => ⟨rfl, (hw₁.trans hw₂).trans hw₃⟩

/-! ### Where a session stands between requests -/

/-- What holds of a session all its life. -/
structure Session.Outboxed.Belongs (T : Terms) (s : Session.Outboxed) (g : Standing) : Prop where
  store : s.store = T.store
  address : T.address s.processorAddress
  staging : g.staging = some s.staging
  free : g.duty = none

/-- Where a session stands on which changes have been staged. -/
structure Session.Outboxed.Stands (T : Terms) (staged : List Change) (s : Session.Outboxed)
    (g : Standing) (w : World) : Prop extends s.Belongs T g where
  plain : recordIds staged = []
  unopened : s.phase = .unopened → s.opened = none ∧ staged = [] ∧
    w.database.stagings[s.staging]? = some { store := T.store }
  opened : s.phase = .opened → ∃ o tx, s.opened = some o ∧ o.transaction = some tx ∧
    o.InOrder T ∧ g.transaction = some tx ∧
    w.database.transactions[tx]? = some { store := T.store } ∧
    w.database.stagings[s.staging]? = some
      { store := T.store, mode := .attached tx,
        partition := o.opening.hints.partitionKey, staged }

namespace Session.Outboxed

variable {s : Session.Outboxed} {staged : List Change}

/-- Once a session is over nothing of it matters any more. -/
theorem Belongs.stands (h : s.Belongs T g) (hplain : recordIds staged = [])
    (hu : s.phase ≠ .unopened) (ho : s.phase ≠ .opened) : s.Stands T staged g w where
  toBelongs := h
  plain := hplain
  unopened hp := absurd hp hu
  opened hp := absurd hp ho

/-- A session stands while others do what it relies on. -/
theorem Stands.later {w' : World} (h : s.Stands T staged g w) (hw : Relies T g w w') :
    s.Stands T staged g w' where
  toBelongs := h.toBelongs
  plain := h.plain
  unopened hp := by
    obtain ⟨ho, hs, hst⟩ := h.unopened hp
    exact ⟨ho, hs, (hw.staging _ h.staging).trans hst⟩
  opened hp := by
    obtain ⟨o, tx, ho, htx, horder, hg, ht, hst⟩ := h.opened hp
    exact ⟨o, tx, ho, htx, horder, hg, (hw.transaction tx hg).trans ht,
      (hw.staging _ h.staging).trans hst⟩

/-- Neither the batch nor the standing's commit counts for where a session stands. -/
theorem Stands.add (h : s.Stands T staged g w) (op : Operation) :
    (s.add op).Stands T staged g w where
  toBelongs := ⟨h.store, h.address, h.staging, h.free⟩
  plain := h.plain
  unopened := h.unopened
  opened := h.opened

/-- Whether the session has committed before does not count for where it stands. -/
theorem Stands.forget (h : s.Stands T staged g w) :
    s.Stands T staged { g with committed := false } w where
  toBelongs := ⟨h.store, h.address, h.staging, h.free⟩
  plain := h.plain
  unopened := h.unopened
  opened := h.opened

/-- A session lets go of its transaction and closes its staging, if that has not been done. -/
theorem keeps_release (h : g.staging = some s.staging) :
    s.release.Keeps (contract T role)
      (fun g' s' _ => g' = g ∧ s' = { s.withoutTransaction with released := true }) g w := by
  have hclose : ∀ w₁, s.withoutTransaction.closeOnce.Keeps (contract T role)
      (fun g' s' _ => g' = g ∧ s' = { s.withoutTransaction with released := true }) g w₁ := by
    intro w₁
    -- the staging is closed once, and a second time it is left alone
    by_cases hreleased : s.withoutTransaction.released = true
    · rw [closeOnce_of_released hreleased]
      exact keeps_done fun _ _ => ⟨rfl, rfl⟩
    · rw [closeOnce, if_neg hreleased]
      exact keeps_closeStaging h fun w₂ => keeps_done fun _ _ => ⟨rfl, rfl⟩
  cases htx : s.transaction? with
  | some tx =>
    rw [release_of_some htx]
    exact keeps_rollback fun w₁ _ => hclose w₁
  | none =>
    rw [release_of_none htx]
    exact hclose w

/-- A session that has come to an end, one way or the other, stands where it may. -/
theorem keeps_finish {phase : Phase} {result : Except CallError Unit} (h : s.Belongs T g)
    (hplain : recordIds staged = []) (hu : phase ≠ .unopened) (ho : phase ≠ .opened)
    (hiff : g.committed = true ↔ result = .ok ()) :
    (s.finish phase result).Keeps (contract T role)
      (fun g' r w' => r.1.Stands T staged g' w' ∧ (g'.committed = true ↔ r.2 = .ok ())) g w := by
  unfold finish
  refine (keeps_release h.staging).map fun g' s' w' ⟨hg', hs'⟩ => ?_
  subst hg' hs'
  exact ⟨Belongs.stands ⟨h.store, h.address, h.staging, h.free⟩ hplain hu ho, hiff⟩

/-- A session that is abandoned stands finished. -/
theorem keeps_abandon {tx : TransactionId} {e : CallError} (h : s.Belongs T g)
    (hplain : recordIds staged = []) :
    (s.abandon tx e).Keeps (contract T role)
      (fun g' r w' => r.1.Stands T staged g' w' ∧ g'.committed = g.committed) g w := by
  unfold abandon
  refine keeps_bind (keeps_release h.staging) fun g₁ s₁ w₁ ⟨hg₁, hs₁⟩ => ?_
  subst hg₁ hs₁
  rw [ask_bind]
  refine keeps_rollback fun w₂ _ => keeps_done fun w₃ _ => ⟨?_, rfl⟩
  exact Belongs.stands ⟨h.store, h.address, h.staging, h.free⟩ hplain nofun nofun

/-! ### Opening -/

/-- To start is to begin a transaction and to attach the staging to it. -/
theorem keeps_start {opening : Opening} {id : String} {countdown : Countdown}
    (h : s.Stands T staged g w) (hphase : s.phase = .unopened)
    (horder : ∀ tx, Opened.InOrder T { sessionId := id, countdown, opening, transaction := tx }) :
    (s.start opening id countdown).Keeps (contract T role)
      (fun g' r w' => r.1.Stands T staged g' w' ∧ g'.committed = g.committed) g w := by
  obtain ⟨-, rfl, hstaging⟩ := h.unopened hphase
  unfold start
  rw [ask_bind]
  -- cancelled before a transaction is begun, the session is still unopened
  refine keeps_unlessCancelled (fun _ => trivial) (fun w₁ hw₁ => ?_) ?_
  · exact keeps_done fun w₂ hw₂ => ⟨(h.later hw₁).later hw₂, rfl⟩
  rw [h.store]
  refine keeps_beginTransaction fun tx w₁ _ hframe ht => ?_
  have hbelongs : s.Belongs T { g with transaction := some tx } :=
    ⟨h.store, h.address, h.staging, h.free⟩
  have hst := (hframe _ h.staging).trans hstaging
  dsimp only
  rw [ask_bind]
  -- cancelled after that, it is abandoned together with its transaction
  refine keeps_unlessCancelled (fun _ => trivial) (fun w₂ hw₂ => ?_) ?_
  · exact keeps_abandon hbelongs rfl
  refine keeps_attach h.staging rfl hst ht rfl fun w₂ _ hst₂ ht₂ => ?_
  -- attached: the session is open, with what the opening said in it
  refine keeps_done fun w₃ hw₃ => ⟨?_, rfl⟩
  refine Stands.later ⟨⟨rfl, h.address, h.staging, h.free⟩, rfl, nofun, fun _ => ?_⟩ hw₃
  exact ⟨_, tx, rfl, rfl, horder _, rfl, ht₂, hst₂⟩

/-- A session can be opened in many ways that fail, and stands after each of them. -/
theorem keeps_openWith {opening : Opening} (h : s.Stands T staged g w)
    (hopening : T.opening opening) :
    (s.openWith opening).Keeps (contract T role)
      (fun g' r w' => r.1.Stands T staged g' w' ∧ g'.committed = g.committed) g w := by
  unfold openWith
  refine keeps_bind (keeps_passIf _) fun g₁ result w₁ ⟨⟨hg₁, hw₁⟩, hallowed⟩ => ?_
  subst hg₁
  have h₁ := h.later hw₁
  cases result with
  | error e => exact keeps_done fun w₂ hw₂ => ⟨h₁.later hw₂, rfl⟩
  | ok _ =>
    have hphase := (Phase.requireUnopened_eq_ok_iff _).1 (hallowed rfl)
    dsimp only
    split
    -- the opening is not valid, and nothing has happened
    · exact keeps_done fun w₂ hw₂ => ⟨h₁.later hw₂, rfl⟩
    · next hvalid =>
      refine keeps_bind (keeps_chooseId _) fun g₂ choice w₂ ⟨hg₂, hw₂⟩ => ?_
      subst hg₂
      have h₂ := h₁.later hw₂
      cases choice with
      | error e => exact keeps_done fun w₃ hw₃ => ⟨h₂.later hw₃, rfl⟩
      | ok id =>
        dsimp only
        split
        -- the durations do not make a countdown, and nothing has happened
        · exact keeps_done fun w₃ hw₃ => ⟨h₂.later hw₃, rfl⟩
        · next countdown hcountdown =>
          exact keeps_start h₂ hphase fun _ => ⟨hopening, hvalid, hcountdown⟩

/-! ### Collecting -/

/-- A session stands after a send, with one more operation in its batch or with none. -/
theorem keeps_send {m : Draft} {how : Sending} (h : s.Stands T staged g w) :
    (s.send m how).Keeps (contract T role)
      (fun g' r w' => r.1.Stands T staged g' w' ∧ g'.committed = g.committed) g w := by
  unfold send
  refine keeps_bind (keeps_collectSend ..) fun g₁ result w₁ ⟨hg₁, hw₁⟩ => ?_
  subst hg₁
  have h₁ := h.later hw₁
  cases result with
  | error e => exact keeps_done fun w₂ hw₂ => ⟨h₁.later hw₂, rfl⟩
  | ok op => exact keeps_done fun w₂ hw₂ => ⟨(h₁.later hw₂).add op, rfl⟩

/-- A session stands after a publish as well. -/
theorem keeps_publish {m : Draft} {how : Publishing} (h : s.Stands T staged g w) :
    (s.publish m how).Keeps (contract T role)
      (fun g' r w' => r.1.Stands T staged g' w' ∧ g'.committed = g.committed) g w := by
  unfold publish
  refine keeps_bind (keeps_collectPublish ..) fun g₁ result w₁ ⟨hg₁, hw₁⟩ => ?_
  subst hg₁
  have h₁ := h.later hw₁
  cases result with
  | error e => exact keeps_done fun w₂ hw₂ => ⟨h₁.later hw₂, rfl⟩
  | ok op => exact keeps_done fun w₂ hw₂ => ⟨(h₁.later hw₂).add op, rfl⟩

/-! ### Committing -/

/-- The control message is accepted when the announcement goes well. -/
theorem keeps_announce {o : Opened} (ho : s.opened = some o) (hfree : g.duty = none) :
    (s.announce o).Keeps (contract T (.session staged s))
      (fun g' result w' => Unmoved T g w g' w' ∧ (result = .ok () →
        ∃ now, T.time now ∧ s.announcement o now ∈ w'.transport.dispatched)) g w := by
  unfold announce
  rw [ask_bind]
  refine keeps_now fun now w₁ hw₁ hnow => ?_
  rw [ask_bind]
  refine keeps_unlessCancelled (fun _ _ h => h.elim) (fun w₂ hw₂ => ?_) ?_
  -- cancelled before it was begun, or rejected: nothing has been announced
  · exact keeps_done fun w₃ hw₃ => ⟨⟨rfl, (hw₁.trans hw₂).trans hw₃⟩, nofun⟩
  refine keeps_dispatch (fun _ _ => ⟨o, now, ho, hnow, rfl⟩) (fun e w₂ hw₂ _ => ?_)
    fun w₂ hw₂ hops => ?_
  · exact keeps_done fun w₃ hw₃ => ⟨⟨rfl, (hw₁.trans hw₂).trans hw₃⟩, nofun⟩
  · rw [Standing.after_dispatch_of_free hfree]
    refine keeps_done fun w₃ hw₃ => ⟨⟨rfl, (hw₁.trans hw₂).trans hw₃⟩, fun _ => ⟨now, hnow, ?_⟩⟩
    exact hw₃.grows.mem_dispatched (hops _ (List.mem_singleton_self _))

/-- What an open session holds when its control message has been accepted. -/
structure Committing (T : Terms) (staged : List Change) (s : Session.Outboxed) (id : String)
    (tx : TransactionId) (g : Standing) (w : World) : Prop extends s.Belongs T g where
  plain : recordIds staged = []
  named : s.sessionId? = some id
  holds : g.transaction = some tx
  announced : (Role.session staged s).Announced T w
  transaction : w.database.transactions[tx]? = some { store := T.store }
  attached : ∃ partition, w.database.stagings[s.staging]? =
    some { store := T.store, mode := .attached tx, partition, staged }
  uncommitted : g.committed = false

/-- What has been announced stays announced. -/
theorem announced_grow {w' : World} (h : (Role.session staged s).Announced T w)
    (hw : w.Grows w') : (Role.session staged s).Announced T w' := by
  obtain ⟨o, now, ho, horder, hnow, haddress, hop⟩ := h
  exact ⟨o, now, ho, horder, hnow, haddress, hw.mem_dispatched hop⟩

/-- A participant whose commit has gone well if and only if `result` says so, and which holds what
it held before. -/
def CommittedIff (s : Session.Outboxed) (T : Terms) (g : Standing) (ok : Prop) : Prop :=
  s.Belongs T g ∧ (g.committed = true ↔ ok)

/-- The changes are handed over, the record is added, and both are committed. -/
theorem keeps_applyIn {id : String} {tx : TransactionId} (h : Committing T staged s id tx g w) :
    (s.applyIn id tx).Keeps (contract T (.session staged s))
      (fun g' result _ => CommittedIff s T g' (result = .ok ())) g w := by
  obtain ⟨partition, hst⟩ := h.attached
  have hfailed : ∀ (e : StoreError) w', (done (.error e)).Keeps (contract T (.session staged s))
      (fun g' result _ => CommittedIff s T g' (result = Except.ok ())) g w' :=
    fun e w' => keeps_done fun _ _ => ⟨h.toBelongs, by simp [h.uncommitted]⟩
  have hchanges : staged ++ [.record (.new id s.batch)] = (Role.session staged s).contribution := by
    simp [Role.contribution, h.named]
  unfold applyIn
  rw [ask_bind]
  -- the transaction is empty, then it holds what was staged, then the record as well
  refine keeps_complete h.staging h.holds hst rfl h.transaction (fun reason w₁ _ => hfailed _ _)
    fun w₁ hw₁ ht₁ => ?_
  dsimp only
  rw [ask_bind, h.store]
  refine keeps_addRecord h.holds ht₁ rfl (fun reason w₂ _ => hfailed _ _) fun w₂ hw₂ ht₂ => ?_
  simp only [List.nil_append] at ht₂
  rw [hchanges] at ht₂
  refine keeps_commit h.holds ht₂ h.plain (fun w₃ hw₃ => ?_) (fun reason w₃ _ => hfailed _ _)
    (fun e w₃ _ _ => hfailed _ _) fun w₃ _ _ => ?_
  · exact announced_grow h.announced ((hw₁.trans hw₂).trans hw₃)
  · exact keeps_done fun _ _ => ⟨⟨h.store, h.address, h.staging, h.free⟩, by simp⟩

/-- To make a batch durable is to apply it in the transaction of the session. -/
theorem keeps_makeDurable {id : String} {tx : TransactionId}
    (h : Committing T staged s id tx g w) :
    (s.makeDurable id tx).Keeps (contract T (.session staged s))
      (fun g' result _ => CommittedIff s T g' (result = .ok ())) g w := by
  unfold makeDurable
  refine keeps_bind (keeps_applyIn h) fun g₁ result w₁ ⟨hbelongs, hiff⟩ => ?_
  cases result with
  | ok _ => exact keeps_done fun _ _ => ⟨hbelongs, by simpa using hiff⟩
  | error e =>
    dsimp only
    rw [ask_bind]
    exact keeps_rollback fun w₂ _ => keeps_done fun _ _ => ⟨hbelongs, by simpa using hiff⟩

/-- A commit ends the session, and it has committed exactly when the commit ends well. -/
theorem keeps_commitSession (h : s.Stands T staged g w) (hc : g.committed = false) :
    s.commit.Keeps (contract T (.session staged s))
      (fun g' r w' => r.1.Stands T staged g' w' ∧ (g'.committed = true ↔ r.2 = .ok ())) g w := by
  unfold commit
  refine keeps_bind (keeps_passIf _) fun g₁ result w₁ ⟨⟨hg₁, hw₁⟩, hallowed⟩ => ?_
  subst hg₁
  have h₁ := h.later hw₁
  cases result with
  | error e => exact keeps_done fun w₂ hw₂ => ⟨h₁.later hw₂, by simp [hc]⟩
  | ok _ =>
    have hphase := (Phase.requireOpen_eq_ok_iff _).1 (hallowed rfl)
    obtain ⟨o, tx, ho, htx, horder, -⟩ := h₁.opened hphase
    dsimp only
    rw [ho]
    dsimp only
    refine keeps_bind (keeps_announce ho h.free) fun g₂ result w₂ ⟨⟨hg₂, hw₂⟩, hop⟩ => ?_
    subst hg₂
    have h₂ := h₁.later hw₂
    cases result with
    -- without an announcement nothing is made durable
    | error e => exact keeps_finish h₂.toBelongs h.plain nofun nofun (by simp [hc])
    | ok _ =>
      -- the session still stands open after the announcement, with the same transaction
      obtain ⟨now, hnow, hmem⟩ := hop rfl
      obtain ⟨o', tx', ho', htx', -, hholds, ht, hst⟩ := h₂.opened hphase
      obtain rfl : o = o' := Option.some.inj (ho.symm.trans ho')
      obtain rfl : tx = tx' := Option.some.inj (htx.symm.trans htx')
      have hcommitting : Committing T staged s o.sessionId tx g₂ w₂ :=
        { toBelongs := h₂.toBelongs
          plain := h.plain
          named := by simp [sessionId?, ho]
          holds := hholds
          announced := ⟨o, now, ho, horder, hnow, h₂.address, hmem⟩
          transaction := ht
          attached := ⟨_, hst⟩
          uncommitted := hc }
      dsimp only
      rw [htx]
      refine keeps_bind (keeps_makeDurable hcommitting) fun g₃ result w₃ ⟨hbelongs, hiff⟩ => ?_
      have hbelongs' : s.withoutTransaction.Belongs T g₃ :=
        ⟨hbelongs.store, hbelongs.address, hbelongs.staging, hbelongs.free⟩
      cases result with
      -- whether the batch was made durable or not, the session is finished
      | ok _ => exact keeps_finish hbelongs' h.plain nofun nofun hiff
      | error e => exact keeps_finish hbelongs' h.plain nofun nofun hiff

/-! ### Letting go -/

/-- A session can be disposed of wherever it stands. -/
theorem keeps_dispose (h : s.Stands T staged g w) :
    s.dispose.Keeps (contract T role)
      (fun g' s' w' => s'.Stands T staged g' w' ∧ g'.committed = g.committed) g w := by
  unfold dispose
  split
  · exact keeps_done fun w₁ hw₁ => ⟨h.later hw₁, rfl⟩
  · refine (keeps_release h.staging).map fun g' s' w' ⟨hg', hs'⟩ => ?_
    subst hg' hs'
    exact ⟨Belongs.stands ⟨h.store, h.address, h.staging, h.free⟩ h.plain nofun nofun, rfl⟩

/-- A session that is dropped lets go of what it owns. -/
theorem keeps_drop (h : g.staging = some s.staging) :
    s.drop.Keeps (contract T role) (fun g' _ _ => g' = g) g w :=
  (keeps_release h).map fun _ _ _ h => h.1

end Session.Outboxed

/-! ### Requests -/

/-- Where a request leaves a session. -/
def AfterRequest (T : Terms) (staged : List Change) (what : Session.Request) (g : Standing)
    (result : Option Session × Except CallError Unit) (w : World) : Prop :=
  (∀ session, result.1 = some session →
    ∃ s : Session.Outboxed, session = .outboxed s ∧ s.Stands T staged g w) ∧
  (g.committed = true ↔ what = .commit ∧ result.2 = .ok ())

/-- A request that is made of an outbox session returns one, and with it what is said of it. -/
theorem keeps_request {s : Session.Outboxed} {staged : List Change} {what : Session.Request}
    {p : Program (Session.Outboxed × Except CallError Unit)}
    (h : p.Keeps (contract T (.session staged s)) (fun g' r w' => r.1.Stands T staged g' w' ∧
      (g'.committed = true ↔ what = .commit ∧ r.2 = .ok ())) g w) :
    (p >>= (fun r => done (r.map .outboxed id)) >>= fun r => done (r.map some id)).Keeps
      (contract T (.session staged s)) (AfterRequest T staged what) g w := by
  rw [bind_assoc]
  refine h.map fun g' r w' ⟨hstands, hiff⟩ => ⟨fun session hsession => ?_, hiff⟩
  exact ⟨r.1, (Option.some.inj hsession).symm, hstands⟩

/-- A request other than a commit commits nothing. -/
theorem keeps_request_of_committed_eq {s : Session.Outboxed} {staged : List Change}
    {what : Session.Request} {p : Program (Session.Outboxed × Except CallError Unit)}
    (h : p.Keeps (contract T (.session staged s)) (fun g' r w' => r.1.Stands T staged g' w' ∧
      g'.committed = g.committed) g w) (hc : g.committed = false) (hwhat : what ≠ .commit) :
    (p >>= (fun r => done (r.map .outboxed id)) >>= fun r => done (r.map some id)).Keeps
      (contract T (.session staged s)) (AfterRequest T staged what) g w :=
  keeps_request (h.weaken fun _ _ _ ⟨hstands, hc'⟩ => ⟨hstands, by simp [hc', hc, hwhat]⟩)

/-- Every request keeps the contract. -/
theorem keeps_perform {s : Session.Outboxed} {staged : List Change} {what : Session.Request}
    (h : s.Stands T staged g w) (hc : g.committed = false)
    (hopening : ∀ opening, what = .openWith opening → T.opening opening) :
    ((Session.outboxed s).perform what).Keeps (contract T (.session staged s))
      (AfterRequest T staged what) g w := by
  -- a commit is the one request that can commit
  cases what with
  | openWith opening =>
    have hopens := hopening opening rfl
    exact keeps_request_of_committed_eq (Session.Outboxed.keeps_openWith h hopens) hc (by simp)
  | send m how =>
    exact keeps_request_of_committed_eq (Session.Outboxed.keeps_send h) hc (by simp)
  | publish m how =>
    exact keeps_request_of_committed_eq (Session.Outboxed.keeps_publish h) hc (by simp)
  | commit =>
    refine keeps_request ((Session.Outboxed.keeps_commitSession h hc).weaken ?_)
    exact fun g' r w' ⟨hstands, hiff⟩ => ⟨hstands, by simpa using hiff⟩
  | dispose =>
    unfold Session.perform Session.dispose
    simp only [bind_assoc, pure_eq, done_bind]
    refine (Session.Outboxed.keeps_dispose h).map fun g' s' w' ⟨hstands, hc'⟩ => ?_
    refine ⟨fun session hsession => ?_, by simp [hc', hc]⟩
    exact ⟨s', (Option.some.inj hsession).symm, hstands⟩
  | drop =>
    unfold Session.perform Session.drop
    -- a session that is dropped returns nothing that could stand anywhere
    refine (Session.Outboxed.keeps_drop h.staging).map fun g' _ w' hg' => ?_
    exact ⟨by simp, by simp [hg', hc]⟩

end Outbox
