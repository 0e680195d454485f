import Outbox.Proofs.Contract
import Outbox.Proofs.History

/-!
# What lawful calls do

A lawful call leaves the records of the store as they are, marks a record of which everything has
been accepted, or makes the changes that the role of its participant allows. What participants
share stays true under it, and so does everything that others own.

* `storeStep_answer`   what a call makes of the store, and what the log says about it
* `shared_answer`      what participants share is kept
* `relies_answer`      a call is among what others rely on
-/

namespace Outbox

/-- The second store has the documents and the records of the first. -/
structure Store.SameContent (a b : Store) : Prop where
  documents : b.documents = a.documents
  records : b.records = a.records

namespace Store

/-- Content is the same when nothing happens. -/
theorem SameContent.refl (s : Store) : s.SameContent s := ⟨rfl, rfl⟩

/-- Stores with the same content have the same record under an id. -/
theorem SameContent.record? {a b : Store} (h : a.SameContent b) (id : String) :
    b.record? id = a.record? id := by
  rw [Store.record?, Store.record?, h.records]

/-- What agrees with a store agrees with every store of the same content. -/
theorem SameContent.agrees {a a' b : Store} (h : a.SameContent a') (hb : a.Agrees b) :
    a'.Agrees b :=
  ⟨h.documents.trans hb.documents, fun id => by rw [h.record?]; exact hb.records id⟩

end Store

namespace Database

/-- A store that is replaced by one of the same content changes nobody's content. -/
theorem sameContent_setStore {d : Database} {name : String} {s : Store}
    (h : (d.store name).SameContent s) (other : String) :
    (d.store other).SameContent ((d.setStore name s).store other) := by
  rw [store_setStore]
  split
  · next heq => exact heq ▸ h
  · exact .refl _

/-- To disarm a failure is no change of content. -/
theorem sameContent_disarm (d : Database) (name : String) (call : StoreCall) (other : String) :
    (d.store other).SameContent
      ((d.setStore name ((d.store name).disarm call).2).store other) := by
  have hdisarm : (d.store name).SameContent ((d.store name).disarm call).2 := ⟨rfl, rfl⟩
  exact sameContent_setStore hdisarm other

/-- A record that is added to a transaction is not yet in the store. -/
theorem sameContent_addRecord (d : Database) (name : String) (r : Record) (tx : TransactionId)
    (other : String) : (d.store other).SameContent ((d.addRecord name r tx).2.store other) := by
  unfold addRecord
  split
  · next s hs =>
    obtain rfl : _ = s := congrArg Prod.snd hs
    exact sameContent_disarm d name .store other
  · split
    · exact .refl _
    · split <;> exact .refl _

/-- A staging that is attached hands nothing to a store. -/
theorem sameContent_complete {d : Database} {id : StagingId} {s : Staging} {tx : TransactionId}
    (hs : d.stagings[id]? = some s) (hmode : s.mode = .attached tx) (other : String) :
    (d.store other).SameContent ((d.complete id).2.store other) := by
  unfold complete
  rw [hs]
  dsimp only
  -- the store has failed, and only the fault is used up
  split
  · next store hstore =>
    obtain rfl : _ = store := congrArg Prod.snd hstore
    exact sameContent_disarm d s.store .complete other
  · rw [hmode]
    dsimp only [handOver]
    split <;> exact .refl _

/-- To attach a staging leaves the stores alone. -/
theorem store_attach (d : Database) (id : StagingId) (tx : TransactionId) (hints : Hints)
    (other : String) : (d.attach id tx hints).2.store other = d.store other := by
  unfold attach
  split
  · split <;> rfl
  · rfl

/-- So does it to close one. -/
theorem store_closeStaging (d : Database) (id : StagingId) (other : String) :
    (d.closeStaging id).store other = d.store other := by
  unfold closeStaging
  split <;> rfl

end Database

/-- What a lawful call makes of the store, together with the changes that the log then tells of. -/
inductive StoreStep (T : Terms) (role : Role) (w w' : World) : List Change → Prop
  /-- Neither documents nor records have changed. -/
  | kept : (w.database.store T.store).SameContent (w'.database.store T.store) →
      StoreStep T role w w' []
  /-- A record of which everything has been accepted is marked. -/
  | marked (id : String) : role.MayMark id →
      (∀ r, w.record? T.store id = some r → r.markDispatched.Accepted w) →
      w'.database.store T.store = (w.database.store T.store).setDispatched id →
      StoreStep T role w w' []
  /-- The changes that the role allows are made. -/
  | committed : role.Plain → role.Announced T w →
      (w.database.store T.store).applyAll role.contribution = .ok (w'.database.store T.store) →
      StoreStep T role w w' role.contribution

section

variable {T : Terms} {role : Role} {g : Standing} {β : Type} {c : Call β} {w : World}

/-- What a lawful call makes of the store. -/
theorem storeStep_answer (cancelled : Bool) (who n : Nat) (h : Lawful T role g c w) :
    StoreStep T role w (World.answer cancelled c w).2 (committedChanges
      (Task.note who n role.contribution c (World.answer cancelled c w).1)) := by
  -- of all calls a commit and a mark touch content, and an optional call is the call or nothing
  induction c generalizing w with
  | now | isCancelled | rollback | freshId | handle | observe | beginTransaction =>
    exact .kept (.refl _)
  | openStaging => exact h.elim
  | attach id tx hints =>
    refine .kept ?_
    change Store.SameContent _ ((w.database.attach id tx hints).2.store T.store)
    rw [Database.store_attach]
    exact .refl _
  | complete id =>
    obtain ⟨-, s, tx, hs, hmode, -⟩ := h
    exact .kept (Database.sameContent_complete hs hmode _)
  | closeStaging id =>
    refine .kept ?_
    change Store.SameContent _ ((w.database.closeStaging id).store T.store)
    rw [Database.store_closeStaging]
    exact .refl _
  | addRecord store r tx => exact .kept (Database.sameContent_addRecord _ _ _ _ _)
  | commit tx =>
    -- the one call that changes content, and then the log tells of the same changes
    obtain ⟨-, ht, hplain, hannounced⟩ := h
    simp only [World.answer, World.withDatabase]
    rcases Database.commit_cases ht rfl with ⟨reason, heq⟩ | ⟨e, -, heq⟩ | ⟨s, happly, heq⟩
    · rw [heq]
      exact .kept (Database.sameContent_disarm _ _ _ _)
    · rw [heq]
      exact .kept (.refl _)
    -- the note of a commit that went well is the contribution of the role
    · rw [heq]
      have hchanges : committedChanges (Task.note who n role.contribution (.commit tx) (.ok ())) =
          role.contribution := by
        simp [committedChanges, Task.note, Entry.changes]
      rw [hchanges]
      refine .committed hplain hannounced ?_
      change _ = Except.ok ((w.database.setStore T.store s).store T.store)
      rw [Database.store_setStore, if_pos rfl]
      exact happly
  | getRecord store id =>
    refine .kept ?_
    simp only [World.answer, World.database_getRecord]
    exact .refl _
  | setDispatched store id =>
    obtain ⟨rfl, hmay, haccepted⟩ := h
    simp only [World.answer, World.setDispatched]
    split
    · exact .kept (.refl _)
    -- the record is marked, and the role allowed that
    · refine .marked id hmay haccepted ?_
      simp [Database.setDispatched]
  | dispatch ops =>
    exact .kept (.refl _)
  | unlessCancelled c ih =>
    cases cancelled with
    | true => exact .kept (.refl _)
    | false => exact ih h

/-- The records that a commit adds are new: a session's with its batch, or an empty one. -/
theorem Role.eq_new_of_mem_contribution (hplain : role.Plain) {r : Record}
    (h : .record r ∈ role.contribution) : ∃ batch, r = .new r.id batch ∧
      (batch ≠ [] → ∃ staged s, role = .session staged s ∧ r.id = s.sessionId?.getD "") := by
  -- a session adds what was staged and its own record, a delivery an empty one
  cases role with
  | session staged s =>
    rcases List.mem_append.1 h with hstaged | hlast
    · -- the edits of an owner are about documents
      have hid := mem_recordIds hstaged
      rw [show recordIds staged = [] from hplain] at hid
      exact absurd hid List.not_mem_nil
    · obtain rfl : r = .new (s.sessionId?.getD "") s.batch := by simpa using hlast
      exact ⟨s.batch, rfl, fun _ => ⟨staged, s, rfl, rfl⟩⟩
  | delivery k m =>
    obtain rfl : r = .tombstone m.id := by simpa [Role.contribution] using h
    exact ⟨[], rfl, fun hne => absurd rfl hne⟩

/-- In a new record nothing is marked, so all that is marked in it has been accepted. -/
theorem Record.accepted_new (id : String) (batch : Batch) : (Record.new id batch).Accepted w := by
  intro op hop hd
  obtain ⟨op', -, rfl⟩ := List.mem_map.1 hop
  exact nomatch hd

/-! ### What participants share -/

/-- No call turns the clock. -/
theorem clock_answer (cancelled : Bool) : (World.answer cancelled c w).2.clock = w.clock := by
  induction c generalizing w with
  | getRecord store id => exact World.clock_getRecord w store id
  | setDispatched store id => exact World.clock_setDispatched w store id
  | unlessCancelled c ih =>
    cases cancelled with
    | true => rfl
    | false => exact ih
  | _ => rfl

/-- No call hides records. -/
theorem hiddenRecords_answer (cancelled : Bool) (h : w.faults.hiddenRecords = 0) :
    (World.answer cancelled c w).2.faults.hiddenRecords = 0 := by
  -- a look-up uses hidden records up, and there are none
  induction c generalizing w with
  | getRecord store id =>
    simp only [World.answer, World.getRecord]
    split
    · exact h
    · rw [h]
      exact h
  | setDispatched store id =>
    simp only [World.answer, World.setDispatched]
    split <;> exact h
  | unlessCancelled c ih =>
    cases cancelled with
    | true => exact h
    | false => exact ih h
  | _ => exact h

/-- What a step on the store makes of the record under an id. -/
theorem StoreStep.record?_cases {w' : World} {changes : List Change} {id : String} {r : Record}
    (h : StoreStep T role w w' changes) (hr : w'.record? T.store id = some r) :
    w.record? T.store id = some r ∨
    (∃ r', w.record? T.store id = some r' ∧ r = r'.markDispatched ∧ r.Accepted w) ∨
    (role.Plain ∧ role.Announced T w ∧ .record r ∈ role.contribution ∧ r.id = id) := by
  -- the step left the store, marked a record, or committed changes
  cases h with
  | kept hsame => exact .inl (by rw [← hr]; exact (hsame.record? id).symm)
  | marked marked hmay haccepted hstore =>
    rw [World.record?, hstore, Store.record?_setDispatched] at hr
    split at hr
    · next heq =>
      -- the record under this very id was marked
      subst heq
      obtain ⟨r', hr', rfl⟩ := Option.map_eq_some_iff.1 hr
      exact .inr (.inl ⟨r', hr', rfl, haccepted r' hr'⟩)
    · exact .inl hr
  | committed hplain hannounced happly =>
    obtain ⟨-, -, hstore⟩ := Store.applyAll_eq_ok_iff.1 happly
    rw [World.record?, hstore] at hr
    rcases Store.mem_of_record?_foldl_apply hr with hold | ⟨hmem, hid⟩
    · exact .inl hold
    · exact .inr (.inr ⟨hplain, hannounced, hmem, hid⟩)

/-- A lawful call keeps what participants share. -/
theorem shared_answer (cancelled : Bool) (hw : Shared T w) (h : Lawful T role g c w) :
    Shared T (World.answer cancelled c w).2 := by
  -- the record under each id has one of three origins
  have hgrows := World.grows_answer cancelled c w
  have hstep := storeStep_answer cancelled 0 0 h
  refine ⟨hiddenRecords_answer cancelled hw.visible, ?_, fun id r hr => ?_, fun id r hr => ?_⟩
  · rw [clock_answer]
    exact hw.time
  -- the three origins of a record, and each gives it the id under which it stands
  · rcases hstep.record?_cases hr with hold | ⟨r', hr', rfl, -⟩ | ⟨-, -, -, hid⟩
    · exact hw.id_eq id r hold
    · exact hw.id_eq id r' hr'
    · exact hid
  -- and of none of them is anything marked that was not accepted
  · rcases hstep.record?_cases hr with hold | ⟨r', -, -, haccepted⟩ | ⟨hplain, -, hmem, -⟩
    · exact (hw.accepted id r hold).grow hgrows
    · exact haccepted.grow hgrows
    · obtain ⟨batch, heq, -⟩ := Role.eq_new_of_mem_contribution hplain hmem
      rw [heq]
      exact Record.accepted_new _ _

/-! ### What others own -/

/-- The call of a participant is among what others rely on. -/
theorem relies_answer {g' : Standing} (cancelled : Bool) (hw : Shared T w)
    (h : Lawful T role g c w) (hstaging : ∀ id, g'.staging = some id → g.staging ≠ some id)
    (htransaction : ∀ tx, g'.transaction = some tx →
      g.transaction ≠ some tx ∧ tx < w.database.transactions.length) :
    Relies T g' w (World.answer cancelled c w).2 where
  grows := World.grows_answer cancelled c w
  shared := shared_answer cancelled hw h
  staging id hid := frame_stagings cancelled h (hstaging id hid)
  transaction tx htx := by
    obtain ⟨hne, hlt⟩ := htransaction tx htx
    exact frame_transactions cancelled h hne hlt

/-- Stagings and transactions are never taken away. -/
theorem length_answer (cancelled : Bool) (h : Lawful T role g c w) :
    (World.answer cancelled c w).2.database.stagings.length = w.database.stagings.length ∧
    w.database.transactions.length ≤
      (World.answer cancelled c w).2.database.transactions.length := by
  have hsame : ∀ d, Database.SameSize w.database d →
      d.stagings.length = w.database.stagings.length ∧
      w.database.transactions.length ≤ d.transactions.length :=
    fun d hd => ⟨hd.stagings, Nat.le_of_eq hd.transactions.symm⟩
  -- only the start of a transaction adds one, and nothing takes any away
  induction c generalizing w with
  | now | isCancelled | rollback | freshId | handle | observe | dispatch =>
    exact ⟨rfl, Nat.le_refl _⟩
  | beginTransaction store hints =>
    refine ⟨rfl, ?_⟩
    simp [World.answer, Database.begin]
  | openStaging => exact h.elim
  | attach id tx hints => exact hsame _ (Database.sameSize_attach id tx hints)
  | complete id => exact hsame _ (Database.sameSize_complete id)
  | closeStaging id => exact hsame _ (Database.sameSize_closeStaging id)
  | addRecord store r tx => exact hsame _ (Database.sameSize_addRecord store r tx)
  | commit tx => exact hsame _ (Database.sameSize_commit tx)
  | getRecord store id => simp [World.answer]
  | setDispatched store id => simp [World.answer]
  | unlessCancelled c ih =>
    cases cancelled with
    | true => exact ⟨rfl, Nat.le_refl _⟩
    | false => exact ih h hsame

/-! ### The standing -/

/-- A participant keeps its staging whatever it calls. -/
theorem Standing.staging_after (reply : β) : (g.after T c reply).staging = g.staging := by
  induction c with
  | beginTransaction | commit | dispatch => cases reply <;> rfl
  | unlessCancelled c ih =>
    cases reply with
    | none => rfl
    | some reply => exact ih reply
  | _ => rfl

/-- A participant keeps its transaction, or it has begun one with a number of its own. -/
theorem Standing.transaction_after (cancelled : Bool) :
    let g' := g.after T c (World.answer cancelled c w).1
    g'.transaction = g.transaction ∨
      g'.transaction = some w.database.transactions.length ∧ w.database.transactions.length <
        (World.answer cancelled c w).2.database.transactions.length := by
  -- the transaction is set by its start only; a commit and a dispatch change other fields
  induction c generalizing w with
  | beginTransaction store hints =>
    exact .inr ⟨rfl, by simp [World.answer, Database.begin]⟩
  | commit tx =>
    refine .inl ?_
    simp only [Standing.after]
    split <;> rfl
  | dispatch ops =>
    refine .inl ?_
    simp only [Standing.after]
    split <;> rfl
  | unlessCancelled c ih =>
    cases cancelled with
    | true => exact .inl rfl
    | false => exact ih
  | _ => exact .inl rfl

/-- A participant has committed when it had before, or when the log tells of it. -/
theorem Standing.committed_after (who n : Nat) (contribution : List Change) (reply : β) :
    (g.after T c reply).committed = true ↔
      g.committed = true ∨ ∃ changes, .committed who n changes ∈
        Task.note who n contribution c reply := by
  -- the note of a call tells of a commit in the same case as the standing does
  induction c with
  | beginTransaction => cases reply <;> simp [Standing.after, Task.note]
  | commit => cases reply <;> simp [Standing.after, Task.note]
  | dispatch => cases reply <;> simp [Standing.after, Task.note]
  | unlessCancelled c ih =>
    cases reply with
    | none => simp [Standing.after, Task.note]
    | some reply => exact ih reply
  | _ => simp [Standing.after, Task.note]

/-- A duty is passed on or kept. -/
theorem Standing.duty_after (reply : β) :
    (g.after T c reply).duty = none ∨ (g.after T c reply).duty = g.duty := by
  -- a duty ends with an accepted dispatch, and at no other call
  induction c with
  | beginTransaction | commit => cases reply <;> exact .inr rfl
  | dispatch ops =>
    cases reply with
    | error e => exact .inr rfl
    | ok _ =>
      simp only [Standing.after]
      split
      · exact .inl rfl
      · exact .inr rfl
  | unlessCancelled c ih =>
    cases reply with
    | none => exact .inr rfl
    | some reply => exact ih reply
  | _ => exact .inr rfl

end

end Outbox
