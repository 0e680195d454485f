import Outbox.Proofs.Actions
import Outbox.Proofs.Amid
import Outbox.Proofs.Commits
import Outbox.Proofs.Traffic

/-!
# The others

What the other parties may do while a delivery is under way: sessions and deliveries make any call
of theirs, cancelled or not, on any store and with any transaction but those that the delivery has
begun, which nobody else holds; session objects are made, documents are staged, failures are
armed, the clock is moved, queues subscribe, and messages are dispatched and received. Only a
mark is not made to fail: the stores in memory do not fail there.

* `effect_answer`    what a call makes of a store
* `Move`             one move of the others
* `since_of_moves`   what any number of moves leaves as it is
-/

namespace Outbox

/-- The call leaves the transactions `own` alone: it names none of them, and no staging that hands
its changes to one. -/
def Call.Spares (own : TransactionId → Prop) (d : Database) : {β : Type} → Call β → Prop
  | _, .attach _ tx _ => ¬ own tx
  | _, .addRecord _ _ tx => ¬ own tx
  | _, .commit tx => ¬ own tx
  | _, .complete staging =>
    ∀ s tx, d.stagings[staging]? = some s → s.mode = .attached tx → ¬ own tx
  | _, .unlessCancelled c => c.Spares own d
  | _, _ => True

/-- One move of others who do not hold the transactions `own`. -/
inductive Move (own : TransactionId → Prop) (w : World) : World → Prop
  | call (cancelled : Bool) {β : Type} (c : Call β) : c.Spares own w.database →
      Move own w (World.answer cancelled c w).2
  /-- A session object gets a staging of its own. -/
  | create (store : String) : Move own w { w with database := (w.database.newStaging store).2 }
  | edit (staging : StagingId) (e : Edit) :
      Move own w { w with database := (e.stage w.database staging).2 }
  | disturb (d : Disturbance) : (∀ reason, d ≠ .failMark reason) → Move own w (w.disturb d)

/-- The transactions that a participant has begun. -/
def begun (past : List Act) (tx : TransactionId) : Prop :=
  ∃ store hints v, (⟨.beginTransaction store hints, v⟩ : Act) ∈ past ∧
    tx = (v.database.begin store).1

/-- A transaction that was begun stays one that was begun. -/
theorem begun_append {past later : List Act} {tx : TransactionId} (h : begun past tx) :
    begun (past ++ later) tx := by
  obtain ⟨store, hints, v, hv, htx⟩ := h
  exact ⟨store, hints, v, List.mem_append_left later hv, htx⟩

/-- What the others may do after some acts of a participant. -/
def others (past : List Act) : World → World → Prop := Move (begun past)

namespace World

/-- Records stand under their own ids, look-ups tell what is there, and marks do not fail. -/
structure Sound (w : World) : Prop where
  keyed : ∀ name, (w.database.store name).Keyed
  seen : w.faults.hiddenRecords = 0
  marks : w.faults.setDispatched = none

/-- What a call makes of a store. -/
theorem effect_answer (cancelled : Bool) {β : Type} (c : Call β) (w : World) (name : String) :
    (w.database.store name).Effect ((answer cancelled c w).2.database.store name) := by
  -- most calls are actions on the database, whose effects are known; the rest leaves it alone
  induction c generalizing w with
  | now | freshId | isCancelled | rollback | handle | observe => exact Database.effect_of_eq rfl
  | beginTransaction store hints => exact Database.effect_perform w.database (.begin store) name
  | attach staging tx hints =>
    exact Database.effect_perform w.database (.attach staging tx hints) name
  | openStaging staging hints =>
    exact Database.effect_perform w.database (.openStaging staging hints) name
  | complete staging => exact Database.effect_perform w.database (.complete staging) name
  | closeStaging staging => exact Database.effect_perform w.database (.closeStaging staging) name
  | addRecord store r tx => exact Database.effect_perform w.database (.addRecord store r tx) name
  | commit tx => exact Database.effect_perform w.database (.commit tx) name
  | getRecord store id =>
    exact Database.effect_of_eq (by rw [answer, database_getRecord])
  | setDispatched store id =>
    simp only [answer, setDispatched]
    split
    · exact Database.effect_of_eq rfl
    · exact Database.effect_perform w.database (.setDispatched store id) name
  | dispatch ops => exact Database.effect_of_eq rfl
  | unlessCancelled c ih =>
    unfold answer
    split
    · exact Database.effect_of_eq rfl
    · exact ih w

/-- No call makes a mark fail. -/
theorem marks_answer (cancelled : Bool) {β : Type} (c : Call β) {w : World}
    (h : w.faults.setDispatched = none) :
    (answer cancelled c w).2.faults.setDispatched = none := by
  -- the two calls that a fault can meet, and those that wrap another one
  induction c with
  | getRecord store id =>
    simp only [answer, getRecord]
    -- only an armed look-up uses something up, and that is another fault
    split
    · exact h
    · split <;> exact h
  | setDispatched store id =>
    simp only [answer, setDispatched, h]
  | unlessCancelled c ih =>
    unfold answer
    split
    · exact h
    · exact ih
  | _ => exact h

/-- The world stays sound when a call is answered. -/
theorem Sound.answer {w : World} (h : w.Sound) (cancelled : Bool) {β : Type} (c : Call β) :
    (World.answer cancelled c w).2.Sound where
  keyed name := (effect_answer cancelled c w name).keyed (h.keyed name)
  seen := hiddenRecords_answer cancelled h.seen
  marks := marks_answer cancelled c h.marks

/-- A call touches no transaction that it spares. -/
theorem transactions_answer {own : TransactionId → Prop} {tx : TransactionId} (hown : own tx)
    (cancelled : Bool) {β : Type} (c : Call β) {w : World} (hspares : c.Spares own w.database)
    (htx : tx < w.database.transactions.length) :
    (answer cancelled c w).2.database.transactions[tx]? = w.database.transactions[tx]? := by
  -- of the calls only a completion, a record and a commit reach a transaction
  induction c with
  | now | freshId | isCancelled | rollback | handle | observe | dispatch => rfl
  | beginTransaction store hints => exact Database.transactions_begin_of_lt store htx
  | attach staging other hints =>
    simp only [answer, Database.transactions_attach]
  | openStaging staging hints => simp only [answer, Database.transactions_openStaging]
  | complete staging =>
    show (w.database.complete staging).2.transactions[tx]? = _
    -- the staging decides whose transaction is touched
    cases hs : w.database.stagings[staging]? with
    | none => rw [Database.complete, hs]
    | some s =>
      cases hmode : s.mode with
      | attached other =>
        refine Database.transactions_complete_of_ne hs hmode ?_
        rintro rfl
        exact hspares s other hs hmode hown
      | closed | standalone =>
        -- what is handed over goes nowhere, or to a store
        rw [Database.complete, hs]
        dsimp only
        split
        · rfl
        · simp only [hmode, Database.handOver]
          first | rfl | (split <;> rfl)
  | closeStaging staging => simp only [answer, Database.transactions_closeStaging]
  | addRecord store r other =>
    refine Database.transactions_addRecord_of_ne store r ?_
    rintro rfl
    exact hspares hown
  | commit other =>
    refine Database.transactions_commit_of_ne ?_
    rintro rfl
    exact hspares hown
  | getRecord store id => simp only [answer, database_getRecord]
  | setDispatched store id => simp only [answer, transactions_setDispatched]
  | unlessCancelled c ih =>
    unfold answer
    split
    · rfl
    · exact ih hspares

/-- What happens from outside is growth. -/
theorem grows_disturb (w : World) (d : Disturbance) : w.Grows (w.disturb d) where
  database name := Store.grows_of_records_eq (System.sameContent_disturb w d name).records
  dispatched := by
    cases d with
    -- of all that can happen outside only a dispatch makes entries in the log
    | subscribe topic queue =>
      simp only [disturb, Transport.dispatched_subscribe, List.prefix_rfl]
    | dispatch ops => exact (grows_dispatch w ops).dispatched
    | receive queue =>
      simp only [disturb]
      split
      · next htake =>
        obtain ⟨_, _, _, _, _, _, _, rfl⟩ := Transport.take?_eq_some_iff.1 htake
        exact List.prefix_rfl
      · exact List.prefix_rfl
    | _ => exact List.prefix_rfl

end World

/-! ### What moves leave as it is -/

/-- What a participant with the transactions `own` finds when others have made their moves. -/
structure Since (own : TransactionId → Prop) (w w' : World) : Prop where
  sound : w.Sound → w'.Sound
  grows : w.Grows w'
  /-- What it has begun is as it was. -/
  transactions : ∀ tx, own tx → tx < w.database.transactions.length →
    w'.database.transactions[tx]? = w.database.transactions[tx]?

namespace Since

variable {own : TransactionId → Prop} {w w' v : World}

/-- Nothing has happened since. -/
theorem refl (w : World) : Since own w w := ⟨id, .refl w, fun _ _ _ => rfl⟩

/-- What holds since a moment holds since an earlier one. -/
theorem trans (h : Since own w v) (h' : Since own v w') : Since own w w' where
  sound hw := h'.sound (h.sound hw)
  grows := h.grows.trans h'.grows
  transactions tx hown hlt := by
    have heq := h.transactions tx hown hlt
    rw [← heq]
    -- what is there has begun
    refine h'.transactions tx hown ?_
    rw [List.getElem?_eq_getElem hlt] at heq
    exact (List.getElem?_eq_some_iff.1 heq).1

/-- A transaction of its own is as the participant has left it. -/
theorem transaction (h : Since own w w') {tx : TransactionId} {t : Transaction} (hown : own tx)
    (ht : w.database.transactions[tx]? = some t) : w'.database.transactions[tx]? = some t := by
  have hlt : tx < w.database.transactions.length := (List.getElem?_eq_some_iff.1 ht).1
  rw [h.transactions tx hown hlt, ht]

/-- Stores that keep their content and transactions that stay as they are. -/
theorem of_sameContent (hfaults : w'.faults.hiddenRecords = w.faults.hiddenRecords)
    (hmarks : w'.faults.setDispatched = w.faults.setDispatched) (hgrows : w.Grows w')
    (hstores : ∀ name, (w.database.store name).SameContent (w'.database.store name))
    (htx : ∀ tx, tx < w.database.transactions.length →
      w'.database.transactions[tx]? = w.database.transactions[tx]?) : Since own w w' where
  sound hw := {
    keyed := fun name => (Store.Effect.kept (hstores name)).keyed (hw.keyed name)
    seen := hfaults.trans hw.seen
    marks := hmarks.trans hw.marks }
  grows := hgrows
  transactions tx _ := htx tx

end Since

/-- One move of others leaves what a delivery relies on. -/
theorem since_of_move {own : TransactionId → Prop} {w w' : World} (h : Move own w w') :
    Since own w w' := by
  cases h with
  -- others call, create a session, edit, or disturb
  | call cancelled c hspares =>
    exact ⟨fun hw => hw.answer cancelled c, World.grows_answer cancelled c w,
      fun tx hown hlt => World.transactions_answer hown cancelled c hspares hlt⟩
  | create store =>
    exact .of_sameContent rfl rfl ⟨Database.grows_of_stores_eq rfl, List.prefix_rfl⟩
      (fun name => .refl _) fun tx _ => rfl
  | edit staging e =>
    have hsame := System.sameContent_stage e w.database staging
    obtain ⟨key, change, hstage, -⟩ := e.eq_stage
    refine .of_sameContent rfl rfl ⟨fun name => ?_, List.prefix_rfl⟩ hsame fun tx _ => ?_
    · exact Store.grows_of_records_eq (hsame name).records
    · rw [hstage, Database.transactions_stage]
  | disturb d hmark =>
    refine .of_sameContent ?_ ?_ (w.grows_disturb d) (System.sameContent_disturb w d) fun tx _ => ?_
    -- to take a message from a queue is no change of stores and faults
    · cases d with
      | receive queue =>
        simp only [World.disturb]
        split <;> rfl
      | _ => rfl
    · cases d with
      -- that marks are made to fail is excluded
      | failMark reason => exact absurd rfl (hmark reason)
      | receive queue =>
        simp only [World.disturb]
        split <;> rfl
      | _ => rfl
    · rw [System.disturb_transactions]

/-- Many moves of others leave it as well. -/
theorem since_of_moves {own : TransactionId → Prop} {w w' : World}
    (h : Relation.ReflTransGen (Move own) w w') : Since own w w' := by
  induction h with
  | refl => exact .refl w
  | tail _ hmove ih => exact ih.trans (since_of_move hmove)

end Outbox
