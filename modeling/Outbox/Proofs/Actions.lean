import Outbox.Proofs.Contract.Effects
import Outbox.Proofs.InMemory

/-!
# Runs of actions on the stores

Whoever works on a database does so by one action after the other: it begins transactions, adds
records to them, commits or drops them, stages documents and hands them over, marks records and
looks them up. A test may arm a failure in between. The actions of any number of transactions and
stagings stand in one list, in the order in which they take place, and a run is a list of moments:
what the database is, and which action comes next.

* `effect_perform`  the three things that an action can make of a store
* `invariant_run`   what every action keeps, told of the moments so far, a run keeps
* `grows_after`     no action takes a record back
* `keyed_after`     every record stands under its own id
-/

namespace Outbox

/-- What can be done to the stores of a database. -/
inductive Action where
  | begin (store : String)
  | addRecord (store : String) (record : Record) (tx : TransactionId)
  | commit (tx : TransactionId)
  /-- The transaction is given up: nobody names it any more. -/
  | drop (tx : TransactionId)
  | newStaging (store : String)
  | attach (staging : StagingId) (tx : TransactionId) (hints : Hints)
  | openStaging (staging : StagingId) (hints : Hints)
  | put (staging : StagingId) (key : String) (value : Body)
  | delete (staging : StagingId) (key : String)
  | complete (staging : StagingId)
  | closeStaging (staging : StagingId)
  | setDispatched (store id : String)
  | getRecord (store id : String)
  /-- The next call of a kind is to fail. -/
  | arm (store : String) (call : StoreCall) (reason : String)
deriving DecidableEq

namespace Database

/-- What comes of an action: the reply, which holds a record only after a look-up, and the
database afterwards. -/
def perform (d : Database) : Action → Except StoreError (Option Record) × Database
  | .begin store => (.ok none, (d.begin store).2)
  | .addRecord store r tx => silent (d.addRecord store r tx)
  | .commit tx => silent (d.commit tx)
  | .drop _ => (.ok none, d)
  | .newStaging store => (.ok none, (d.newStaging store).2)
  | .attach staging tx hints => (.ok none, (d.attach staging tx hints).2)
  | .openStaging staging hints => (.ok none, d.openStaging staging hints)
  | .put staging key value => silent (d.put staging key value)
  | .delete staging key => silent (d.delete staging key)
  | .complete staging => silent (d.complete staging)
  | .closeStaging staging => (.ok none, d.closeStaging staging)
  | .setDispatched store id => (.ok none, d.setDispatched store id)
  | .getRecord store id => (.ok ((d.store store).record? id), d)
  | .arm store call reason => (.ok none, d.setStore store ((d.store store).arm call reason))
where
  /-- The reply of a call that finds nothing out. -/
  silent (r : Except StoreError Unit × Database) : Except StoreError (Option Record) × Database :=
    (r.1.map fun _ => none, r.2)

/-- The database after a list of actions. -/
def after (d : Database) : List Action → Database
  | [] => d
  | a :: rest => (d.perform a).2.after rest

end Database

/-- A moment of a run: the database, and the action that comes next. -/
structure Moment where
  database : Database
  action : Action
deriving DecidableEq

namespace Moment

/-- What the action of the moment is answered. -/
def reply (m : Moment) : Except StoreError (Option Record) := (m.database.perform m.action).1

/-- The database when the action has been taken. -/
def next (m : Moment) : Database := (m.database.perform m.action).2

end Moment

namespace Database

/-- The moments of a list of actions. -/
def moments (d : Database) : List Action → List Moment
  | [] => []
  | a :: rest => ⟨d, a⟩ :: (d.perform a).2.moments rest

end Database

/-! ### What an action makes of a store -/

/-- What one action makes of a store: its content is kept, the record under an id is marked, or a
list of changes is made. -/
inductive Store.Effect (s s' : Store) : Prop
  | kept : s.SameContent s' → Effect s s'
  | marked (id : String) : s' = s.setDispatched id → Effect s s'
  | made (changes : List Change) : s.applyAll changes = .ok s' → Effect s s'

namespace Database

variable {d : Database}

/-- A store that is left as it was is an effect too. -/
theorem effect_of_eq {s s' : Store} (h : s' = s) : s.Effect s' := .kept (h ▸ .refl s)

/-- An action that replaces one store makes of every store what it makes of that one, or nothing. -/
theorem effect_setStore {d' : Database} {changed : String} {s : Store}
    (hd : d'.stores = (d.setStore changed s).stores) (h : (d.store changed).Effect s)
    (name : String) : (d.store name).Effect (d'.store name) := by
  -- only the stores count: the action may have changed transactions and stagings as well
  rw [show d'.store name = (d.setStore changed s).store name by rw [store, store, hd],
    store_setStore]
  split
  · next heq => exact heq ▸ h
  · exact effect_of_eq rfl

/-- A commit applies the changes of its transaction to one store, or it leaves all content alone. -/
theorem effect_commit (d : Database) (tx : TransactionId) (name : String) :
    (d.store name).Effect ((d.commit tx).2.store name) := by
  -- a commit that is not applied leaves what the stores hold
  cases d.commits tx with
  | unknown _ heq => exact effect_of_eq (by rw [heq])
  | again t _ _ heq => exact effect_of_eq (by rw [heq])
  | failed t reason _ _ heq =>
    rw [heq]
    exact .kept (sameContent_disarm d t.store .commit name)
  -- a conflict empties the transaction, which no store shows
  | refused t e _ _ _ heq =>
    rw [heq]
    exact effect_of_eq rfl
  | applied t s _ _ happly heq =>
    rw [heq]
    exact effect_setStore rfl (.made t.changes happly) name

/-- Only a staging that stands alone reaches its store when it hands its changes over. -/
theorem effect_handOver (d : Database) (mode : Staging.Mode) (home : String)
    (staged : List Change) (name : String) :
    (d.store name).Effect ((d.handOver mode home staged).2.store name) := by
  unfold handOver
  -- closed, attached to a transaction, or standing alone
  split
  · exact effect_of_eq rfl
  -- the changes are added to a transaction, or nobody knows it any more
  · split <;> exact effect_of_eq rfl
  · split
    · next s h => exact effect_setStore rfl (.made staged h) name
    -- the store refuses the changes and stays
    · exact effect_of_eq rfl

/-- To complete a staging is to hand its changes over, unless the store has been told to fail. -/
theorem effect_complete (d : Database) (id : StagingId) (name : String) :
    (d.store name).Effect ((d.complete id).2.store name) := by
  unfold complete
  split
  · exact effect_of_eq rfl
  · next s _ =>
    split
    -- the failure is disarmed, which is no part of the content
    · next store h =>
      obtain rfl : _ = store := congrArg Prod.snd h
      exact .kept (sameContent_disarm d s.store .complete name)
    · exact effect_handOver (d.setStaging id { s with staged := [] }) s.mode s.store s.staged name

/-- What is staged waits outside of the stores. -/
theorem store_stage (d : Database) (id : StagingId) (key : String) (change : String → Change)
    (name : String) : (d.stage id key change).2.store name = d.store name := by
  unfold stage
  split
  · rfl
  · split <;> rfl

/-- A staging is opened outside of the stores. -/
theorem store_openStaging (d : Database) (id : StagingId) (hints : Hints) (name : String) :
    (d.openStaging id hints).store name = d.store name := by
  unfold openStaging
  split <;> rfl

/-- What any action makes of any store. -/
theorem effect_perform (d : Database) (a : Action) (name : String) :
    (d.store name).Effect ((d.perform a).2.store name) := by
  -- only a commit, a completion and a mark reach the content of a store
  cases a with
  | begin store => exact effect_of_eq rfl
  | addRecord store r tx => exact .kept (sameContent_addRecord d store r tx name)
  | commit tx => exact effect_commit d tx name
  | drop tx => exact effect_of_eq rfl
  | newStaging store => exact effect_of_eq rfl
  | attach staging tx hints => exact effect_of_eq (store_attach d staging tx hints name)
  | openStaging staging hints => exact effect_of_eq (store_openStaging d staging hints name)
  | put staging key value => exact effect_of_eq (store_stage d staging key _ name)
  | delete staging key => exact effect_of_eq (store_stage d staging key _ name)
  | complete staging => exact effect_complete d staging name
  | closeStaging staging => exact effect_of_eq (store_closeStaging d staging name)
  | setDispatched store id => exact effect_setStore rfl (.marked id rfl) name
  | getRecord store id => exact effect_of_eq rfl
  | arm store call reason =>
    have harm : (d.store store).Effect ((d.store store).arm call reason) := .kept ⟨rfl, rfl⟩
    exact effect_setStore rfl harm name

end Database

/-! ### What a run keeps -/

/-- What every action keeps of the moments so far and the database, a run keeps. -/
theorem Database.invariant_run {P : List Moment → Database → Prop}
    (hstep : ∀ past (m : Moment), P past m.database → P (past ++ [m]) m.next)
    {past : List Moment} {d : Database} (h : P past d) (actions : List Action) :
    P (past ++ d.moments actions) (d.after actions) := by
  -- the moments so far grow with the run, so the induction is on what is still to be done
  induction actions generalizing past d with
  | nil => exact (List.append_nil past).symm ▸ h
  | cons a rest ih =>
    have hnext : P (past ++ [⟨d, a⟩]) (d.perform a).2 := hstep past ⟨d, a⟩ h
    simpa [moments, after] using ih hnext

/-- Every record stands under its own id. -/
def Store.Keyed (s : Store) : Prop := ∀ id r, s.record? id = some r → r.id = id

namespace Store

variable {s s' : Store}

/-- No effect takes a record back. -/
theorem Effect.grows (h : s.Effect s') : s.Grows s' := by
  cases h with
  | kept hsame => exact grows_of_records_eq hsame.records
  | marked id heq => exact heq ▸ grows_setDispatched s id
  | made changes happly => exact grows_applyAll happly

/-- A store without records has none under a wrong id. -/
theorem keyed_empty : ({} : Store).Keyed := by
  intro id r hr
  simp at hr

/-- Every effect leaves records under their own ids. -/
theorem Effect.keyed (h : s.Effect s') (hs : s.Keyed) : s'.Keyed := by
  intro id r hr
  -- kept, or marked, or made of changes
  cases h with
  | kept hsame => exact hs id r (hsame.record? id ▸ hr)
  | marked other heq =>
    rw [heq, record?_setDispatched] at hr
    split at hr
    · next hid =>
      -- the mark leaves the id of the record
      obtain ⟨r₀, hr₀, rfl⟩ := Option.map_eq_some_iff.1 hr
      exact (hs other r₀ hr₀).trans hid
    · exact hs id r hr
  | made changes happly =>
    obtain ⟨-, -, rfl⟩ := applyAll_eq_ok_iff.1 happly
    -- the record was there before, or it is one of the changes, and these are put under their ids
    rcases mem_of_record?_foldl_apply hr with hold | ⟨-, hid⟩
    · exact hs id r hold
    · exact hid

end Store

namespace Database

/-- Whatever is done to the stores, every record that was there still is. -/
theorem grows_after (d : Database) (actions : List Action) : d.Grows (d.after actions) := by
  induction actions generalizing d with
  -- action by action, each of them growth
  | nil => exact .refl d
  | cons a rest ih =>
    have hstep : d.Grows (d.perform a).2 := fun name => (effect_perform d a name).grows
    exact hstep.trans (ih _)

/-- Records stand under their own ids after any actions, if they did before. -/
theorem keyed_after {d : Database} (h : ∀ name, (d.store name).Keyed) (actions : List Action)
    (name : String) : ((d.after actions).store name).Keyed := by
  -- action by action, as each effect leaves the ids alone
  induction actions generalizing d with
  | nil => exact h name
  | cons a rest ih => exact ih fun other => (effect_perform d a other).keyed (h other)

/-- Before anything is done every store is empty. -/
theorem store_empty (name : String) : ({} : Database).store name = {} := by
  simp [store]

end Database

end Outbox
