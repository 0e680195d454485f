import Mathlib.Data.List.Nodup
import Mathlib.Data.List.Perm.Basic
import Outbox.Proofs.Actions
import Outbox.Proofs.GivingUp
import Outbox.Proofs.Ownership
import Outbox.Proofs.Traffic

/-!
# Deliveries for different sessions commute

When nothing is to fail, what a delivery of a control message does is determined by the message,
the clock and the record of its session, and of all records it changes no other one. So the
deliveries of control messages with different ids can be made in any order.

* `Receiver.run_receive`          what one delivery does
* `Receiver.receiveAll_eq`        what many do, each by itself
* `Receiver.deliveries_commute`   the order of the messages does not count
-/

namespace Outbox

open Program

/-! ### What a transport takes -/

namespace Transport

/-- The copies that an accepted operation leaves in a queue. -/
def arrivals (t : Transport) (now : Nat) (name : String) (op : Shipment) : List QueuedMessage :=
  List.replicate ((t.targets op.destination).count name) (op.entryAt now)

/-- A copy for each name goes to the end of the queue of that name. -/
theorem queue_foldl_enqueue_eq (e : QueuedMessage) (name : String) (names : List String)
    (t : Transport) : (names.foldl (fun t n => t.enqueue n e) t).queue name =
      t.queue name ++ List.replicate (names.count name) e := by
  -- on the names; each one that is met gets one more copy
  induction names generalizing t with
  | nil => simp
  | cons n rest ih =>
    rw [List.foldl_cons, ih, enqueue, queue_setQueue]
    by_cases heq : n = name
    · subst heq
      simp [List.replicate_succ]
    · simp [heq]

/-- A transport with nothing armed has taken operations. -/
structure Took (t : Transport) (now : Nat) (ops : List Shipment) (t' : Transport) : Prop where
  rejection : t'.rejection = none
  subscribers : ∀ topic, t'.subscribers topic = t.subscribers topic
  dispatched : t'.dispatched = t.dispatched ++ ops
  queue : ∀ name, t'.queue name = t.queue name ++ ops.flatMap (t.arrivals now name)

/-- When nothing is handed over, nothing changes. -/
theorem Took.none {t : Transport} {now : Nat} (h : t.rejection = .none) : t.Took now [] t where
  rejection := h
  subscribers _ := rfl
  dispatched := (List.append_nil _).symm
  queue _ := (List.append_nil _).symm

/-- What arrives in a queue depends on the transport by its subscribers only. -/
theorem arrivals_congr {t t' : Transport} (h : ∀ topic, t'.subscribers topic = t.subscribers topic)
    (now : Nat) (name : String) : t'.arrivals now name = t.arrivals now name := by
  funext op
  have htargets : t'.targets op.destination = t.targets op.destination := by
    cases op.destination with
    | queue name => rfl
    | topic topic => exact h topic
  rw [arrivals, arrivals, htargets]

/-- Operations that are taken one lot after the other. -/
theorem Took.trans {t t' t'' : Transport} {now : Nat} {ops later : List Shipment}
    (h : t.Took now ops t') (h' : t'.Took now later t'') : t.Took now (ops ++ later) t'' where
  rejection := h'.rejection
  subscribers topic := (h'.subscribers topic).trans (h.subscribers topic)
  dispatched := by rw [h'.dispatched, h.dispatched, List.append_assoc]
  queue name := by
    rw [h'.queue, h.queue, arrivals_congr h.subscribers, List.append_assoc, List.flatMap_append]

/-- To accept an operation arms no rejection. -/
theorem rejection_accept (now : Nat) (t : Transport) (op : Shipment) :
    (accept now t op).rejection = t.rejection := by
  show ((t.targets op.destination).foldl _ t).rejection = _
  generalize t.targets op.destination = names
  -- every copy goes to a queue, and no queue arms anything
  induction names generalizing t with
  | nil => rfl
  | cons name rest ih => exact ih (t.enqueue name _)

/-- A transport with nothing armed takes an operation. -/
theorem took_accept {t : Transport} (h : t.rejection = none) (now : Nat) (op : Shipment) :
    t.Took now [op] (accept now t op) where
  rejection := (rejection_accept now t op).trans h
  subscribers := subscribers_accept now t op
  dispatched := dispatched_accept now t op
  queue name := by
    rw [List.flatMap_singleton]
    exact queue_foldl_enqueue_eq (op.entryAt now) name _ t

/-- It takes several, one after the other. -/
theorem took_foldl_accept {t : Transport} (h : t.rejection = none) (now : Nat)
    (ops : List Shipment) : t.Took now ops (ops.foldl (accept now) t) := by
  induction ops generalizing t with
  | nil => exact .none h
  | cons op rest ih =>
    have hfirst := took_accept h now op
    exact hfirst.trans (ih hfirst.rejection)

/-- Hands operations over, in one call; without any there is no call. -/
def hand (t : Transport) (now : Nat) (ops : List Shipment) : Transport :=
  if ops = [] then t else (t.dispatch now ops).2

/-- And it takes what is handed over in one call. -/
theorem took_hand {t : Transport} (h : t.rejection = none) (now : Nat) (ops : List Shipment) :
    t.Took now ops (t.hand now ops) := by
  unfold hand
  by_cases hops : ops = []
  · rw [if_pos hops, hops]
    exact .none h
  · have htook := took_foldl_accept h now ops
    simp only [if_neg hops, dispatch, h]
    exact ⟨htook.rejection, htook.subscribers, htook.dispatched, htook.queue⟩

end Transport

/-! ### What becomes of a record -/

namespace Store

variable {s : Store} {a b : String}

/-- Records under different ids can be marked in either order. -/
theorem setDispatched_comm (h : a ≠ b) :
    (s.setDispatched a).setDispatched b = (s.setDispatched b).setDispatched a := by
  have hrecords : ((s.records.modify a Record.markDispatched).modify b Record.markDispatched) =
      (s.records.modify b Record.markDispatched).modify a Record.markDispatched := by
    -- both orders give the same record under each id
    apply Std.ExtTreeMap.ext_getElem?
    intro id
    simp only [Std.ExtTreeMap.getElem?_modify, Std.compare_eq_iff_eq]
    by_cases ha : a = id
    · subst ha
      simp [Ne.symm h]
    · simp [ha, h]
  simp only [setDispatched, hrecords]

/-- The store with an id blocked. -/
def block (s : Store) (id : String) : Store := s.apply (.record (.tombstone id))

/-- An id can be blocked before or after the record under another one is marked. -/
theorem block_setDispatched (h : a ≠ b) :
    (s.setDispatched a).block b = (s.block b).setDispatched a := by
  have hrecords : (s.records.modify a Record.markDispatched).insert b (.tombstone b) =
      (s.records.insert b (.tombstone b)).modify a Record.markDispatched := by
    -- the id blocked is not the one that is marked
    apply Std.ExtTreeMap.ext_getElem?
    intro id
    simp only [Std.ExtTreeMap.getElem?_modify, Std.ExtTreeMap.getElem?_insert,
      Std.compare_eq_iff_eq]
    by_cases ha : a = id
    · subst ha
      simp [Ne.symm h]
    · simp [ha]
  simp only [setDispatched, block, apply, Record.id_tombstone, hrecords]

/-- Different ids can be blocked in either order. -/
theorem block_comm (h : a ≠ b) : (s.block a).block b = (s.block b).block a := by
  have hrecords : (s.records.insert a (.tombstone a)).insert b (.tombstone b) =
      (s.records.insert b (.tombstone b)).insert a (.tombstone a) := by
    -- the two empty records stand under two keys
    apply Std.ExtTreeMap.ext_getElem?
    intro id
    simp only [Std.ExtTreeMap.getElem?_insert, Std.compare_eq_iff_eq]
    by_cases ha : a = id
    · subst ha
      simp [Ne.symm h]
    · simp [ha]
  simp only [block, apply, Record.id_tombstone, hrecords]

end Store

/-- What becomes of the record of a session by a delivery. -/
inductive Fate where
  | kept
  | marked
  | blocked
deriving DecidableEq

namespace Fate

/-- What it makes of a store. -/
def impose : Fate → Store → String → Store
  | kept, s, _ => s
  | marked, s, id => s.setDispatched id
  | blocked, s, id => s.block id

/-- The transactions that it takes. -/
def transactions (store : String) : Fate → List Transaction
  | kept | marked => []
  | blocked => [{ store, committed := true }]

/-- What it makes of the stores. -/
def apply (change : Fate) (store : String) (d : Database) (id : String) : Database :=
  if change = kept then d
  else { d.setStore store (change.impose (d.store store) id) with
    transactions := d.transactions ++ change.transactions store }

/-- What becomes of one record and of another does not depend on the order. -/
theorem impose_comm {a b : String} (h : a ≠ b) (change other : Fate) (s : Store) :
    other.impose (change.impose s a) b = change.impose (other.impose s b) a := by
  cases change <;> cases other
  -- only two changes can meet, and the stores have been compared for each pair
  case marked.marked => exact Store.setDispatched_comm h
  case marked.blocked => exact Store.block_setDispatched h
  case blocked.marked => exact (Store.block_setDispatched h.symm).symm
  case blocked.blocked => exact Store.block_comm h
  all_goals rfl

/-- The transactions that are taken are alike, so their order does not show. -/
theorem transactions_comm (store : String) (change other : Fate) :
    change.transactions store ++ other.transactions store =
      other.transactions store ++ change.transactions store := by
  cases change <;> cases other <;> rfl

/-- What two deliveries make of the stores does not depend on their order. -/
theorem apply_comm {a b : String} (h : a ≠ b) (change other : Fate) (store : String)
    (d : Database) :
    other.apply store (change.apply store d a) b =
      change.apply store (other.apply store d b) a := by
  by_cases hchange : change = kept
  · simp [apply, hchange]
  by_cases hother : other = kept
  · simp [apply, hother]
  -- the store is put back twice, and the second time counts
  have hstores : ∀ s t : Store,
      (d.stores.insert store s).insert store t = d.stores.insert store t := by
    intro s t
    apply Std.ExtTreeMap.ext_getElem?
    intro name
    simp only [Std.ExtTreeMap.getElem?_insert]
    split <;> rfl
  simp [apply, hchange, hother, Database.setStore, hstores, Database.store, impose_comm h,
    transactions_comm]

/-- Records under other ids stay. -/
theorem record?_impose_of_ne (change : Fate) (s : Store) {id other : String} (h : id ≠ other) :
    (change.impose s id).record? other = s.record? other := by
  cases change with
  | kept => rfl
  | marked => simp [impose, h]
  | blocked => simp [impose, Store.block, h]

/-- No fault is armed. -/
theorem faults_impose (change : Fate) (s : Store) (id : String) :
    (change.impose s id).faults = s.faults := by
  cases change <;> rfl

/-- Records stay under their own ids. -/
theorem keyed_impose (change : Fate) {s : Store} (h : s.Keyed) (id : String) :
    (change.impose s id).Keyed := by
  cases change with
  | kept => exact h
  | marked => exact (Store.Effect.marked id rfl).keyed h
  | blocked =>
    -- the empty record has the id under which it stands
    intro other r hr
    simp only [impose, Store.block, Store.record?_apply_record] at hr
    split at hr
    · next heq =>
      obtain rfl := Option.some.inj hr
      exact heq
    · exact h other r hr

/-- What becomes of a record shows in the store of the delivery. -/
theorem store_apply (change : Fate) (store : String) (d : Database) (id : String) :
    (change.apply store d id).store store = change.impose (d.store store) id := by
  unfold apply
  by_cases hkept : change = kept
  · rw [if_pos hkept, hkept]
    rfl
  · rw [if_neg hkept]
    exact (Database.store_setStore ..).trans (if_pos rfl)

end Fate

namespace Database

variable {d : Database} {store : String}

/-- A record is added to a transaction that has just been begun, when nothing is armed. -/
theorem addRecord_begin (h : (d.store store).faults = {}) (r : Record) :
    (d.begin store).2.addRecord store r d.transactions.length =
      (.ok (), { d with
        transactions := d.transactions ++ [{ store, changes := [.record r] }] }) := by
  have hdisarm : ((d.begin store).2.store store).disarm .store = (none, d.store store) :=
    Store.disarm_of_none (s := d.store store) (by rw [h]; rfl)
  unfold addRecord
  rw [hdisarm]
  simp [begin, setTransaction]

/-- A commit goes well when nothing is armed and the changes fit. -/
theorem commit_of_applyAll {tx : TransactionId} {t : Transaction} {s : Store}
    (ht : d.transactions[tx]? = some t) (hopen : t.committed = false)
    (h : (d.store t.store).faults = {}) (happly : (d.store t.store).applyAll t.changes = .ok s) :
    d.commit tx = (.ok (), (d.setStore t.store s).setTransaction tx
      { t with changes := [], committed := true }) := by
  have hdisarm : (d.store t.store).disarm .commit = (none, d.store t.store) :=
    Store.disarm_of_none (by rw [h]; rfl)
  simp [commit, ht, hopen, hdisarm, happly]

/-- The commit of an empty record blocks the id, when it is free. -/
theorem commit_tombstone {id : String} (h : (d.store store).faults = {})
    (hfree : (d.store store).record? id = none) :
    ({ d with
        transactions := d.transactions ++ [{ store, changes := [.record (.tombstone id)] }] } :
      Database).commit d.transactions.length = (.ok (), Fate.blocked.apply store d id) := by
  have happly : (d.store store).applyAll [.record (.tombstone id)] =
      .ok ((d.store store).block id) :=
    Store.applyAll_eq_ok_iff.2 ⟨by simp, by simpa using hfree, rfl⟩
  -- the transaction is the last one, so it is found at the length of those before it
  generalize hadded : d.transactions ++ [{ store, changes := [.record (.tombstone id)] }] = added
  have ht : added[d.transactions.length]? =
      some { store, changes := [.record (.tombstone id)] } := by simp [← hadded]
  rw [commit_of_applyAll (d := { d with transactions := added }) ht rfl h happly]
  simp [← hadded, setTransaction, setStore, Fate.apply, Fate.impose, Fate.transactions]

end Database

/-! ### What one delivery does -/

/-- A world in which nothing is to fail on a store, whose records stand under their own ids. -/
structure World.Calm (w : World) (store : String) : Prop where
  faults : w.faults = {}
  rejection : w.transport.rejection = none
  disarmed : (w.database.store store).faults = {}
  keyed : (w.database.store store).Keyed

/-- What a delivery of a control message does where nothing is to fail. -/
structure Footprint where
  disposition : Disposition
  /-- What is handed to the transport, all at once. -/
  handed : List Shipment := []
  told : List Outcome := []
  change : Fate := .kept

/-- The world that a delivery leaves. -/
def World.leave (w : World) (store id : String) (f : Footprint) : World :=
  { w with
    transport := w.transport.hand w.clock.elapsed f.handed
    outcomes := w.outcomes ++ f.told
    database := f.change.apply store w.database id }

namespace World

variable {w : World} {store id : String}

/-- Where nothing is to fail, nothing is after a delivery either. -/
theorem Calm.leave (h : w.Calm store) (id : String) (f : Footprint) :
    (w.leave store id f).Calm store where
  faults := h.faults
  rejection := (Transport.took_hand h.rejection _ _).rejection
  disarmed := by
    show ((f.change.apply store w.database id).store store).faults = {}
    rw [Fate.store_apply, Fate.faults_impose, h.disarmed]
  keyed := by
    show ((f.change.apply store w.database id).store store).Keyed
    rw [Fate.store_apply]
    exact Fate.keyed_impose _ h.keyed id

/-- A delivery that does nothing leaves the world as it was. -/
@[simp] theorem leave_idle (w : World) (store id : String) (disposition : Disposition) :
    w.leave store id { disposition } = w := by
  simp [leave, Transport.hand, Fate.apply]

/-- A delivery leaves the records of other sessions alone. -/
theorem record?_leave_of_ne {other : String} (h : id ≠ other) (f : Footprint) :
    (w.leave store id f).record? store other = w.record? store other := by
  show ((f.change.apply store w.database id).store store).record? other = _
  rw [Fate.store_apply, Fate.record?_impose_of_ne _ _ h]
  rfl

/-- A dispatch is accepted when no rejection is armed. -/
theorem answer_dispatch (h : w.transport.rejection = none) {ops : List Shipment} (hops : ops ≠ []) :
    answer false (.dispatch ops) w =
      (.ok (), { w with transport := w.transport.hand w.clock.elapsed ops }) := by
  simp [answer, dispatch, Transport.hand, hops, Transport.dispatch, h]

/-- A look-up finds what is there when nothing is armed. -/
theorem answer_getRecord (h : w.faults = {}) (store id : String) :
    answer false (.getRecord store id) w = (.ok (w.record? store id), w) := by
  simp [answer, getRecord, h, record?]

/-- A record is marked when nothing is armed. -/
theorem answer_setDispatched (h : w.faults = {}) (store id : String) :
    answer false (.setDispatched store id) w =
      (.ok (), { w with database := w.database.setDispatched store id }) := by
  simp [answer, setDispatched, h]

/-- The world in which outcomes have been told. -/
def tell (w : World) (outcomes : List Outcome) : World :=
  { w with outcomes := w.outcomes ++ outcomes }

/-- An outcome is told to those who want to hear of it. -/
theorem run_report (w : World) (reports : Bool) (o : Outcome) :
    w.run false (report reports o) = ((), w.tell (if reports then [o] else [])) := by
  cases reports with
  | true => rfl
  | false =>
    simp only [tell, Bool.false_eq_true, if_false, List.append_nil]
    rfl

/-- What is told makes nothing fail. -/
theorem Calm.tell (h : w.Calm store) (outcomes : List Outcome) : (w.tell outcomes).Calm store :=
  ⟨h.faults, h.rejection, h.disarmed, h.keyed⟩

/-- What is told after a delivery is told by it. -/
theorem tell_leave (w : World) (store id : String) (f : Footprint) (outcomes : List Outcome) :
    (w.leave store id f).tell outcomes =
      w.leave store id { f with told := f.told ++ outcomes } := by
  simp [tell, leave]

/-- And so is what was told before it. -/
theorem leave_tell (w : World) (store id : String) (f : Footprint) (outcomes : List Outcome) :
    (w.tell outcomes).leave store id f =
      w.leave store id { f with told := outcomes ++ f.told } := by
  simp [tell, leave]

end World

namespace Receiver

variable {p : Receiver} {w : World} {m : Message}

/-- What is told, if there is anyone to tell. -/
def tells (p : Receiver) (outcomes : List Outcome) : List Outcome :=
  if p.reports then outcomes else []

/-- What is told at the end of a delivery. -/
def tellsEnd (p : Receiver) (m : Message) : Disposition → List Outcome
  | .retryScheduled => []
  | .completed =>
    match tracked m with
    | none => []
    | some c => p.tells [c.outcome .completed]

/-- What the work of a delivery of a control message does, by the record of its session and the
clock. -/
def toil (p : Receiver) (m : Message) (found : Option Record) (now : Time.Instant) : Footprint :=
  match found, tracked m with
  | some r, _ =>
    { disposition := .completed
      handed := r.undispatched.map (·.toShipment)
      change := if r.isDispatched then .kept else .marked }
  | none, none => { disposition := .completed }
  | none, some c =>
    if c.isExhausted then
      { disposition := .completed, told := p.tells [c.outcome .gaveUp], change := .blocked }
    else
      { disposition := .retryScheduled
        handed := [c.successor m p.address now]
        told := p.tells [c.outcome .retried] }

/-- What a delivery of a control message does. -/
def footprint (p : Receiver) (m : Message) (found : Option Record) (now : Time.Instant) :
    Footprint :=
  let f := p.toil m found now
  { f with told := f.told ++ p.tellsEnd m f.disposition }

/-- What waits in a record is handed over, and the record is marked. -/
theorem run_forwardRecord {r : Record} (hcalm : w.Calm p.store) :
    w.run false (p.forwardRecord r) =
      (.ok (), w.leave p.store r.id
        { disposition := .completed
          handed := r.undispatched.map (·.toShipment)
          change := if r.isDispatched then .kept else .marked }) := by
  unfold forwardRecord
  by_cases hdone : r.isDispatched = true
  -- nothing waits in a record that is dispatched, so nothing is done
  · have hnothing : r.undispatched = [] := r.undispatched_eq_nil_iff.2 hdone
    simp [hdone, hnothing, World.leave, Transport.hand, Fate.apply]
    rfl
  · have hsome : r.undispatched.map (·.toShipment) ≠ [] := by
      -- the record waits, so there is something to be handed over
      simpa [r.undispatched_eq_nil_iff] using hdone
    -- the handing over and the mark are two calls, in this order
    let handing : World :=
      { w with transport := w.transport.hand w.clock.elapsed (r.undispatched.map (·.toShipment)) }
    have hmark := World.answer_setDispatched (w := handing) hcalm.faults p.store r.id
    rw [if_neg hdone, if_neg hdone, ask_bind, World.run, run_call,
      World.answer_dispatch hcalm.rejection hsome]
    dsimp only
    rw [ask_bind, run_call, hmark]
    simp [handing, World.leave, Fate.apply, Fate.impose, Fate.transactions,
      Database.setDispatched, Database.setStore]

/-- An empty record is committed under an id that is free. -/
theorem run_writeTombstone {id : String} (hcalm : w.Calm p.store)
    (hfree : w.record? p.store id = none) :
    w.run false (p.writeTombstone id) =
      (.ok (), w.leave p.store id { disposition := .completed, change := .blocked }) := by
  have hadded := Database.addRecord_begin hcalm.disarmed (.tombstone id)
  have hcommit := Database.commit_tombstone hcalm.disarmed hfree
  unfold writeTombstone
  rw [ask_bind, World.run, run_call]
  show run (World.answer false) (call (.addRecord p.store (.tombstone id) _) _)
    { w with database := (w.database.begin p.store).2 } = _
  rw [run_call]
  -- the record goes into a new transaction, and that is committed
  simp only [World.answer, World.withDatabase, Database.begin] at hadded ⊢
  rw [hadded]
  show run (World.answer false) (call (.commit w.database.transactions.length) done) _ = _
  rw [run_call]
  simp only [World.answer, World.withDatabase]
  rw [hcommit]
  simp [World.leave, Transport.hand]

/-- The id is blocked when it is free. -/
theorem run_tombstone {id : String} (hcalm : w.Calm p.store)
    (hfree : w.record? p.store id = none) :
    w.run false (p.tombstone id) =
      (.ok (), w.leave p.store id { disposition := .completed, change := .blocked }) := by
  have hwrite := run_writeTombstone hcalm hfree
  unfold tombstone
  unfold World.run at hwrite ⊢
  rw [run_bind, hwrite]
  rfl

/-- A message without a record is retried as long as there is budget, and given up after that. -/
theorem run_retry (hcalm : w.Calm p.store) (hcontrol : m.isControl = true)
    (hfree : w.record? p.store m.id = none) :
    w.run false (p.retry m (tracked m)) =
      (.ok (p.toil m none w.clock.now).disposition,
        w.leave p.store m.id (p.toil m none w.clock.now)) := by
  unfold retry
  rw [ask_bind, World.run, run_call]
  -- the clock is read before the verdict
  show run (World.answer false) (judge p.address p.reports m (tracked m) w.clock.now >>= _) w = _
  -- three ways: there is no budget to speak of, it is used up, or something is left of it
  cases htracked : tracked m with
  | none =>
    have hpass : p.passOn m = done (.ok .completed) := by
      rw [passOn, hcontrol]
      rfl
    simp only [toil, htracked, World.leave_idle]
    show run (World.answer false) (p.passOn m) w = _
    rw [hpass]
    rfl
  | some c =>
    by_cases hexhausted : c.isExhausted = true
    · -- the outcome is told before the id is blocked
      have hreport := w.run_report p.reports (c.outcome .gaveUp)
      have hblock : (w.tell (p.tells [c.outcome .gaveUp])).run false (p.tombstone m.id) = _ :=
        run_tombstone (hcalm.tell _) hfree
      unfold World.run at hreport hblock
      rw [judge_of_exhausted hexhausted, run_bind, run_bind, hreport]
      simp only [toil, htracked, hexhausted, if_true]
      show run (World.answer false) (if m.isControl = true then _ else _)
        (w.tell (p.tells [c.outcome .gaveUp])) = _
      rw [if_pos hcontrol, run_bind, hblock, World.leave_tell, List.append_nil]
      rfl
    · have hdispatch := World.answer_dispatch hcalm.rejection
        (List.cons_ne_nil (c.successor m p.address w.clock.now) [])
      have hreport := fun w : World => w.run_report p.reports (c.outcome .retried)
      unfold World.run at hreport
      rw [judge_of_left (Bool.eq_false_iff.2 hexhausted), call_bind, run_call, hdispatch]
      dsimp only
      rw [bind_assoc, run_bind, hreport]
      simp only [toil, htracked, hexhausted, if_false, Bool.false_eq_true]
      rfl

/-- The work of a delivery goes by the record of the session. -/
theorem run_work (hcalm : w.Calm p.store) (hcontrol : m.isControl = true) :
    w.run false (p.work m (tracked m)) =
      (.ok (p.toil m (w.record? p.store m.id) w.clock.now).disposition,
        w.leave p.store m.id (p.toil m (w.record? p.store m.id) w.clock.now)) := by
  unfold work
  rw [if_pos hcontrol, ask_bind, World.run, run_call, World.answer_getRecord hcalm.faults]
  cases hfound : w.record? p.store m.id with
  | none => exact run_retry hcalm hcontrol hfound
  | some r =>
    have hid : r.id = m.id := hcalm.keyed _ _ hfound
    have hforward := run_forwardRecord (r := r) hcalm
    -- with a record there is no verdict: the delivery does what forwarding does
    unfold World.run at hforward
    dsimp only
    rw [run_bind, hforward, hid]
    rfl

/-- A delivery of a control message does what its footprint says. -/
theorem run_receive (hcalm : w.Calm p.store) (hcontrol : m.isControl = true) :
    w.run false (p.receive m) =
      (.ok (p.footprint m (w.record? p.store m.id) w.clock.now).disposition,
        w.leave p.store m.id (p.footprint m (w.record? p.store m.id) w.clock.now)) := by
  have hwork := run_work hcalm hcontrol
  unfold receive withOutcome
  unfold World.run at hwork ⊢
  rw [run_bind, hwork]
  unfold footprint tellsEnd
  -- the work has its footprint, and what is told at the end comes on top
  generalize p.toil m (w.record? p.store m.id) w.clock.now = f
  obtain ⟨disposition, handed, told, change⟩ := f
  cases disposition with
  | retryScheduled => simp
  -- a retry tells nothing more; a completion is told when the message bears a countdown
  | completed =>
    cases tracked m with
    | none => simp
    | some c =>
      have hreport := (w.leave p.store m.id ⟨.completed, handed, told, change⟩).run_report
        p.reports (c.outcome .completed)
      unfold World.run at hreport
      rw [World.tell_leave] at hreport
      dsimp only
      rw [run_bind, hreport]
      rfl

/-- Whatever is told is about the session of the message. -/
theorem sessionId_of_told {found : Option Record} {now : Time.Instant} {o : Outcome}
    (h : o ∈ (p.footprint m found now).told) : o.sessionId = m.id := by
  have htells : ∀ {c : Countdown} {kind : OutcomeKind}, tracked m = some c →
      o ∈ p.tells [c.outcome kind] → o.sessionId = m.id := by
    -- what is told carries the id of a countdown that was read from the message
    intro c kind hc ho
    unfold tells at ho
    split at ho
    · obtain rfl := List.mem_singleton.1 ho
      exact sessionId_of_tracked hc
    · exact absurd ho List.not_mem_nil
  obtain htoil | hend := List.mem_append.1 h
  · unfold toil at htoil
    split at htoil
    · exact absurd htoil List.not_mem_nil
    · exact absurd htoil List.not_mem_nil
    · next c hc =>
      split at htoil
      · exact htells hc htoil
      · exact htells hc htoil
  · unfold tellsEnd at hend
    split at hend
    · exact absurd hend List.not_mem_nil
    · split at hend
      · exact absurd hend List.not_mem_nil
      · next c hc => exact htells hc hend

end Receiver

/-! ### Many deliveries -/

namespace World

variable {w : World} {store : String} {f : Message → Footprint}

/-- The world that deliveries leave, each of which does what is said of its message. -/
def leaveAll (w : World) (store : String) (f : Message → Footprint) (ms : List Message) : World :=
  ms.foldl (fun w m => w.leave store m.id (f m)) w

/-- What the deliveries make of the stores is made one after the other. -/
theorem database_leaveAll (ms : List Message) (w : World) :
    (w.leaveAll store f ms).database =
      ms.foldl (fun d m => (f m).change.apply store d m.id) w.database := by
  induction ms generalizing w with
  | nil => rfl
  | cons m rest ih => exact ih (w.leave store m.id (f m))

/-- What they tell is told one after the other. -/
theorem outcomes_leaveAll (ms : List Message) (w : World) :
    (w.leaveAll store f ms).outcomes = w.outcomes ++ ms.flatMap fun m => (f m).told := by
  induction ms generalizing w with
  | nil => simp [leaveAll]
  | cons m rest ih =>
    rw [List.flatMap_cons, ← List.append_assoc]
    exact ih (w.leave store m.id (f m))

/-- What they hand over is handed over one after the other. -/
theorem took_leaveAll (ms : List Message) {w : World} (h : w.transport.rejection = none) :
    w.transport.Took w.clock.elapsed (ms.flatMap fun m => (f m).handed)
      (w.leaveAll store f ms).transport := by
  induction ms generalizing w with
  | nil => exact .none h
  | cons m rest ih =>
    have hfirst := Transport.took_hand h w.clock.elapsed (f m).handed
    rw [List.flatMap_cons]
    exact hfirst.trans (ih (w := w.leave store m.id (f m)) hfirst.rejection)

/-- What is told of one session, when a delivery tells nothing of another session than its own. -/
theorem outcomes_leaveAll_filter (htold : ∀ m, ∀ o ∈ (f m).told, o.sessionId = m.id)
    (ms : List Message) (w : World) (id : String) :
    (w.leaveAll store f ms).outcomes.filter (·.sessionId == id) =
      w.outcomes.filter (·.sessionId == id) ++
        (ms.filter (·.id == id)).flatMap fun m => (f m).told := by
  have hmessage : ∀ m, (f m).told.filter (·.sessionId == id) =
      if m.id == id then (f m).told else [] := by
    intro m
    by_cases hid : (m.id == id) = true
    · rw [if_pos hid, List.filter_eq_self]
      intro o ho
      rw [htold m o ho]
      exact hid
    · rw [if_neg hid, List.filter_eq_nil_iff]
      intro o ho
      rw [htold m o ho]
      exact hid
  rw [outcomes_leaveAll, List.filter_append]
  congr 1
  -- with each message the filter takes all that is told of it, or nothing
  induction ms with
  | nil => rfl
  | cons m rest ih =>
    rw [List.flatMap_cons, List.filter_append, ih, hmessage, List.filter_cons]
    split <;> simp

end World

namespace Receiver

variable {p : Receiver} {w : World} {ms ms' : List Message}

/-- Receives messages one after the other, and says what has become of each. -/
def receiveAll (p : Receiver) (w : World) :
    List Message → List (Message × Except DeliveryError Disposition) × World
  | [] => ([], w)
  | m :: rest =>
    let (result, w₁) := w.run false (p.receive m)
    let (results, w₂) := p.receiveAll w₁ rest
    ((m, result) :: results, w₂)

/-- What the delivery of a message does to a world. -/
def does (p : Receiver) (w : World) (m : Message) : Footprint :=
  p.footprint m (w.record? p.store m.id) w.clock.now

/-- Deliveries for different sessions do what each would do as the first one. -/
theorem receiveAll_eq (hcalm : w.Calm p.store) (hcontrol : ∀ m ∈ ms, m.isControl = true)
    (hids : (ms.map (·.id)).Nodup) :
    p.receiveAll w ms = (ms.map fun m => (m, .ok (p.does w m).disposition),
      w.leaveAll p.store (p.does w) ms) := by
  induction ms generalizing w with
  | nil => rfl
  -- the first delivery is made, and the others meet the world that it has left
  | cons m rest ih =>
    obtain ⟨hm, hrest⟩ := List.forall_mem_cons.1 hcontrol
    obtain ⟨hnot, hnodup⟩ := List.nodup_cons.1 hids
    let w₁ := w.leave p.store m.id (p.does w m)
    -- the first delivery leaves the records of the others, so theirs do what they would have done
    have hsame : ∀ m' ∈ rest, p.does w₁ m' = p.does w m' := by
      intro m' hm'
      have hne : m.id ≠ m'.id := fun heq =>
        hnot (List.mem_map.2 ⟨m', hm', heq.symm⟩)
      show p.footprint m' (w₁.record? p.store m'.id) w.clock.now = _
      rw [World.record?_leave_of_ne hne]
      rfl
    have hresults : (rest.map fun m' => (m', Except.ok (p.does w₁ m').disposition)) =
        rest.map fun m' =>
          (m', (.ok (p.does w m').disposition : Except DeliveryError Disposition)) :=
      List.map_congr_left fun m' hm' => by rw [hsame m' hm']
    have hworld : w₁.leaveAll p.store (p.does w₁) rest = w₁.leaveAll p.store (p.does w) rest :=
      List.foldl_ext _ _ _ fun w' m' hm' => by rw [hsame m' hm']
    unfold receiveAll
    rw [run_receive hcalm hm]
    show ((m, _) :: (p.receiveAll w₁ rest).1, (p.receiveAll w₁ rest).2) = _
    rw [ih (hcalm.leave m.id (p.does w m)) hrest hnodup, hresults, hworld]
    rfl

/-- Of messages with different ids there is at most one for a session, wherever it stands. -/
theorem filter_id_eq (hids : (ms.map (·.id)).Nodup) (hperm : ms.Perm ms') (id : String) :
    ms.filter (·.id == id) = ms'.filter (·.id == id) := by
  have hfew : (ms.filter (·.id == id)).length ≤ 1 := by
    have hcount := List.nodup_iff_count_le_one.1 hids id
    rwa [List.count, List.countP_map, List.countP_eq_length_filter] at hcount
  -- two lists of at most one element each are equal when one is a permutation of the other
  -- the two filtered lists are permutations of each other
  have hsame := hperm.filter (·.id == id)
  generalize ms'.filter (·.id == id) = found at hsame
  cases hfound : ms.filter (·.id == id) with
  | nil =>
    rw [hfound] at hsame
    exact hsame.nil_eq
  | cons m rest =>
    have hnil : rest = [] := by
      rw [hfound, List.length_cons] at hfew
      exact List.eq_nil_of_length_eq_zero (by omega)
    rw [hfound, hnil] at hsame
    rw [hnil, List.singleton_perm.1 hsame]

/-- Deliveries of control messages with different ids commute: in whatever order the messages are
received, the same becomes of each, the stores end up the same, as much is dispatched and waits in
each queue, and the same is told of each session. -/
theorem deliveries_commute (hcalm : w.Calm p.store) (hcontrol : ∀ m ∈ ms, m.isControl = true)
    (hids : (ms.map (·.id)).Nodup) (hperm : ms.Perm ms') :
    (p.receiveAll w ms).1.Perm (p.receiveAll w ms').1 ∧
    (∀ delivery ∈ (p.receiveAll w ms).1, ∃ disposition, delivery.2 = .ok disposition) ∧
    (p.receiveAll w ms).2.database = (p.receiveAll w ms').2.database ∧
    (p.receiveAll w ms).2.transport.dispatched.Perm (p.receiveAll w ms').2.transport.dispatched ∧
    (∀ name, ((p.receiveAll w ms).2.transport.queue name).Perm
      ((p.receiveAll w ms').2.transport.queue name)) ∧
    ∀ id, (p.receiveAll w ms).2.outcomes.filter (·.sessionId == id) =
      (p.receiveAll w ms').2.outcomes.filter (·.sessionId == id) := by
  have hcontrol' : ∀ m ∈ ms', m.isControl = true := fun m hm =>
    hcontrol m (hperm.mem_iff.2 hm)
  have hids' : (ms'.map (·.id)).Nodup := (hperm.map _).nodup_iff.1 hids
  rw [receiveAll_eq hcalm hcontrol hids, receiveAll_eq hcalm hcontrol' hids']
  -- the order matters neither for the footprints nor for what the transport takes
  have htook : w.transport.Took w.clock.elapsed (ms.flatMap fun m => (p.does w m).handed)
      (w.leaveAll p.store (p.does w) ms).transport := World.took_leaveAll ms hcalm.rejection
  have htook' : w.transport.Took w.clock.elapsed (ms'.flatMap fun m => (p.does w m).handed)
      (w.leaveAll p.store (p.does w) ms').transport := World.took_leaveAll ms' hcalm.rejection
  have hhanded := hperm.flatMap_right fun m => (p.does w m).handed
  refine ⟨hperm.map _, ?_, ?_, ?_, ?_, ?_⟩
  · intro delivery hdelivery
    obtain ⟨m, -, rfl⟩ := List.mem_map.1 hdelivery
    exact ⟨_, rfl⟩
  · dsimp only
    -- stores: the changes of different sessions can be made in either order
    rw [World.database_leaveAll, World.database_leaveAll]
    apply hperm.foldl_eq'
    intro m hm m' hm' d
    by_cases heq : m.id = m'.id
    · rw [List.inj_on_of_nodup_map hids hm hm' heq]
    · exact Fate.apply_comm heq _ _ _ _
  -- transport: what is handed over was determined before the first delivery
  · rw [htook.dispatched, htook'.dispatched]
    exact hhanded.append_left _
  · intro name
    rw [htook.queue, htook'.queue]
    exact (hhanded.flatMap_right _).append_left _
  -- outcomes: of each session only one message can have told anything
  · intro id
    have htold : ∀ m, ∀ o ∈ (p.does w m).told, o.sessionId = m.id := fun _ _ => sessionId_of_told
    dsimp only
    rw [World.outcomes_leaveAll_filter htold, World.outcomes_leaveAll_filter htold,
      filter_id_eq hids hperm id]

/-- A world with the record of one session, whose greeting has not been dispatched. -/
def greeted : World where
  clock := { start := .ofNanos 1714564800000000000 }
  database := ({} : Database).setStore "db" (({} : Store).apply
    (.record (.new "greeting" [{ message := { id := "m" }, destination := .queue "inbox" }])))

/-- A processor on its store. -/
def greeter : Receiver := { store := "db", address := "processor" }

/-- The control messages of that session and of two others. One of them may still commit, and the
other has used its budget up. -/
def announced : List Message :=
  let countdown (id : String) (remaining : Time.Span) : Countdown :=
    { sessionId := id, attempt := 1, remaining, increment := { nanos := 5000000000 },
      timeSent := none }
  [controlMessage (countdown "greeting" { nanos := 40000000000 }) ∅,
    controlMessage (countdown "pending" { nanos := 40000000000 }) ∅,
    controlMessage (countdown "overdue" .zero) ∅]

/-- Three deliveries and their reverse lead to the same stores: one record is dispatched, one
session may still commit, and one is given up. -/
theorem deliveries_commute_threeSessions :
    greeted.Calm "db" ∧ (∀ m ∈ announced, m.isControl = true) ∧ (announced.map (·.id)).Nodup ∧
    announced.Perm announced.reverse ∧
    ((greeter.receiveAll greeted announced).1.map fun delivery => (delivery.1.id, delivery.2)) =
      [("greeting", .ok .completed), ("pending", .ok .retryScheduled),
        ("overdue", .ok .completed)] ∧
    (greeter.receiveAll greeted announced).1.Perm
      (greeter.receiveAll greeted announced.reverse).1 ∧
    (greeter.receiveAll greeted announced).2.database =
      (greeter.receiveAll greeted announced.reverse).2.database := by
  have hkeyed : (greeted.database.store "db").Keyed := by
    have hstore : greeted.database.store "db" = ({} : Store).apply
        (.record (.new "greeting" [{ message := { id := "m" }, destination := .queue "inbox" }])) :=
      (Database.store_setStore ..).trans (if_pos rfl)
    rw [hstore]
    intro id r hr
    rw [Store.record?_apply_record] at hr
    split at hr
    · next hid =>
      obtain rfl := Option.some.inj hr
      exact hid
    · rw [Store.record?_empty] at hr
      exact nomatch hr
  have hcalm : greeted.Calm "db" :=
    ⟨by decide +kernel, by decide +kernel, by decide +kernel, hkeyed⟩
  have hcontrol : ∀ m ∈ announced, m.isControl = true := by decide +kernel
  have hids : (announced.map (·.id)).Nodup := by decide +kernel
  have hperm : announced.Perm announced.reverse := (List.reverse_perm _).symm
  obtain ⟨hresults, -, hdatabase, -⟩ :=
    deliveries_commute (p := greeter) hcalm hcontrol hids hperm
  exact ⟨hcalm, hcontrol, hids, hperm, by decide +kernel, hresults, hdatabase⟩

end Receiver

end Outbox
