import Outbox.Proofs.Discipline
import Outbox.Proofs.Interleaving
import Outbox.Proofs.Ownership

/-!
# The contract of sessions and deliveries

All participants share one store and one transport. A participant owns the staging that it was made
with and the transactions that it begins, and no other participant touches them. It commits a
transaction only with the changes that its role allows, marks a record only when everything in it
has been accepted by the transport, and hands over only what its role allows.

A delivery can also have a duty: to see that the batch of a session is not forgotten. It is free of
the duty when it has passed it on, with a sound control message to a processor address.

* `contract`             the discipline that says all this
* `frame_transactions`,
  `frame_stagings`       lawful calls leave what others own alone
-/

namespace Outbox

/-- The terms on which participants share a store. -/
structure Terms where
  store : String
  /-- The queues that processors consume. -/
  address : String → Prop
  /-- The openings of sessions. -/
  opening : Opening → Prop
  /-- The readings of the clock. -/
  time : Time.Instant → Prop
  /-- The copies of failed messages are always accepted. -/
  reliable : Prop
  /-- The control messages that a delivery without a record answers with a sound successor. -/
  sound : Message → Prop
  isControl_of_sound : ∀ {m}, sound m → m.isControl = true
  tracked_of_sound : ∀ {m}, sound m → (tracked m).isSome = true
  sound_successor : ∀ {m c now} (queue : String), sound m → tracked m = some c →
    c.isExhausted = false → time now → sound (c.successor m queue now).message
  reliable_of_sound : ∀ {m}, sound m → reliable

/-- What a participant holds and still owes. -/
structure Standing where
  staging : Option StagingId := none
  transaction : Option TransactionId := none
  /-- Whether a transaction of it has been committed. -/
  committed : Bool := false
  /-- The session whose batch it must not let be forgotten. -/
  duty : Option String := none

/-- What a participant does: it carries out a request on a session, on which changes have been
staged, or it delivers a message. -/
inductive Role where
  | session (staged : List Change) (session : Session.Outboxed)
  | delivery (consumer : Consumer) (message : Message)

/-- The record under an id has been dispatched, or is empty. -/
def Settled (store id : String) (w : World) : Prop :=
  ∃ r, w.record? store id = some r ∧ r.isDispatched = true

/-- A record that is settled stays so while the world grows. -/
theorem Settled.grow {store id : String} {w w' : World} (h : Settled store id w)
    (hw : w.Grows w') : Settled store id w' := by
  obtain ⟨r, hr, hd⟩ := h
  obtain ⟨r', hr', hb⟩ := hw.record? hr
  exact ⟨r', hr', hb.isDispatched hd⟩

/-- Everything in a record that is marked has been accepted by the transport. -/
def Record.Accepted (r : Record) (w : World) : Prop :=
  ∀ op ∈ r.operations, op.dispatched = true → op.operation.toShipment ∈ w.transport.dispatched

/-- What has been accepted stays accepted while the world grows. -/
theorem Record.Accepted.grow {r : Record} {w w' : World} (h : r.Accepted w) (hw : w.Grows w') :
    r.Accepted w' :=
  fun op hop hd => hw.mem_dispatched (h op hop hd)

/-- What participants keep true of the world. -/
structure Shared (T : Terms) (w : World) : Prop where
  visible : w.faults.hiddenRecords = 0
  time : T.time w.clock.now
  id_eq : ∀ id r, w.record? T.store id = some r → r.id = id
  accepted : ∀ id r, w.record? T.store id = some r → r.Accepted w

/-- What a participant relies on while others are at work. -/
structure Relies (T : Terms) (g : Standing) (w w' : World) : Prop where
  grows : w.Grows w'
  shared : Shared T w'
  staging : ∀ id, g.staging = some id → w'.database.stagings[id]? = w.database.stagings[id]?
  transaction : ∀ tx, g.transaction = some tx →
    w'.database.transactions[tx]? = w.database.transactions[tx]?

/-- What an opening has left in a session is in order: the opening was allowed, and the countdown
is that of its durations. -/
structure Session.Opened.InOrder (T : Terms) (o : Session.Opened) : Prop where
  opening : T.opening o.opening
  valid : o.opening.validate = .ok ()
  countdown : Countdown.initial o.sessionId o.opening.commitBudget o.opening.firstDelay none =
    .ok o.countdown

/-- Reliance goes on from one world to the next. -/
theorem Relies.trans {T : Terms} {g : Standing} {u v w : World} (h : Relies T g u v)
    (h' : Relies T g v w) : Relies T g u w where
  grows := h.grows.trans h'.grows
  shared := h'.shared
  staging id hid := (h'.staging id hid).trans (h.staging id hid)
  transaction tx htx := (h'.transaction tx htx).trans (h.transaction tx htx)

namespace Role

/-- The changes that a commit makes. -/
def contribution : Role → List Change
  | session staged s => staged ++ [.record (.new (s.sessionId?.getD "") s.batch)]
  | delivery _ m => [.record (.tombstone m.id)]

/-- A session commits only after its control message has been accepted. -/
def Announced (T : Terms) : Role → World → Prop
  | session _ s, w => ∃ o now, s.opened = some o ∧ o.InOrder T ∧ T.time now ∧
      T.address s.processorAddress ∧ s.announcement o now ∈ w.transport.dispatched
  | delivery _ _, _ => True

/-- What is staged on a session changes documents only. -/
def Plain : Role → Prop
  | session staged _ => recordIds staged = []
  | delivery _ _ => True

/-- A worker puts the copy of a message whose delivery has failed in its error queue. -/
def Forwards : Role → List Shipment → Prop
  | delivery (.worker worker) m, ops => ∃ e, ops = [worker.forwarded m e]
  | delivery (.receiver _) _, _ => False
  | session _ _, _ => False

/-- What may be handed to the transport: a session announces itself; a delivery sends a successor
of its message, forwards it to the error queue, or dispatches what waits in the record of its
session. -/
def MayHandOver (T : Terms) : Role → List Shipment → World → Prop
  | session _ s, ops, _ => ∃ o now, s.opened = some o ∧ T.time now ∧ ops = [s.announcement o now]
  | delivery consumer m, ops, w =>
    (∃ c now, tracked m = some c ∧ c.isExhausted = false ∧ T.time now ∧
      ops = [c.successor m consumer.setup.address now]) ∨
    (delivery consumer m).Forwards ops ∨
    (m.isControl = true ∧ ∃ r r' : Record, w.record? T.store m.id = some r' ∧
      r.Becomes r' ∧ r.isDispatched = false ∧ ops = r.undispatched.map (·.toShipment))

/-- Only the delivery of a control message marks a record, that of its session. -/
def MayMark : Role → String → Prop
  | session _ _, _ => False
  | delivery _ m, id => m.isControl = true ∧ m.id = id

end Role

/-- Operations that pass the duty for a session on. -/
def Terms.HandsOver (T : Terms) (duty : Option String) (ops : List Shipment) : Prop :=
  ∃ op ∈ ops, ∃ a, T.address a ∧ op.destination = .queue a ∧ T.sound op.message ∧
    duty = some op.message.id

/-- A world in which the copies of failed messages are accepted makes no exception. -/
def Admits (T : Terms) (role : Role) {β : Type} : Call β → World → Prop
  | .dispatch ops, w => T.reliable → role.Forwards ops → w.transport.rejection = none
  | _, _ => True

/-- What a call of a participant must respect. -/
def Lawful (T : Terms) (role : Role) {β : Type} (g : Standing) : Call β → World → Prop
  | .beginTransaction store _, _ => store = T.store
  | .attach id tx _, _ => g.staging = some id ∧ g.transaction = some tx
  -- the staging of an outbox session is attached to a transaction, never opened by itself
  -- the staging of a session is completed while it is attached to the transaction of the same
  -- session, so its changes go there
  | .openStaging _ _, _ => False
  | .complete id, w => g.staging = some id ∧ ∃ s tx, w.database.stagings[id]? = some s ∧
      s.mode = .attached tx ∧ g.transaction = some tx
  | .closeStaging id, _ => g.staging = some id
  | .addRecord store _ tx, _ => store = T.store ∧ g.transaction = some tx
  -- a commit is lawful when the transaction holds exactly what the role contributes
  | .commit tx, w => g.transaction = some tx ∧
      w.database.transactions[tx]? = some { store := T.store, changes := role.contribution } ∧
      role.Plain ∧ role.Announced T w
  | .setDispatched store id, w => store = T.store ∧ role.MayMark id ∧
      ∀ r, w.record? T.store id = some r → r.markDispatched.Accepted w
  | .dispatch ops, w => role.MayHandOver T ops w
  | .unlessCancelled c, w => Lawful T role g c w
  | _, _ => True

open Classical in
/-- The standing after a call. -/
noncomputable def Standing.after (T : Terms) {β : Type} (g : Standing) : Call β → β → Standing
  | .beginTransaction _ _, reply =>
    -- it owns the transaction that it has begun
    match reply with
    | .ok tx => { g with transaction := some tx }
    | .error _ => g
  | .commit _, reply =>
    match reply with
    | .ok () => { g with committed := true }
    | .error _ => g
  | .dispatch ops, reply =>
    match reply with
    -- a rejected dispatch passes nothing on
    | .ok () => { g with duty := if T.HandsOver g.duty ops then none else g.duty }
    | .error _ => g
  | .unlessCancelled c, reply =>
    match reply with
    | some reply => g.after T c reply
    | none => g
  | _, _ => g

/-- The discipline of a participant. -/
noncomputable def contract (T : Terms) (role : Role) : Discipline Standing where
  relies := Relies T
  admits := Admits T role
  lawful := Lawful T role
  after := Standing.after T
  relies_trans := Relies.trans
  relies_self h := ⟨.refl _, h.shared, fun _ _ => rfl, fun _ _ => rfl⟩

/-! ### Frames -/

section

variable {T : Terms} {role : Role} {g : Standing} {β : Type} {c : Call β} {w : World}

/-- A lawful call leaves the stagings of others alone. -/
theorem frame_stagings (cancelled : Bool) (h : Lawful T role g c w) {i : StagingId}
    (hi : g.staging ≠ some i) :
    (World.answer cancelled c w).2.database.stagings[i]? = w.database.stagings[i]? := by
  -- the induction is needed for the calls that a caller may cancel: they wrap another call
  induction c generalizing w with
  | now | isCancelled | rollback | freshId | handle | observe | beginTransaction => rfl
  | openStaging => exact h.elim
  | attach id tx hints =>
    exact Database.stagings_attach_of_ne tx hints fun e => hi (e ▸ h.1)
  | complete id => exact Database.stagings_complete_of_ne fun e => hi (e ▸ h.1)
  | closeStaging id => exact Database.stagings_closeStaging_of_ne fun e => hi (e ▸ h)
  | addRecord store r tx =>
    exact congrArg (·[i]?) (Database.stagings_addRecord store r tx)
  | commit tx => exact congrArg (·[i]?) (Database.stagings_commit tx)
  | getRecord store id => simp only [World.answer, World.database_getRecord]
  | setDispatched store id => simp only [World.answer, World.stagings_setDispatched]
  | dispatch ops => rfl
  | unlessCancelled c ih =>
    unfold World.answer
    split
    · rfl
    · exact ih h

/-- A lawful call leaves the transactions of others alone. -/
theorem frame_transactions (cancelled : Bool) (h : Lawful T role g c w) {i : TransactionId}
    (hi : g.transaction ≠ some i) (hlt : i < w.database.transactions.length) :
    (World.answer cancelled c w).2.database.transactions[i]? = w.database.transactions[i]? := by
  -- as before, the induction is for the calls that a caller may cancel
  induction c generalizing w with
  | now | isCancelled | rollback | freshId | handle | observe => rfl
  | beginTransaction store hints => exact Database.transactions_begin_of_lt store hlt
  | openStaging => exact h.elim
  | attach id tx hints => exact congrArg (·[i]?) (Database.transactions_attach id tx hints)
  | complete id =>
    obtain ⟨-, s, tx, hs, hmode, htx⟩ := h
    -- the staging hands its changes to its own transaction
    exact Database.transactions_complete_of_ne hs hmode fun e => hi (e ▸ htx)
  | closeStaging id => exact congrArg (·[i]?) (Database.transactions_closeStaging id)
  | addRecord store r tx =>
    exact Database.transactions_addRecord_of_ne store r fun e => hi (e ▸ h.2)
  | commit tx => exact Database.transactions_commit_of_ne fun e => hi (e ▸ h.1)
  | getRecord store id => simp only [World.answer, World.database_getRecord]
  | setDispatched store id => simp only [World.answer, World.transactions_setDispatched]
  | dispatch ops => rfl
  | unlessCancelled c ih =>
    unfold World.answer
    split
    · rfl
    · exact ih h hlt

end

end Outbox
