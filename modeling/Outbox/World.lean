import Outbox.Program
import Outbox.Transport

/-!
# Collaborators in memory

A `World` holds a clock that stands still unless it is moved, the transport, the stores, what has
been told to the observer and to the handler, and a source of ids. It answers every call at once.

Besides the failures that stores and transport can be told to show, the look-ups and marks that a
delivery makes can be told to fail or to find nothing.

* `run_unlessCancelled`  whether a caller has cancelled is settled before a call is made
-/

namespace Outbox

/-- A clock: where it started, how far time has run, and by how much the reading was shifted; the
latter two in nanoseconds. -/
structure Clock where
  start : Time.Instant
  elapsed : Nat := 0
  shift : Int := 0
deriving DecidableEq

/-- What the clock reads. -/
def Clock.now (c : Clock) : Time.Instant := c.start.clockReading (c.elapsed + c.shift)

/-- The failures that deliveries are to meet. -/
structure DeliveryFaults where
  /-- Why the next look-up is to fail. -/
  getRecord : Option String := none
  /-- Why the next mark is to fail. -/
  setDispatched : Option String := none
  /-- How many look-ups are to find nothing. -/
  hiddenRecords : Nat := 0
deriving DecidableEq

/-- All collaborators in memory. -/
structure World where
  clock : Clock
  transport : Transport := {}
  database : Database := {}
  /-- How an ordinary message is handled. -/
  handler : Message → Except DeliveryError Unit := fun _ => .ok ()
  /-- The ids of the messages that were handled. -/
  handled : List String := []
  outcomes : List Outcome := []
  /-- The number of ids made so far. -/
  ids : Nat := 0
  /-- The ids in the order in which they are made. -/
  idText : Nat → String := fun n => Nat.repr n
  faults : DeliveryFaults := {}

namespace World

/-- The reply together with the world in which the stores have changed. -/
def withDatabase {α : Type} (w : World) (r : α × Database) : α × World :=
  (r.1, { w with database := r.2 })

/-- Looks a record up for a delivery. -/
def getRecord (w : World) (store id : String) : Except StoreError (Option Record) × World :=
  match w.faults.getRecord with
  -- the failure comes before the look-up and does not use up a hidden one
  | some reason => (.error (.backend reason), { w with faults.getRecord := none })
  | none =>
    match w.faults.hiddenRecords with
    | n + 1 => (.ok none, { w with faults.hiddenRecords := n })
    | 0 => (.ok ((w.database.store store).record? id), w)

/-- Marks a record for a delivery. -/
def setDispatched (w : World) (store id : String) : Except StoreError Unit × World :=
  match w.faults.setDispatched with
  | some reason => (.error (.backend reason), { w with faults.setDispatched := none })
  | none => (.ok (), { w with database := w.database.setDispatched store id })

/-- Hands operations to the transport. -/
def dispatch (w : World) (ops : List Shipment) : Except DispatchError Unit × World :=
  let (reply, transport) := w.transport.dispatch w.clock.elapsed ops
  (reply, { w with transport })

/-- Answers a call for a caller that has or has not cancelled. -/
def answer (cancelled : Bool) {β : Type} : Call β → World → β × World
  | .now, w => (w.clock.now, w)
  | .freshId, w => (w.idText w.ids, { w with ids := w.ids + 1 })
  | .isCancelled, w => (cancelled, w)
  | .beginTransaction store _, w =>
    let (tx, database) := w.database.begin store
    (.ok tx, { w with database })
  | .attach staging tx hints, w =>
    let (joined, database) := w.database.attach staging tx hints
    (.ok joined, { w with database })
  | .openStaging staging hints, w =>
    (.ok (), { w with database := w.database.openStaging staging hints })
  | .complete staging, w => w.withDatabase (w.database.complete staging)
  | .closeStaging staging, w =>
    ((), { w with database := w.database.closeStaging staging })
  | .addRecord store record tx, w =>
    w.withDatabase (w.database.addRecord store record tx)
  | .commit tx, w => w.withDatabase (w.database.commit tx)
  -- changes reach a store only with the commit, so there is nothing to take back
  | .rollback _, w => ((), w)
  | .getRecord store id, w => w.getRecord store id
  | .setDispatched store id, w => w.setDispatched store id
  | .dispatch ops, w => w.dispatch ops
  | .handle m, w => (w.handler m, { w with handled := w.handled ++ [m.id] })
  | .observe outcome, w => ((), { w with outcomes := w.outcomes ++ [outcome] })
  | .unlessCancelled c, w =>
    if cancelled then (none, w)
    else
      let (reply, w) := answer cancelled c w
      (some reply, w)

/-- Runs a program for a caller that has or has not cancelled. -/
def run {α : Type} (w : World) (cancelled : Bool) (p : Program α) : α × World :=
  p.run (answer cancelled) w

/-- Whether a caller has cancelled is settled before the call: it is made or it is not, and nothing
else of the program changes. -/
theorem run_unlessCancelled {α β : Type} (w : World) (cancelled : Bool) (c : Call β)
    (next : Option β → Program α) :
    w.run cancelled (.call (.unlessCancelled c) next) =
      if cancelled then w.run cancelled (next none)
      else (answer cancelled c w).2.run cancelled (next (some (answer cancelled c w).1)) := by
  cases cancelled <;> rfl

end World

end Outbox
