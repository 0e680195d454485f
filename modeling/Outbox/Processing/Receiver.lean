import Outbox.Retry.Verdict

/-!
# Receiving a message

One delivery at the processor. A control message first has its record looked up; if there is one,
its operations are dispatched, unless they have been before. Without a record the delivery is
retried with delay, or given up, and then an empty record blocks the session's id. An ordinary
message goes to its handler.

A delivery that ends well while the message carries a countdown is told as completed. Headers that
make no sense are treated as if there were none.
-/

namespace Outbox

/-- How the processor is set up. -/
structure Receiver where
  store : String
  /-- The queue of the processor, to which successors are sent. -/
  address : String
  /-- Whether outcomes are told. -/
  reports : Bool := true
  /-- Whether ordinary messages are handled, or just taken. -/
  handles : Bool := true
  /-- Hints for the transactions that write empty records. -/
  hints : Hints := {}
deriving DecidableEq

/-- What becomes of the message in its queue. -/
inductive Disposition where
  | completed
  /-- A delayed successor has taken its place. -/
  | retryScheduled
deriving DecidableEq, Repr

/-- The countdown of a message as a delivery sees it. -/
def tracked (m : Message) : Option Countdown :=
  match Countdown.read m with
  | .ok countdown => countdown
  | .error _ => none

/-- Does the work of a delivery and tells how it went. -/
def withOutcome (reports : Bool) (m : Message)
    (work : Option Countdown → Program (Except DeliveryError Disposition)) :
    Program (Except DeliveryError Disposition) := do
  let countdown := tracked m
  let result ← work countdown
  match result, countdown with
  | .ok .completed, some c => report reports (c.outcome .completed)
  | _, _ => pure ()
  return result

namespace Receiver

/-- Dispatches what waits in a record, in one call, and marks the record. -/
def forwardRecord (p : Receiver) (r : Record) : Program (Except DeliveryError Unit) :=
  -- a record that has been dispatched, or that is empty, is left alone and not marked again
  if r.isDispatched then return .ok ()
  else do
    match ← .ask (.dispatch (r.undispatched.map (·.toShipment))) with
    | .error e => return .error (.dispatch e)
    | .ok () =>
      match ← .ask (.setDispatched p.store r.id) with
      | .error e => return .error (.store e)
      | .ok () => return .ok ()

/-- Commits an empty record under an id. -/
def writeTombstone (p : Receiver) (id : String) : Program (Except StoreError Unit) := do
  match ← .ask (.beginTransaction p.store p.hints) with
  | .error e => return .error e
  -- a failure in here leaves no empty record, and the delivery ends with it
  | .ok tx =>
    match ← .ask (.addRecord p.store (.tombstone id) tx) with
    | .error e => return .error e
    | .ok () => .ask (.commit tx)

/-- Blocks an id. When the session's commit has come first, its record is dispatched instead. -/
def tombstone (p : Receiver) (id : String) : Program (Except DeliveryError Unit) := do
  match ← p.writeTombstone id with
  | .ok () => return .ok ()
  | .error (.conflict _) =>
    -- the session has committed since the first look-up
    match ← .ask (.getRecord p.store id) with
    | .error e => return .error (.store e)
    -- the record was there a moment ago, so the look-up was made to find nothing
    | .ok none => return .ok ()
    | .ok (some r) => p.forwardRecord r
  | .error e => return .error (.store e)

/-- What is left to do with a message that is not retried. -/
def passOn (p : Receiver) (m : Message) : Program (Except DeliveryError Disposition) :=
  if m.isControl || !p.handles then return .ok .completed
  else do
    match ← .ask (.handle m) with
    | .error e => return .error e
    | .ok () => return .ok .completed

/-- The delivery of a message for which there is no record. -/
def retry (p : Receiver) (m : Message) (countdown : Option Countdown) :
    Program (Except DeliveryError Disposition) := do
  -- the clock is read once a delivery, before it is known whether there is a countdown
  let now ← .ask .now
  match ← judge p.address p.reports m countdown now with
  | .goOn => p.passOn m
  | .retried => return .ok .retryScheduled
  | .failed e => return .error (.dispatch e)
  | .gaveUp =>
    -- an ordinary message has no session whose id could be blocked
    if m.isControl then
      match ← p.tombstone m.id with
      | .error e => return .error e
      | .ok () => return .ok .completed
    else return .ok .completed

/-- All work of a delivery. -/
def work (p : Receiver) (m : Message) (countdown : Option Countdown) :
    Program (Except DeliveryError Disposition) :=
  if m.isControl then do
    match ← .ask (.getRecord p.store m.id) with
    | .error e => return .error (.store e)
    -- the session has not committed yet, or it never will
    | .ok none => p.retry m countdown
    | .ok (some r) =>
      match ← p.forwardRecord r with
      | .error e => return .error e
      | .ok () => return .ok .completed
  else p.retry m countdown

/-- One delivery of a message. -/
def receive (p : Receiver) (m : Message) : Program (Except DeliveryError Disposition) :=
  withOutcome p.reports m (p.work m)

end Receiver

end Outbox
