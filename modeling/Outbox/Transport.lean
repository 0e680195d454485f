import Outbox.Error
import Outbox.Message.Operation
import Outbox.Queue

/-!
# The transport

Queues of messages with the time at which each falls due, topics with the queues that subscribe
to them, and a log of every operation that was accepted. Time is a count of nanoseconds that the
caller passes in.

The moments end at a `horizon`. An operation with a delay beyond it has no moment to fall due at, and
the dispatch that hands it over panics halfway.

A receiver looks for the first due message in the order of arrival. When it finds none it waits,
until the next message of its queue falls due or its own deadline, and it looks again whenever
operations have been accepted.

* `dispatch_rejected`   a rejected dispatch only disarms the failure
* `take?_eq_some_iff`   a receiver gets the first message that is due
-/

namespace Outbox

/-- A message in a queue. -/
structure QueuedMessage where
  message : Message
  /-- When the message may be received. -/
  dueAt : Nat
deriving DecidableEq

/-- Queues, subscriptions and the log of accepted operations. -/
structure Transport where
  queues : Std.ExtTreeMap String (List QueuedMessage) := ∅
  subscriptions : Std.ExtTreeMap String (List String) := ∅
  dispatched : List Shipment := []
  /-- Why the next dispatch is to be rejected. -/
  rejection : Option String := none
  /-- How many dispatches have been accepted. -/
  accepted : Nat := 0
  /-- The last moment that there is: the clock counts seconds as a signed number of 64 bits. -/
  horizon : Nat := 9223372036854775808 * 1000000000 - 1
deriving DecidableEq

namespace Transport

/-- What waits in a queue, in order of arrival. -/
def queue (t : Transport) (name : String) : List QueuedMessage := t.queues.getD name []

/-- The messages that wait in a queue. -/
def pending (t : Transport) (name : String) : List Message := (t.queue name).map (·.message)

/-- The queues that subscribe to a topic. -/
def subscribers (t : Transport) (topic : String) : List String := t.subscriptions.getD topic []

/-- The accepted operations that named a queue themselves. -/
def dispatchedTo (t : Transport) (name : String) : List Shipment :=
  t.dispatched.filter (·.destination == .queue name)

/-- Subscribes a queue to a topic, once. -/
def subscribe (t : Transport) (topic queue : String) : Transport :=
  if queue ∈ t.subscribers topic then t
  else { t with subscriptions := t.subscriptions.insert topic (t.subscribers topic ++ [queue]) }

/-- Makes the next dispatch fail. -/
def rejectNext (t : Transport) (reason : String) : Transport := { t with rejection := some reason }

/-- The queues that an operation reaches. -/
def targets (t : Transport) : Destination → List String
  | .queue name => [name]
  | .topic name => t.subscribers name

/-- Replaces the content of a queue. -/
def setQueue (t : Transport) (name : String) (messages : List QueuedMessage) : Transport :=
  { t with queues := t.queues.insert name messages }

/-- Appends a message to a queue. -/
def enqueue (t : Transport) (name : String) (e : QueuedMessage) : Transport :=
  t.setQueue name (t.queue name ++ [e])

/-- Accepts one operation: its message goes into each target queue, due after its delay. This is
for operations that fall due before the `horizon`; what becomes of others is said by `breakOff`. -/
def accept (now : Nat) (t : Transport) (op : Shipment) : Transport :=
  let e : QueuedMessage := ⟨op.message, now + op.delay.getD 0⟩
  let t := (t.targets op.destination).foldl (fun t name => t.enqueue name e) t
  { t with dispatched := t.dispatched ++ [op] }

/-- Accepts all operations in order, unless the dispatch is to be rejected. Whoever hands operations
over panics instead when `panics` says so. -/
def dispatch (t : Transport) (now : Nat) (ops : List Shipment) :
    Except DispatchError Unit × Transport :=
  match t.rejection with
  | some reason => (.error (.rejected reason), { t with rejection := none })
  | none =>
    let t := ops.foldl (accept now) t
    (.ok (), { t with accepted := t.accepted + 1 })

/-- Whether an operation falls due at a moment that there is. -/
def fits (t : Transport) (now : Nat) (op : Shipment) : Bool :=
  decide (op.delay.getD 0 ≤ t.horizon - now)

/-- Whether a dispatch panics: it is not rejected, and one of its operations falls due beyond the
last moment. -/
def panics (t : Transport) (now : Nat) (ops : List Shipment) : Bool :=
  t.rejection.isNone && ops.any (!t.fits now ·)

/-- What a dispatch that panics leaves behind: the operations before the first one that does not fit
have been accepted, and nobody has been told of them. -/
def breakOff (t : Transport) (now : Nat) (ops : List Shipment) : Transport :=
  (ops.takeWhile (t.fits now)).foldl (accept now) t

/-- Takes the first due message out of a queue. -/
def take? (t : Transport) (name : String) (now : Nat) : Option (Message × Transport) :=
  (Queue.takeFirst? (fun e => decide (e.dueAt ≤ now)) (t.queue name)).map fun (e, rest) =>
    (e.message, t.setQueue name rest)

/-- When the next message of a queue falls due. -/
def nextDue? (t : Transport) (name : String) : Option Nat := ((t.queue name).map (·.dueAt)).min?

/-- What a receiver finds when it looks. -/
inductive Look where
  | received (message : Message) (rest : Transport)
  | timedOut
  /-- Nothing is due; look again at `wakeAt`, or when operations have been accepted. -/
  | waiting (wakeAt : Nat)
deriving DecidableEq

/-- Looks into a queue for a receiver that gives up at `deadline`. A message that falls due at
the deadline is still received. -/
def look (t : Transport) (name : String) (deadline now : Nat) : Look :=
  match t.take? name now with
  | some (m, rest) => .received m rest
  | none =>
    -- the deadline counts only after the queue has been looked at
    if deadline ≤ now then .timedOut
    else .waiting (((t.nextDue? name).map (min deadline)).getD deadline)

/-- Empties queues and log, and disarms the failure. Subscriptions stay. -/
def clear (t : Transport) : Transport :=
  { t with queues := ∅, dispatched := [], rejection := none }

/-- Only the queue that is set changes. -/
@[simp] theorem queue_setQueue (t : Transport) (name other : String) (l : List QueuedMessage) :
    (t.setQueue name l).queue other = if name = other then l else t.queue other := by
  simp [queue, setQueue, Std.ExtTreeMap.getD_insert]

/-- An armed rejection refuses the next dispatch, whatever is in it, and is gone after it. -/
theorem dispatch_rejected {t : Transport} {reason : String} (h : t.rejection = some reason)
    (now : Nat) (ops : List Shipment) :
    t.dispatch now ops = (.error (.rejected reason), { t with rejection := none }) := by
  simp [dispatch, h]

/-- A receiver gets the earliest arrival that is due, and takes nothing else. -/
theorem take?_eq_some_iff {t u : Transport} {name : String} {now : Nat} {m : Message} :
    t.take? name now = some (m, u) ↔
      ∃ front e back, t.queue name = front ++ e :: back ∧ e.message = m ∧ e.dueAt ≤ now ∧
        (∀ b ∈ front, now < b.dueAt) ∧ u = t.setQueue name (front ++ back) := by
  unfold take?
  rw [Option.map_eq_some_iff]
  constructor
  · rintro ⟨⟨e, rest⟩, h, heq⟩
    obtain ⟨rfl, rfl⟩ := Prod.mk.inj heq
    obtain ⟨front, back, hq, rfl, he, hf⟩ := Queue.takeFirst?_eq_some_iff.1 h
    exact ⟨front, e, back, hq, rfl, by simpa using he, by simpa using hf, rfl⟩
  · rintro ⟨front, e, back, hq, rfl, he, hf, rfl⟩
    exact ⟨(e, front ++ back),
      Queue.takeFirst?_eq_some_iff.2 ⟨front, back, hq, rfl, by simpa using he, by simpa using hf⟩,
      rfl⟩

end Transport

end Outbox
