import Outbox.Config.Basic
import Outbox.Guarded
import Outbox.Processing.Receiver

/-!
# The worker

A worker takes messages off the processor queue, one after the other, and has each delivered. It
waits for a message up to the poll interval and then asks again. A delivery that fails has a copy
of its message put in the error queue, with the reason. When the listener fails the worker
pauses. A stop takes effect only while the worker waits or pauses.

`Worker.step` is what a worker does next at the present reading of the clock, while it runs. A
worker that waits or pauses does nothing until it is woken up.

* `handled_count`  every message taken off the queue is counted under one heading
* `step?_eq_step`  what a worker does as long as nobody panics
-/

namespace Outbox

/-- What a worker has counted. -/
structure Tally where
  /-- Messages taken off the queue. -/
  handled : Nat := 0
  /-- Deliveries that ended well. -/
  completed : Nat := 0
  /-- Deliveries replaced by a delayed successor. -/
  retried : Nat := 0
  /-- Deliveries that failed. -/
  failed : Nat := 0
  /-- Receives that came to an end. -/
  polls : Nat := 0
deriving DecidableEq, Repr

namespace Tally

/-- Counts a receive. -/
def countPoll (t : Tally) : Tally := { t with polls := t.polls + 1 }

/-- Counts the delivery of a message that a receive has brought. -/
def count (t : Tally) (result : Except DeliveryError Disposition) : Tally :=
  let t := { t with handled := t.handled + 1, polls := t.polls + 1 }
  match result with
  | .ok .completed => { t with completed := t.completed + 1 }
  | .ok .retryScheduled => { t with retried := t.retried + 1 }
  | .error _ => { t with failed := t.failed + 1 }

/-- Counting a result keeps the headings adding up to what was handled. -/
theorem handled_count (t : Tally) (result : Except DeliveryError Disposition)
    (h : t.handled = t.completed + t.retried + t.failed) :
    (t.count result).handled =
      (t.count result).completed + (t.count result).retried + (t.count result).failed := by
  unfold count
  split <;> simp only <;> omega

end Tally

/-- What a worker is doing between deliveries. It runs until it waits, pauses or has stopped. -/
inductive Worker.Phase where
  /-- It is about to start a receive. -/
  | listening
  /-- It is about to look into the queue, for a receive that ends at the deadline. -/
  | looking (deadline : Nat)
  /-- It waits for a message, and looks again at `wakeAt` or when a dispatch has been accepted. -/
  | waiting (deadline wakeAt : Nat)
  /-- It pauses after a failure of the listener. -/
  | pausing (wakeAt : Nat)
  | stopped
deriving DecidableEq, Repr

namespace Worker.Phase

/-- Whether the worker has something to do at the present instant. -/
def isRunning : Worker.Phase → Bool
  | listening | looking _ => true
  | waiting _ _ | pausing _ | stopped => false

/-- Whether an accepted dispatch wakes the worker. -/
def isWaiting : Worker.Phase → Bool
  | waiting _ _ => true
  | listening | looking _ | pausing _ | stopped => false

/-- When the worker wants to be woken up. -/
def wakeAt? : Worker.Phase → Option Nat
  | waiting _ wakeAt | pausing wakeAt => some wakeAt
  | listening | looking _ | stopped => none

/-- What the worker does when it is woken up. -/
def woken : Worker.Phase → Worker.Phase
  | waiting deadline _ => looking deadline
  | pausing _ => listening
  | p => p

end Worker.Phase

/-- A worker on a processor queue. Times are in nanoseconds. -/
structure Worker where
  receiver : Receiver
  errorQueue : String := ({} : Config).errorQueue
  pollInterval : Nat := 50000000
  /-- How many receives of the listener are still to fail. -/
  failingReceives : Nat := 0
  tally : Tally := {}
  phase : Worker.Phase := .stopped
deriving DecidableEq

namespace Worker

/-- The worker of an endpoint. -/
def ofConfig (c : Config) (store : String) : Except Misuse Worker :=
  c.processorQueue.map fun address =>
    { receiver := { store, address }, errorQueue := c.errorQueue }

/-- The operation that puts a failed message in the error queue. -/
def forwarded (w : Worker) (m : Message) (e : DeliveryError) : Shipment where
  message := (m.addHeader Headers.exceptionMessage e.message).addHeader Headers.failedQueue
    w.receiver.address
  destination := .queue w.errorQueue
  isolated := true

/-- Delivers a message, and forwards it when the delivery fails. That the transport does not take
the copy changes nothing. -/
def deliver (w : Worker) (m : Message) : Program (Except DeliveryError Disposition) := do
  let result ← w.receiver.receive m
  if let .error e := result then
    let _ ← .ask (.dispatch [w.forwarded m e])
  return result

/-- Pauses because a receive has failed. -/
def pause (w : Worker) (now : Nat) : Worker :=
  { w with tally := w.tally.countPoll, phase := .pausing (now + w.pollInterval) }

/-- Starts a receive. -/
def listen (w : Worker) (now : Nat) : Worker :=
  if w.failingReceives = 0 then
    { w with phase := .looking (now + w.pollInterval) }
  else { w with failingReceives := w.failingReceives - 1 }.pause now

/-- The worker after a delivery. -/
def delivered (w : Worker) (result : Except DeliveryError Disposition) : Worker :=
  { w with tally := w.tally.count result, phase := .listening }

/-- Looks into the queue. -/
def look (w : Worker) (world : World) (deadline : Nat) : Worker × World :=
  match world.transport.look w.receiver.address deadline world.clock.elapsed with
  | .received m transport =>
    -- the message has left the queue, so its delivery runs to its end
    let (result, world) := { world with transport }.run false (w.deliver m)
    (w.delivered result, world)
  | .timedOut => ({ w with tally := w.tally.countPoll, phase := .listening }, world)
  | .waiting wakeAt => ({ w with phase := .waiting deadline wakeAt }, world)

/-- What a worker that runs does next. -/
def step (w : Worker) (world : World) : Worker × World :=
  match w.phase with
  | .listening => (w.listen world.clock.elapsed, world)
  | .looking deadline => w.look world deadline
  | .waiting _ _ | .pausing _ | .stopped => (w, world)

/-- What it does next where a delivery may panic: then there is no worker any more, and nobody has
the message. A receive that finds the lock poisoned fails. -/
def step? (w : Worker) (g : Guarded) : Option Worker × Guarded :=
  let next := w.step g.world
  match w.phase with
  | .looking deadline =>
    if g.poisoned then (some (w.pause g.world.clock.elapsed), g)
    else
      match g.world.transport.look w.receiver.address deadline g.world.clock.elapsed with
      | .received m transport =>
        let taken := { g with world := { g.world with transport } }
        let (result, g) := taken.attempt false (w.deliver m)
        (result.map w.delivered, g)
      | .timedOut | .waiting _ => (some next.1, { g with world := next.2 })
  | .listening | .waiting _ _ | .pausing _ | .stopped => (some next.1, { g with world := next.2 })

/-- On a sound lock a worker that is left makes the step that it makes where nobody panics. -/
theorem step?_eq_step {w w' : Worker} {g g' : Guarded} (hsound : g.poisoned = false)
    (h : w.step? g = (some w', g')) :
    w.step g.world = (w', g'.world) ∧ g'.poisoned = false := by
  unfold step? at h
  dsimp only at h
  split at h
  · next deadline hphase =>
    rw [if_neg (by simp [hsound])] at h
    split at h
    · next m transport hlook =>
      obtain ⟨hresult, hg⟩ := Prod.mk.inj h
      obtain ⟨result, hattempt, rfl⟩ := Option.map_eq_some_iff.1 hresult
      -- the delivery has come to its end, so none of its calls has panicked
      have hended : Guarded.attempt { g with world := { g.world with transport } } false
          (w.deliver m) = (some result, g') := Prod.ext hattempt hg
      obtain ⟨hrun, hsound'⟩ := Guarded.attempt_eq_run (by exact hsound) hended
      exact ⟨by simp only [step, hphase, look, hlook, hrun], hsound'⟩
    all_goals
      obtain ⟨hw, rfl⟩ := Prod.mk.inj h
      exact ⟨Prod.ext (Option.some.inj hw) rfl, hsound⟩
  all_goals
    obtain ⟨hw, rfl⟩ := Prod.mk.inj h
    exact ⟨Prod.ext (Option.some.inj hw) rfl, hsound⟩

/-- Wakes the worker up. -/
def wake (w : Worker) : Worker := { w with phase := w.phase.woken }

/-- Stops the worker. -/
def stop (w : Worker) : Worker := { w with phase := .stopped }

end Worker

end Outbox
