import Outbox.Processing.Worker
import Outbox.Time.Sleep

/-!
# Virtual time

A `Simulation` runs workers in a world whose clock moves only while someone waits. At every
instant all workers do what they can before time moves on, and then it moves to the next moment
at which a worker or the waiting caller wants to be woken. Timers count in milliseconds, rounded
up.

One worker runs at a time, and it runs until it comes to rest. The others wait for their turn in
the order in which they were woken up. Of several workers that are woken up at once, by an
accepted dispatch or because the time has come, the one that has rested longest comes first. A
caller that waits for a message looks before the workers run when the time has come for both.

A worker that panics is gone with the message that it had taken, and leaves the lock of the
transport poisoned: workers that look for messages then find none and pause.

Runs are bounded: `instantBudget` steps at one instant. A worker that never comes to rest within
an instant (it polls without an interval, or its error queue is its own queue) does not get
further than that.
-/

namespace Outbox

/-- A world with the workers that run in it, by name. Those that run stand in the order of their
turns, the others in the order in which they came to rest. -/
structure Simulation where
  world : World
  workers : List (String × Worker) := []
  /-- How many of the accepted dispatches the workers have been woken up for. -/
  announced : Nat := 0
  /-- Whether the lock of the transport is poisoned. -/
  poisoned : Bool := false

namespace Simulation

/-- The world with its lock. -/
def guarded (s : Simulation) : Guarded := ⟨s.world, s.poisoned⟩

/-- Replaces the world and its lock. -/
def withGuarded (s : Simulation) (g : Guarded) : Simulation :=
  { s with world := g.world, poisoned := g.poisoned }

/-- The number of steps that workers may make at one instant. -/
def instantBudget : Nat := 1000000

/-- Wakes up the workers that satisfy `p`; they wait for their turn behind those that run. -/
def wake (s : Simulation) (p : Worker → Bool) : Simulation :=
  { s with
    -- those that sleep on keep their places in front, those that wake up line up behind
    workers := s.workers.filter (!p ·.2) ++
      (s.workers.filter (p ·.2)).map fun (name, w) => (name, w.wake) }

/-- Wakes up the workers that wait for a message, if dispatches have been accepted meanwhile. -/
def announce (s : Simulation) : Simulation :=
  if s.announced < s.world.transport.accepted then
    { s.wake (·.phase.isWaiting) with announced := s.world.transport.accepted }
  else s

/-- The time since the start, in nanoseconds. -/
def elapsed (s : Simulation) : Nat := s.world.clock.elapsed

/-- Ends the pause of a worker when its sleep ends. -/
def limitPause (s : Simulation) (w : Worker) : Worker :=
  match w.phase with
  | .pausing wakeAt =>
    { w with phase := .pausing (s.elapsed + Time.sleepTime (wakeAt - s.elapsed)) }
  | .listening | .looking _ | .waiting _ _ | .stopped => w

/-- Lets the worker whose turn it is make one step. -/
def step? (s : Simulation) : Option Simulation :=
  (Queue.takeFirst? (·.2.phase.isRunning) s.workers).map fun ((name, w), others) =>
    -- the world may have changed even if the worker is gone
    let (left, g) := w.step? s.guarded
    -- whom the worker wakes up does not include itself
    let s := announce { s.withGuarded g with workers := others }
    match left.map s.limitPause with
    | none => s
    | some w =>
      -- a worker that goes on keeps its turn, one that rests goes to the end
      if w.phase.isRunning then { s with workers := (name, w) :: s.workers }
      else { s with workers := s.workers ++ [(name, w)] }

/-- Lets workers make up to `fuel` steps at the present instant. -/
def settleWithin : Nat → Simulation → Simulation
  | 0, s => s
  | fuel + 1, s =>
    match s.step? with
    | none => s
    | some s => settleWithin fuel s

/-- When a timer that is set to `t` goes off. -/
def timerEnd (t : Nat) : Nat := (t + 999999) / 1000000 * 1000000

/-- When the next worker wakes up. -/
def nextWake? (s : Simulation) : Option Nat :=
  (s.workers.filterMap fun (_, w) => w.phase.wakeAt?.map timerEnd).min?

/-- Whether the time has come for a worker. -/
def isDue (s : Simulation) (w : Worker) : Bool :=
  w.phase.wakeAt?.any fun t => decide (timerEnd t ≤ s.elapsed)

/-- Lets every worker do all it can at the present instant. -/
def settle (s : Simulation) : Simulation :=
  -- who is due wakes up before what was dispatched meanwhile is announced
  settleWithin instantBudget (s.wake s.isDue).announce

/-- Moves the clock to a later time; it never goes back. -/
def moveTo (s : Simulation) (t : Nat) : Simulation :=
  { s with world.clock.elapsed := max s.elapsed t }

/-- Lets workers run until `target`, in up to `fuel` moves of the clock. What falls due at
`target` itself is left for later. -/
def runUntil : Nat → Nat → Simulation → Simulation
  | 0, target, s => s.moveTo target
  | fuel + 1, target, s =>
    match s.nextWake? with
    | none => s.moveTo target
    | some t =>
      -- a wake-up that is due already has been dealt with by the last settling
      if t < target ∧ s.elapsed < t then runUntil fuel target (s.moveTo t).settle
      else s.moveTo target

/-- Sleeps for a number of nanoseconds. -/
def advance (s : Simulation) (duration : Nat) : Simulation :=
  let slept := Time.sleepTime duration
  -- timers count in milliseconds, so there are at most as many moves
  runUntil (slept / 1000000 + 1) (s.elapsed + slept) s

/-- Receives from a queue for a caller that gives up at `deadline`, in up to `fuel` moves of the
clock. -/
def receiveWithin : Nat → String → Nat → Simulation → Option Message × Simulation
  | 0, _, _, s => (none, s)
  | fuel + 1, queue, deadline, s =>
    match s.world.transport.look queue deadline s.elapsed with
    | .received m transport => (some m, { s with world.transport := transport })
    | .timedOut => (none, s)
    | .waiting wakeAt =>
      let own := timerEnd wakeAt
      match s.nextWake? with
      -- nobody else wakes up before the caller does
      | none => receiveWithin fuel queue deadline (s.moveTo own)
      | some t =>
        if t < own then receiveWithin fuel queue deadline (s.moveTo t).settle
        -- the time has come for both: no worker runs before the caller has looked
        else receiveWithin fuel queue deadline (s.moveTo own)

/-- Receives from a queue, waiting up to a number of nanoseconds. -/
def receive (s : Simulation) (queue : String) (timeout : Nat) : Option Message × Simulation :=
  receiveWithin (timeout / 1000000 + 2) queue (s.elapsed + timeout) s

/-- Takes a due message off a queue, without waiting. -/
def take (s : Simulation) (queue : String) : Option Message × Simulation :=
  match s.world.transport.take? queue s.elapsed with
  | some (m, transport) => (some m, { s with world.transport := transport })
  | none => (none, s)

/-- Runs a program for a caller that has or has not cancelled. There is no result when the caller
panics. -/
def run {α : Type} (s : Simulation) (cancelled : Bool) (p : Program α) : Option α × Simulation :=
  let (a, g) := s.guarded.attempt cancelled p
  (a, s.withGuarded g)

/-- Starts a worker under a name; a worker that had the name is gone. -/
def spawn (s : Simulation) (name : String) (w : Worker) : Simulation :=
  { s with workers := s.workers.filter (·.1 != name) ++ [(name, { w with phase := .listening })] }

/-- The worker under a name. -/
def worker? (s : Simulation) (name : String) : Option Worker := s.workers.lookup name

/-- Tells a worker to stop. What it has counted stays. -/
def signalStop (s : Simulation) (name : String) : Simulation :=
  { s with workers := s.workers.map fun (n, w) => if n == name then (n, w.stop) else (n, w) }

/-- Forgets a worker. -/
def removeWorker (s : Simulation) (name : String) : Simulation :=
  { s with workers := s.workers.filter (·.1 != name) }

end Simulation

/-- A handler that does what the body of a message says, and notes nothing: each failure of a
handler can be provoked by a word. -/
def handleByBody (m : Message) : Except DeliveryError Unit :=
  match m.bodyText? with
  | some "poison" => .error (.handler "poison message")
  | some "storage" => .error (.store (.conflict m.id))
  | some "transport" => .error (.dispatch (.rejected "from handler"))
  | some "codec" => .error (.header (.badAttempt m.id))
  | _ => .ok ()

end Outbox
