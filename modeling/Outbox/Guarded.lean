import Outbox.World

/-!
# The lock of the transport

Whoever hands operations to the transport holds its lock meanwhile. When the dispatch panics the
lock is poisoned: the caller is gone, the operations that were accepted before stay in their queues,
and every later dispatch or receive finds the lock poisoned and fails.

A `World` answers as long as nobody panics. A `Guarded` world is one with its lock, and it says what
happens otherwise.

* `answer?_of_quiet`  a call that does not panic is answered by the world
* `attempt_eq_run`    so is a whole program
-/

namespace Outbox

/-- A world together with the lock of its transport. -/
structure Guarded where
  world : World
  /-- A dispatch has panicked while it held the lock. -/
  poisoned : Bool := false

/-- Whether a call panics. A caller that has cancelled does not make it. -/
def World.panics (w : World) (cancelled : Bool) {β : Type} : Call β → Bool
  | .dispatch ops => w.transport.panics w.clock.elapsed ops
  | .unlessCancelled c => !cancelled && w.panics cancelled c
  | _ => false

namespace Guarded

/-- Hands operations to the transport. There is no reply when the dispatch panics. -/
def dispatch (g : Guarded) (ops : List Shipment) : Option (Except DispatchError Unit) × Guarded :=
  let now := g.world.clock.elapsed
  if g.poisoned then (some (.error (.rejected .lockPoisoned)), g)
  else if g.world.transport.panics now ops then
    (none, {
      world := { g.world with transport := g.world.transport.breakOff now ops }
      poisoned := true })
  else
    let (reply, world) := g.world.dispatch ops
    (some reply, { g with world })

/-- Answers a call for a caller that has or has not cancelled, or has it panic. -/
def answer? (cancelled : Bool) {β : Type} : Call β → Guarded → Option β × Guarded
  | .dispatch ops, g => g.dispatch ops
  | .unlessCancelled c, g =>
    if cancelled then (some none, g)
    else
      let (reply, g) := answer? cancelled c g
      (reply.map some, g)
  | c, g =>
    let (reply, world) := World.answer cancelled c g.world
    (some reply, { g with world })

/-- Runs a program for a caller that has or has not cancelled, until it ends or panics. -/
def attempt {α : Type} (g : Guarded) (cancelled : Bool) (p : Program α) : Option α × Guarded :=
  p.attempt (answer? cancelled) g

variable {α β : Type} {g : Guarded} {cancelled : Bool}

/-- As long as the lock is sound, a call that does not panic is answered by the world. -/
theorem answer?_of_quiet (hsound : g.poisoned = false) {c : Call β}
    (hquiet : g.world.panics cancelled c = false) :
    answer? cancelled c g =
      (some (World.answer cancelled c g.world).1,
        { g with world := (World.answer cancelled c g.world).2 }) := by
  induction c with
  | dispatch ops =>
    have hfits : g.world.transport.panics g.world.clock.elapsed ops = false := hquiet
    simp only [answer?, dispatch, hsound, hfits, Bool.false_eq_true, if_false]
    rfl
  | unlessCancelled c ih =>
    cases cancelled with
    | true => rfl
    | false => simp only [answer?, ih hquiet, Bool.false_eq_true, if_false]; rfl
  | _ => rfl

/-- A call that panics leaves the lock poisoned, and what it has accepted until then. -/
theorem answer?_of_panics (hsound : g.poisoned = false) {c : Call β}
    (hpanics : g.world.panics cancelled c = true) :
    (answer? cancelled c g).1 = none ∧ (answer? cancelled c g).2.poisoned = true := by
  induction c with
  | dispatch ops =>
    have hlate : g.world.transport.panics g.world.clock.elapsed ops = true := hpanics
    simp [answer?, dispatch, hsound, hlate]
  | unlessCancelled c ih =>
    simp only [World.panics, Bool.and_eq_true, Bool.not_eq_true'] at hpanics
    obtain ⟨rfl, hpanics⟩ := hpanics
    simpa [answer?] using ih hpanics
  | _ => exact absurd hpanics Bool.false_ne_true

/-- A program that ends on a sound lock has been run by the world, and has left the lock sound. -/
theorem attempt_eq_run {p : Program α} {g' : Guarded} {a : α} (hsound : g.poisoned = false)
    (h : g.attempt cancelled p = (some a, g')) :
    g.world.run cancelled p = (a, g'.world) ∧ g'.poisoned = false := by
  induction p generalizing g with
  | done b =>
    obtain ⟨hb, rfl⟩ := Prod.mk.inj h
    obtain rfl := Option.some.inj hb
    exact ⟨rfl, hsound⟩
  | call c next ih =>
    simp only [attempt, Program.attempt] at h
    cases hpanics : g.world.panics cancelled c with
    | true =>
      -- whoever panics does not get to the end
      obtain ⟨hnone, -⟩ := answer?_of_panics hsound hpanics
      rw [show answer? cancelled c g = (none, (answer? cancelled c g).2) from
        Prod.ext hnone rfl] at h
      exact nomatch (Prod.mk.inj h).1
    | false =>
      rw [answer?_of_quiet hsound hpanics] at h
      exact ih (World.answer cancelled c g.world).1 (g := { g with world := _ }) hsound h

/-- A poisoned lock stays poisoned. -/
theorem poisoned_answer? (hpoisoned : g.poisoned = true) (cancelled : Bool) (c : Call β) :
    (answer? cancelled c g).2.poisoned = true := by
  induction c with
  | dispatch ops => simp [answer?, dispatch, hpoisoned]
  | unlessCancelled c ih =>
    cases cancelled with
    | true => exact hpoisoned
    | false => exact ih
  | _ => exact hpoisoned

end Guarded

end Outbox
