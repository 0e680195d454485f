import Mathlib.Logic.Relation
import Outbox.Proofs.Orphans

/-!
# Sessions and workers that panic

In a `System` everyone who makes a call gets a reply. That is so as long as no dispatch panics. A
`Frail` system has the lock of the transport beside it: whoever hands over an operation that falls
due beyond the last moment is gone in the middle of the dispatch, with the message that it was
delivering, and after that nobody gets anything in or out of the queues.

Until a dispatch panics the two are the same, so what is known of every `System` holds up to then.

* `Frail.step_of_sound`           as long as the lock is sound, an event is one of the `System`
* `Frail.orphaned_by_panic_only`  a committed batch is forgotten only after a dispatch has panicked
* `Frail.orphaned_greatestDelay`  and then it can be
-/

namespace Outbox

open Outbox.System (Reaches OnQueue)

/-- A system in which dispatches may panic. -/
structure Frail : Type 1 where
  system : System
  /-- Whether the lock of the transport is poisoned. -/
  poisoned : Bool := false

/-- The operations that a call hands over, unless the caller has cancelled. -/
def Call.handsOver? (cancelled : Bool) {β : Type} : Call β → Option (List Shipment)
  | .dispatch ops => some ops
  | .unlessCancelled c => if cancelled then none else c.handsOver? cancelled
  | _ => none

/-- A call panics when the transport does with the operations that it hands over. -/
theorem World.panics_eq_true_iff {w : World} {cancelled : Bool} {β : Type} {c : Call β} :
    w.panics cancelled c = true ↔
      ∃ ops, c.handsOver? cancelled = some ops ∧
        w.transport.panics w.clock.elapsed ops = true := by
  induction c with
  | dispatch ops => simp [World.panics, Call.handsOver?]
  | unlessCancelled c ih => cases cancelled <;> simp [World.panics, Call.handsOver?, ih]
  | _ => simp [World.panics, Call.handsOver?]

namespace Frail

/-- The world with its lock. -/
def guarded (s : Frail) : Guarded := ⟨s.system.world, s.poisoned⟩

/-- A participant makes its next call. One that gets no reply is gone. -/
def call (s : Frail) (who : Nat) (cancelled : Bool) : Frail :=
  match s.system.tasks[who]?.bind (Task.turn? who) with
  | none => s
  | some turn =>
    match Guarded.answer? cancelled turn.call s.guarded with
    | (some reply, g) =>
      let (task, entries) := turn.resume reply
      { system := {
          world := g.world
          tasks := s.system.tasks.set who task
          log := s.system.log ++ entries }
        poisoned := g.poisoned }
    | (none, g) =>
      { system := { s.system with world := g.world, tasks := s.system.tasks.set who .gone }
        poisoned := g.poisoned }

/-- Others hand operations to the transport. If they panic, nobody knows them. -/
def disturbWith (s : Frail) (ops : List Shipment) : Frail :=
  let (_, g) := s.guarded.dispatch ops
  { system := { s.system with world := g.world }, poisoned := g.poisoned }

/-- The state after an event. Nothing is received while the lock is poisoned. -/
def step (s : Frail) : Event → Frail
  | .call who cancelled => s.call who cancelled
  | .disturb (.dispatch ops) => s.disturbWith ops
  | .take w => if s.poisoned then s else { s with system := s.system.take w }
  | .disturb (.receive queue) =>
    if s.poisoned then s else { s with system := s.system.step (.disturb (.receive queue)) }
  | e => { s with system := s.system.step e }

/-- The state after a list of events. -/
def run (s : Frail) (events : List Event) : Frail := events.foldl step s

/-- The operations that an event hands over. -/
def handsOver? (s : Frail) : Event → Option (List Shipment)
  | .call who cancelled =>
    (s.system.tasks[who]?.bind (Task.turn? who)).bind (·.call.handsOver? cancelled)
  | .disturb (.dispatch ops) => some ops
  | _ => none

/-- An event makes a dispatch panic: neither poisoned before nor rejected, it has come to an
operation whose delay is longer than the time that is left. -/
def Panics (s : Frail) (e : Event) : Prop :=
  s.poisoned = false ∧ s.system.world.transport.rejection = none ∧
    ∃ ops op, s.handsOver? e = some ops ∧ op ∈ ops ∧
      s.system.world.transport.horizon - s.system.world.clock.elapsed < op.delay.getD 0

/-- The states that a run of admissible events leads to. -/
def Leads (admissible : System → Event → Prop) : Frail → Frail → Prop :=
  Relation.ReflTransGen fun s s' => ∃ e, admissible s.system e ∧ s' = s.step e

variable {s s' : Frail} {e : Event}

/-! ### Until a dispatch panics -/

/-- A transport panics when it has not been told to reject and one of the delays does not fit. -/
theorem panics_transport_iff {t : Transport} {now : Nat} {ops : List Shipment} :
    t.panics now ops = true ↔
      t.rejection = none ∧ ∃ op ∈ ops, t.horizon - now < op.delay.getD 0 := by
  simp [Transport.panics, Transport.fits]

/-- On a sound lock an event panics when the transport does with the operations that it hands
over. -/
theorem panics_iff (hsound : s.poisoned = false) :
    s.Panics e ↔ ∃ ops, s.handsOver? e = some ops ∧
      s.system.world.transport.panics s.system.world.clock.elapsed ops = true := by
  constructor
  · rintro ⟨-, hnone, ops, op, hops, hop, hlate⟩
    exact ⟨ops, hops, panics_transport_iff.2 ⟨hnone, op, hop, hlate⟩⟩
  · rintro ⟨ops, hops, htransport⟩
    obtain ⟨hnone, op, hop, hlate⟩ := panics_transport_iff.1 htransport
    exact ⟨hsound, hnone, ops, op, hops, hop, hlate⟩

/-- An event that hands nothing over panics nobody. -/
theorem not_panics_of_handsOver? (h : s.handsOver? e = none) : ¬ s.Panics e := by
  rintro ⟨-, -, ops, op, hops, -⟩
  rw [h] at hops
  cases hops

/-- As long as the lock is sound, a call is one of the system, or it panics and poisons the lock. -/
theorem call_of_sound (hsound : s.poisoned = false) (who : Nat) (cancelled : Bool) :
    s.call who cancelled = { system := s.system.call who cancelled } ∧
        ¬ s.Panics (.call who cancelled) ∨
      (s.call who cancelled).poisoned = true ∧ s.Panics (.call who cancelled) := by
  obtain ⟨system, poisoned⟩ := s
  obtain rfl : poisoned = false := hsound
  cases hturn : system.tasks[who]?.bind (Task.turn? who) with
  -- where nobody has a turn, nothing is called and nobody panics
  | none =>
    refine .inl ⟨?_, not_panics_of_handsOver? ?_⟩
    · simp only [call, hturn, System.call_of_none hturn]
    · simp [handsOver?, hturn]
  | some turn =>
    have hiff : (Frail.mk system false).Panics (.call who cancelled) ↔
        system.world.panics cancelled turn.call = true := by
      rw [panics_iff rfl, World.panics_eq_true_iff]
      simp only [handsOver?, hturn, Option.bind_some]
    cases hpanics : system.world.panics cancelled turn.call with
    -- a call that does not panic is answered as in the system
    | false =>
      refine .inl ⟨?_, fun h => Bool.eq_false_iff.1 hpanics (hiff.1 h)⟩
      simp only [call, hturn, System.call_of_turn hturn,
        Guarded.answer?_of_quiet (g := guarded ⟨system, false⟩) rfl hpanics]
      rfl
    -- the call would hand an operation over that the clock has no room for
    | true =>
      obtain ⟨hreply, hpoisoned⟩ :=
        Guarded.answer?_of_panics (g := guarded ⟨system, false⟩) rfl hpanics
      refine .inr ⟨?_, hiff.2 hpanics⟩
      unfold call
      simp only [hturn]
      -- the reply is missing, so the task is gone, and what is left is the poisoned transport
      split
      · next reply g heq =>
        rw [heq] at hreply
        cases hreply
      · next g heq =>
        rw [heq] at hpoisoned
        exact hpoisoned

/-- As long as the lock is sound, operations from outside are handed over as in the system, or the
dispatch panics and poisons the lock. -/
theorem disturbWith_of_sound (hsound : s.poisoned = false) (ops : List Shipment) :
    s.disturbWith ops = { system := s.system.step (.disturb (.dispatch ops)) } ∧
        ¬ s.Panics (.disturb (.dispatch ops)) ∨
      (s.disturbWith ops).poisoned = true ∧ s.Panics (.disturb (.dispatch ops)) := by
  obtain ⟨system, poisoned⟩ := s
  obtain rfl : poisoned = false := hsound
  have hiff : (Frail.mk system false).Panics (.disturb (.dispatch ops)) ↔
      system.world.transport.panics system.world.clock.elapsed ops = true := by
    rw [panics_iff rfl]
    simp [handsOver?]
  -- the same two cases for a dispatch by a bystander
  cases hpanics : system.world.transport.panics system.world.clock.elapsed ops with
  | false =>
    refine .inl ⟨?_, fun h => Bool.eq_false_iff.1 hpanics (hiff.1 h)⟩
    simp [disturbWith, Guarded.dispatch, guarded, hpanics, System.step, World.disturb]
  | true =>
    refine .inr ⟨?_, hiff.2 hpanics⟩
    simp [disturbWith, Guarded.dispatch, guarded, hpanics]

/-- As long as the lock is sound an event is one of the system, unless it is a dispatch that
panics, and that poisons the lock. -/
theorem step_of_sound (hsound : s.poisoned = false) (e : Event) :
    s.step e = { system := s.system.step e } ∧ ¬ s.Panics e ∨
      (s.step e).poisoned = true ∧ s.Panics e := by
  have hquiet : s.step e = { s with system := s.system.step e } → s.handsOver? e = none →
      s.step e = { system := s.system.step e } ∧ ¬ s.Panics e := fun hstep hnone =>
    ⟨by rw [hstep, hsound], not_panics_of_handsOver? hnone⟩
  -- only calls, takes and dispatches look at the lock; with it sound they are those of the system
  cases e with
  | call who cancelled => exact call_of_sound hsound who cancelled
  | take w => exact .inl (hquiet (if_neg (Bool.eq_false_iff.1 hsound)) rfl)
  | disturb d =>
    cases d with
    | dispatch ops => exact disturbWith_of_sound hsound ops
    | receive queue => exact .inl (hquiet (if_neg (Bool.eq_false_iff.1 hsound)) rfl)
    | _ => exact .inl (hquiet rfl rfl)
  | _ => exact .inl (hquiet rfl rfl)

/-- A poisoned lock stays poisoned. -/
theorem poisoned_step (hpoisoned : s.poisoned = true) (e : Event) :
    (s.step e).poisoned = true := by
  cases e with
  | call who cancelled =>
    simp only [step, call]
    split
    -- without a turn nothing happens
    · exact hpoisoned
    · next turn hturn =>
      have hstays := Guarded.poisoned_answer? (g := s.guarded) hpoisoned cancelled turn.call
      -- the guarded call ends with a poisoned lock, with a reply or without one
      split <;> simpa [*] using hstays
  | take w => simp [step, hpoisoned]
  | disturb d =>
    cases d with
    | dispatch ops => simp [step, disturbWith, Guarded.dispatch, guarded, hpoisoned]
    | receive queue => simp [step, hpoisoned]
    | _ => exact hpoisoned
  | _ => exact hpoisoned

variable {admissible : System → Event → Prop} {s₀ : Frail}

/-- A run can be continued by an admissible event. -/
theorem Leads.step (h : Leads admissible s₀ s) (he : admissible s.system e) :
    Leads admissible s₀ (s.step e) :=
  h.tail ⟨e, he, rfl⟩

/-- A run leaves the lock sound, and then it is one of the system, or one of its dispatches has
panicked. -/
theorem Leads.sound_or_panicked (h : Leads admissible s₀ s) (hsound : s₀.poisoned = false) :
    s.poisoned = false ∧ Reaches admissible s₀.system s.system ∨
      ∃ t e, Leads admissible s₀ t ∧ admissible t.system e ∧ t.Panics e ∧
        Leads admissible (t.step e) s := by
  -- on the events: the first one that panics splits the run in two
  induction h with
  | refl => exact .inl ⟨hsound, .start⟩
  | @tail t u hlead hstep ih =>
    obtain ⟨e, he, rfl⟩ := hstep
    rcases ih with ⟨hsound, hreaches⟩ | ⟨t', e', hbefore, he', hpanics, hafter⟩
    -- the lock is sound, so the event is one of the system, or it is the one that panics
    · rcases step_of_sound hsound e with ⟨heq, -⟩ | ⟨-, hpanics⟩
      · rw [heq]
        exact .inl ⟨rfl, .next hreaches he⟩
      · exact .inr ⟨t, e, hlead, he, hpanics, .refl⟩
    · exact .inr ⟨t', e', hbefore, he', hpanics, hafter.step he⟩

/-- A lock that is poisoned at the start of a run is poisoned at its end. -/
theorem Leads.poisoned (h : Leads admissible s₀ s) (hpoisoned : s₀.poisoned = true) :
    s.poisoned = true := by
  induction h with
  | refl => exact hpoisoned
  | tail _ hstep ih =>
    obtain ⟨e, -, rfl⟩ := hstep
    exact poisoned_step ih e

/-- For every interleaving: as long as the record of a session is not dispatched, a control message
of the session waits in the processor queue, is being delivered, or is in the error queue, or else a
dispatch has panicked on a delay that is longer than the time that is left. -/
theorem orphaned_by_panic_only {store queue : String} {least : Int} (hfresh : s₀.system.Fresh)
    (hsound : s₀.poisoned = false) (hclock : s₀.system.world.clock.now.InWindow least)
    (h : Leads (OnQueue store queue least) s₀ s) {id : String} {r : Record}
    (hr : s.system.world.record? store id = some r) (hd : r.isDispatched = false) :
    s.system.Traceable queue id ∨
      s.poisoned = true ∧ ∃ t e, Leads (OnQueue store queue least) s₀ t ∧
        OnQueue store queue least t.system e ∧ t.Panics e ∧
        Leads (OnQueue store queue least) (t.step e) s := by
  -- the run is one of the system, for which the message can be traced, or a dispatch has panicked
  rcases h.sound_or_panicked hsound with ⟨-, hreaches⟩ | ⟨t, e, hbefore, he, hpanics, hafter⟩
  · exact .inl (System.undispatched_traceable hfresh hclock hreaches hr hd)
  · refine .inr ⟨?_, t, e, hbefore, he, hpanics, hafter⟩
    rcases step_of_sound hpanics.1 e with ⟨-, hquiet⟩ | ⟨hpoisoned, -⟩
    · exact absurd hpanics hquiet
    · exact hafter.poisoned hpoisoned

/-- A list of events leads to a state, when each event is admissible in the states with a property
that all states before it have. -/
theorem leads_run {P : System → Prop} (events : List Event)
    (h : ∀ s, P s → ∀ e ∈ events, admissible s e)
    (hP : ∀ n < events.length, P (s.run (events.take n)).system) :
    Leads admissible s (s.run events) := by
  induction events generalizing s with
  | nil => exact .refl
  | cons e rest ih =>
    have hfirst : admissible s.system e :=
      h s.system (hP 0 (Nat.zero_lt_succ _)) e List.mem_cons_self
    refine .head ⟨e, hfirst, rfl⟩ (ih (fun t ht e' he' => h t ht e' (List.mem_cons_of_mem _ he')) ?_)
    exact fun n hn => hP (n + 1) (Nat.succ_lt_succ hn)

/-- A session sends a message with the greatest delay that there is and commits, and a worker that
has taken its control message has looked the record up. -/
def aboutToPanic : List Event :=
  [.create "db" {} "processor", .request 0 (.openWith { sessionId := some "a" })] ++
    List.replicate 3 (.call 0 false) ++
    [.request 0 (.send { messageType := "greeting" }
      { destination := some "inbox", delay := some (18446744073709551616 * 1000000000 - 1) })] ++
    List.replicate 3 (.call 0 false) ++ [.request 0 .commit] ++ List.replicate 7 (.call 0 false) ++
    [.take { receiver := { store := "db", address := "processor" } }, .call 1 false]

/-- Every event of the session and the worker is admissible, while nothing is to be rejected. -/
theorem onQueue_aboutToPanic {s : System} (hopen : s.world.transport.rejection = none) {e : Event}
    (he : e ∈ aboutToPanic) : OnQueue "db" "processor" 0 s e := by
  -- the events of the list in turn: the session is created, opens, sends and commits, and the
  -- worker takes the message
  simp only [aboutToPanic, List.mem_append, List.mem_cons, List.mem_replicate, List.not_mem_nil,
    or_false] at he
  rcases he with
    ((((((rfl | rfl) | ⟨-, rfl⟩) | rfl) | ⟨-, rfl⟩) | rfl) | ⟨-, rfl⟩) | rfl | rfl
  · exact ⟨rfl, rfl⟩
  · rintro opening ⟨⟩
    exact ⟨by decide, by decide⟩
  · exact fun _ => hopen
  · rintro opening ⟨⟩
  · exact fun _ => hopen
  · rintro opening ⟨⟩
  · exact fun _ => hopen
  · exact ⟨rfl, rfl⟩
  · exact fun _ => hopen

set_option maxRecDepth 10000 in
/-- The session and the worker run as far as the look-up. -/
theorem leads_aboutToPanic : Leads (OnQueue "db" "processor" 0) ⟨System.untouched, false⟩
    (run ⟨System.untouched, false⟩ aboutToPanic) := by
  refine leads_run (P := (·.world.transport.rejection = none)) aboutToPanic
    (fun s hs e he => onQueue_aboutToPanic hs he) ?_
  decide +kernel

set_option maxRecDepth 10000 in
/-- Between the commit and the panic the record waits, and it can still be traced: its control
message has been taken, and the worker has yet to act on it. -/
theorem orphaned_by_panic_only_aboutToPanic :
    let s := run ⟨System.untouched, false⟩ aboutToPanic
    (∃ r, s.system.world.record? "db" "a" = some r ∧ r.isDispatched = false) ∧
    s.system.Traceable "processor" "a" := by
  have hclock : System.untouched.world.clock.now.InWindow 0 :=
    ⟨by decide +kernel, by decide +kernel, by decide +kernel⟩
  have hwaits : ((run ⟨System.untouched, false⟩ aboutToPanic).system.world.record? "db" "a").any
      (!·.isDispatched) = true := by
    decide +kernel
  have hsound : (run ⟨System.untouched, false⟩ aboutToPanic).poisoned = false := by
    decide +kernel
  -- the record waits, the lock is sound, so the theorem leaves only the trace
  obtain ⟨r, hr, hd⟩ := (Option.any_eq_true _ _).1 hwaits
  rw [Bool.not_eq_true'] at hd
  refine ⟨⟨r, hr, hd⟩, ?_⟩
  have hfresh : (Frail.mk System.untouched false).system.Fresh := System.fresh_untouched
  have hstart : (Frail.mk System.untouched false).poisoned = false := rfl
  rcases orphaned_by_panic_only hfresh hstart hclock leads_aboutToPanic hr hd with
    htraceable | ⟨hpoisoned, -⟩
  · exact htraceable
  · exact absurd hpoisoned (Bool.eq_false_iff.1 hsound)

set_option maxRecDepth 10000 in
/-- The dispatch of the record panics. Nothing waits, nothing is being delivered and nothing has been
put aside, and the record is not dispatched. -/
theorem orphaned_greatestDelay :
    let s := (run ⟨System.untouched, false⟩ aboutToPanic).step (.call 1 false)
    Leads (OnQueue "db" "processor" 0) ⟨System.untouched, false⟩ s ∧
    (∃ r, s.system.world.record? "db" "a" = some r ∧ r.isDispatched = false) ∧
    ¬ s.system.Traceable "processor" "a" := by
  -- one more event than in the run before the panic
  have hopen : (run ⟨System.untouched, false⟩ aboutToPanic).system.world.transport.rejection =
      none := by
    decide +kernel
  have hlast : Event.call 1 false ∈ aboutToPanic :=
    List.mem_append_right _ (List.mem_cons_of_mem _ (List.mem_singleton_self _))
  have hleads : Leads (OnQueue "db" "processor" 0) ⟨System.untouched, false⟩
      ((run ⟨System.untouched, false⟩ aboutToPanic).step (.call 1 false)) :=
    leads_aboutToPanic.step (onQueue_aboutToPanic hopen hlast)
  have hwaits : (((run ⟨System.untouched, false⟩ aboutToPanic).step
      (.call 1 false)).system.world.record? "db" "a").any (!·.isDispatched) = true := by
    decide +kernel
  have hempty : ((run ⟨System.untouched, false⟩ aboutToPanic).step
      (.call 1 false)).system.world.transport.pending "processor" = [] := by
    decide +kernel
  have hnobody : ∀ t ∈ ((run ⟨System.untouched, false⟩ aboutToPanic).step
      (.call 1 false)).system.tasks, t.message?.isNone = true := by
    have hall : (((run ⟨System.untouched, false⟩ aboutToPanic).step
        (.call 1 false)).system.tasks.all (·.message?.isNone)) = true := by
      decide +kernel
    exact List.all_eq_true.1 hall
  obtain ⟨r, hr, hd⟩ := (Option.any_eq_true _ _).1 hwaits
  rw [Bool.not_eq_true'] at hd
  -- there is no message in the queue and no task with a message, so there is no trace
  refine ⟨hleads, ⟨r, hr, hd⟩, fun htraceable => ?_⟩
  cases htraceable with
  | waiting m hm =>
    rw [hempty] at hm
    cases hm
  | held i worker m c next ht =>
    have hnone := hnobody _ (List.mem_of_getElem? ht)
    cases hnone
  | putAside i worker m e result ht =>
    have hnone := hnobody _ (List.mem_of_getElem? ht)
    cases hnone

end Frail

end Outbox
