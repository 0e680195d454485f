import Mathlib.Data.List.Perm.Basic
import Mathlib.Logic.Function.Iterate
import Outbox.Proofs.Service
import Outbox.Proofs.Telling.Retries

/-!
# A worker that is told to stop

A shift is the run of a worker from its start until it stops. The signal to stop may come at any
instant: while a receive waits, right after it has taken a message off the queue, or in the middle
of a delivery, and from then on every call is answered as for a caller who has cancelled. Meanwhile
others do to the world what they like, between any two calls of the worker; of its queue they can
only put messages at the end, or take some out.

Beside the worker stands the account of its queue: what has arrived, what the worker has taken and
what has gone elsewhere. A delivery is made call by call, and the account says at every moment
where each message is.

* `Moves`                    what can happen next, the signal to stop included
* `Steady.moves`             a worker stops only when told to, and never amid a delivery
* `Tallies.moves`            the counts agree with the deliveries that have come to their end
* `Faithful.moves`           a delivery is made to its end, whatever happens meanwhile
* `Balanced.moves`           the account of the queue stays balanced
* `next_iterate_eq_step`     left alone, the worker makes the steps of `Worker.step`
* `accounted_and_stopped_between_deliveries`  what holds at every moment of a shift
-/

namespace Outbox

open Program

/-! ### Shifts -/

namespace Served

/-- Whether the delivery has told that it was replaced. -/
def retryTold (d : Served) : Bool := Outbox.retryTold (d.acts.flatMap Act.told)

/-- The acts are all those of a delivery, from its start to its end. -/
def Complete (others : World → World → Prop) (w : Worker) (d : Served) : Prop :=
  ∃ v v', (w.deliver d.message).Amid (fun _ => others) [] v d.acts d.result v'

end Served

/-- A delivery under way: what it has done so far, and what is left of it. -/
structure Delivery : Type 1 where
  message : Message
  acts : List Act := []
  rest : Program (Except DeliveryError Disposition)

/-- A worker at some moment of its run, with the account of its queue. -/
structure Shift : Type 1 where
  worker : Worker
  world : World
  /-- Whether it has been told to stop. -/
  signalled : Bool := false
  /-- The delivery that it is making. -/
  busy : Option Delivery := none
  /-- The deliveries that have come to their end. -/
  served : List Served := []
  /-- What has been put at the end of the queue since the start. -/
  arrived : List QueuedMessage := []
  /-- What the worker has taken off the queue. -/
  taken : List QueuedMessage := []
  /-- What others have taken out of the queue. -/
  elsewhere : List QueuedMessage := []

namespace Shift

/-- The start of a worker. -/
def begin (w : Worker) (world : World) : Shift where
  worker := { w with tally := {}, phase := .listening }
  world := world

/-- What waits for the worker. -/
def queue (s : Shift) : List QueuedMessage := s.world.transport.queue s.worker.receiver.address

/-- The message that the worker would take now. -/
def first? (s : Shift) : Option QueuedMessage :=
  s.queue.find? fun e => e.dueAt ≤ s.world.clock.elapsed

/-- The world has become another one, and what is new in the queue has arrived. -/
def see (s : Shift) (v : World) : Shift :=
  { s with
    world := v
    arrived := s.arrived ++
      (v.transport.queue s.worker.receiver.address).drop s.queue.length }

/-- What the worker does next: the next call of its delivery, the end of it, or, between
deliveries, to take a message or do without one. Once it has been told to stop, its calls are those
of a caller who has cancelled. -/
def next (s : Shift) : Shift :=
  match s.busy with
  | some d =>
    match d.rest with
    | .done result =>
      { s with
        worker := s.worker.delivered result
        busy := none
        served := s.served ++ [⟨d.message, d.acts, result⟩] }
    | .call c rest =>
      { s.see (World.answer s.signalled c s.world).2 with
        busy := some { d with
          acts := d.acts ++ [⟨c, s.world⟩]
          rest := rest (World.answer s.signalled c s.world).1 } }
  | none =>
    match s.worker.taken? s.world with
    | some (m, v) =>
      { s with
        world := v
        busy := some { message := m, rest := s.worker.deliver m }
        taken := s.taken ++ s.first?.toList }
    | none => { s with worker := (s.worker.step s.world).1 }

/-- What can happen next. The signal to stop may come at any instant; it is heeded when no delivery
is under way, and not necessarily at once. -/
inductive Moves (s : Shift) : Shift → Prop
  | next : Moves s s.next
  /-- Others change the world, and put messages at the end of the queue. -/
  | arrive {v : World} : s.queue <+: v.transport.queue s.worker.receiver.address →
      Moves s (s.see v)
  /-- Others change the world, and take messages out of the queue. -/
  | depart {v : World} {gone : List QueuedMessage} :
      (v.transport.queue s.worker.receiver.address).Sublist s.queue →
      s.queue.Perm (gone ++ v.transport.queue s.worker.receiver.address) →
      Moves s { s with world := v, elsewhere := s.elsewhere ++ gone }
  | wake : Moves s { s with worker := s.worker.wake }
  /-- The next receives of the listener are to fail. -/
  | fail (receives : Nat) : Moves s { s with worker.failingReceives := receives }
  | signal : Moves s { s with signalled := true }
  | heed : s.signalled = true → s.busy = none → Moves s { s with worker := s.worker.stop }

/-- What can happen in any number of moves. -/
def Reaches : Shift → Shift → Prop := Relation.ReflTransGen Moves

/-- What others do to the world between two calls of a delivery. -/
def Meddling (name : String) (v v' : World) : Prop :=
  v.transport.queue name <+: v'.transport.queue name ∨
    (v'.transport.queue name).Sublist (v.transport.queue name)

variable {s s' : Shift} {w : Worker} {world : World}

/-- What the worker does next, by what it is doing. -/
theorem next_cases (s : Shift) :
    (∃ d result, s.busy = some d ∧ d.rest = .done result ∧ s.next =
      { s with
        worker := s.worker.delivered result
        busy := none
        served := s.served ++ [⟨d.message, d.acts, result⟩] }) ∨
    (∃ d, ∃ (β : Type) (c : Call β) (rest : β → Program (Except DeliveryError Disposition)),
      s.busy = some d ∧ d.rest = .call c rest ∧ s.next =
        { s.see (World.answer s.signalled c s.world).2 with
          busy := some { d with
            acts := d.acts ++ [⟨c, s.world⟩]
            rest := rest (World.answer s.signalled c s.world).1 } }) ∨
    (∃ m v, s.busy = none ∧ s.worker.taken? s.world = some (m, v) ∧ s.next =
      { s with
        world := v
        busy := some { message := m, rest := s.worker.deliver m }
        taken := s.taken ++ s.first?.toList }) ∨
    (s.busy = none ∧ s.worker.taken? s.world = none ∧
      s.next = { s with worker := (s.worker.step s.world).1 }) := by
  unfold next
  -- the four cases follow `next`: its delivery is over, a call of it is left, a message is due,
  -- none is due
  cases hbusy : s.busy with
  | some d =>
    cases hrest : d.rest with
    | done result => exact .inl ⟨d, result, rfl, hrest, by simp only [hrest]⟩
    | call c rest => exact .inr (.inl ⟨d, _, c, rest, rfl, hrest, by simp only [hrest]⟩)
  | none =>
    cases htaken : s.worker.taken? s.world with
    | some taken => exact .inr (.inr (.inl ⟨taken.1, taken.2, rfl, rfl, rfl⟩))
    | none => exact .inr (.inr (.inr ⟨rfl, rfl, rfl⟩))

/-! ### When a worker stops -/

/-- A message is taken in the middle of a receive. -/
theorem looking_of_taken? {taken : Message × World} (h : w.taken? world = some taken) :
    ∃ deadline, w.phase = .looking deadline := by
  unfold Worker.taken? at h
  split at h
  · next deadline hphase => exact ⟨deadline, hphase⟩
  all_goals exact nomatch h

/-- No step stops a worker. -/
theorem phase_ne_stopped_of_step (h : (w.step world).1.phase = .stopped) : w.phase = .stopped := by
  unfold Worker.step at h
  split at h
  · unfold Worker.listen at h
    split at h <;> exact nomatch h
  · unfold Worker.look at h
    split at h <;> exact nomatch h
  all_goals exact h

/-- Waking never stops a worker. -/
theorem woken_eq_stopped {phase : Worker.Phase} (h : phase.woken = .stopped) :
    phase = .stopped := by
  cases phase with
  | stopped => rfl
  | listening | looking _ | waiting _ _ | pausing _ => exact nomatch h

/-- A worker keeps its queues, it makes a delivery in the middle of a receive, and it has not
stopped before it was told to. -/
structure Steady (w : Worker) (s : Shift) : Prop where
  receiver : s.worker.receiver = w.receiver
  errorQueue : s.worker.errorQueue = w.errorQueue
  looking : s.busy ≠ none → ∃ deadline, s.worker.phase = .looking deadline
  stopped : s.worker.phase = .stopped → s.signalled = true

/-- What the worker starts from is its own address, its own error queue and a look at the queue. -/
theorem steady_begin (w : Worker) (world : World) : (begin w world).Steady w where
  receiver := rfl
  errorQueue := rfl
  looking hbusy := absurd rfl hbusy
  stopped := nofun

/-- One step of the worker changes neither its address nor its error queue. -/
theorem Steady.next (h : s.Steady w) : s.next.Steady w := by
  -- the worker has stopped looking when the delivery has come to its end
  obtain ⟨d, result, -, -, hnext⟩ | ⟨d, _, c, rest, hbusy, -, hnext⟩ |
    ⟨m, v, -, htaken, hnext⟩ | ⟨hbusy, htaken, hnext⟩ := next_cases s
  -- the delivery ends, and the worker is between two deliveries
  · rw [hnext]
    exact ⟨h.receiver, h.errorQueue, fun hbusy => absurd rfl hbusy, nofun⟩
  -- a call of the delivery is answered, and the worker stands where it stood
  · have hlooking := h.looking (by simp [hbusy])
    rw [hnext]
    exact ⟨h.receiver, h.errorQueue, fun _ => hlooking, h.stopped⟩
  -- a message is taken, so the worker was looking at its queue
  · have hlooking := looking_of_taken? htaken
    rw [hnext]
    exact ⟨h.receiver, h.errorQueue, fun _ => hlooking, h.stopped⟩
  · obtain ⟨-, hreceiver, herror, -⟩ := Worker.step_of_taken?_eq_none htaken
    rw [hnext]
    exact ⟨hreceiver.trans h.receiver, herror.trans h.errorQueue, fun hb => absurd hbusy hb,
      fun hphase => h.stopped (phase_ne_stopped_of_step hphase)⟩

/-- No move changes the address or the error queue, and only a heeded signal stops the worker. -/
theorem Steady.moves (h : s.Steady w) (hmove : s.Moves s') : s'.Steady w := by
  cases hmove with
  | next => exact h.next
  | arrive _ | depart _ _ | fail _ => exact ⟨h.receiver, h.errorQueue, h.looking, h.stopped⟩
  | signal => exact ⟨h.receiver, h.errorQueue, h.looking, fun _ => rfl⟩
  | heed hsignalled hbusy =>
    exact ⟨h.receiver, h.errorQueue, fun hb => absurd hbusy hb, fun _ => hsignalled⟩
  | wake =>
    refine ⟨h.receiver, h.errorQueue, fun hbusy => ?_, fun hphase => ?_⟩
    · obtain ⟨deadline, hlooking⟩ := h.looking hbusy
      exact ⟨deadline, congrArg Worker.Phase.woken hlooking⟩
    · exact h.stopped (woken_eq_stopped hphase)

/-- What has been counted is what was done, under one heading each, and every message has come with
a receive of its own. -/
structure Tallies (s : Shift) : Prop where
  counts : Worker.Counts s.served s.worker.tally
  headings : s.worker.tally.handled =
    s.worker.tally.completed + s.worker.tally.retried + s.worker.tally.failed
  receives : s.worker.tally.handled ≤ s.worker.tally.polls

/-- One step keeps the tallies: an ended delivery is counted under one heading, a call and a taken
message under none, and a look at the queue is a poll. -/
theorem Tallies.next (h : s.Tallies) : s.next.Tallies := by
  obtain ⟨d, result, -, -, hnext⟩ | ⟨d, _, c, rest, -, -, hnext⟩ |
    ⟨m, v, -, -, hnext⟩ | ⟨-, htaken, hnext⟩ := next_cases s
  -- the looks at the queue stay ahead of the deliveries, since the one that ended came of a look
  · have hreceives :
        (s.worker.tally.count result).handled ≤ (s.worker.tally.count result).polls := by
      have hle := h.receives
      unfold Tally.count
      split <;> simp only <;> omega
    rw [hnext]
    exact ⟨h.counts.count _, s.worker.tally.handled_count result h.headings, hreceives⟩
  · rw [hnext]
    exact ⟨h.counts, h.headings, h.receives⟩
  · rw [hnext]
    exact ⟨h.counts, h.headings, h.receives⟩
  -- nothing is due: the worker has either looked once more or changed its phase only
  · obtain ⟨-, -, -, heq | heq⟩ := Worker.step_of_taken?_eq_none htaken
    · rw [hnext]
      exact ⟨heq ▸ h.counts, heq ▸ h.headings, heq ▸ h.receives⟩
    · rw [hnext]
      have hcounts : Worker.Counts s.served s.worker.tally.countPoll :=
        ⟨h.counts.handled, h.counts.completed, h.counts.retried, h.counts.failed⟩
      exact ⟨heq ▸ hcounts, heq ▸ h.headings, heq ▸ Nat.le_succ_of_le h.receives⟩

/-- What is not the worker's own step leaves its tallies alone. -/
theorem Tallies.moves (h : s.Tallies) (hmove : s.Moves s') : s'.Tallies := by
  cases hmove with
  | next => exact h.next
  | arrive _ | depart _ _ | wake | fail _ | signal | heed _ _ =>
    exact ⟨h.counts, h.headings, h.receives⟩

/-! ### To the end of a delivery -/

/-- A delivery reads the receiver and the error queue of a worker and nothing else of it. -/
theorem deliver_congr {w' : Worker} (hreceiver : w'.receiver = w.receiver)
    (herror : w'.errorQueue = w.errorQueue) (m : Message) : w'.deliver m = w.deliver m := by
  simp only [Worker.deliver, hreceiver, Worker.forwarded_congr hreceiver herror]

/-- No call of what is left of a delivery looks at the token, and what the delivery has done so far
and whatever comes of the rest are together a complete delivery. -/
structure Continues (w : Worker) (d : Delivery) (now : World) : Prop where
  heedless : d.rest.Obeys (fun c => c.heedsToken = false) fun _ => True
  completes : ∃ v, ∀ later result v',
    d.rest.Amid (fun _ => Meddling w.receiver.address) d.acts now later result v' →
      (w.deliver d.message).Amid (fun _ => Meddling w.receiver.address) [] v (d.acts ++ later)
        result v'

section

variable {d : Delivery} {now : World}

/-- A delivery that has just begun. -/
theorem continues_deliver {w' : Worker} (hreceiver : w'.receiver = w.receiver)
    (herror : w'.errorQueue = w.errorQueue) (m : Message) (v : World) :
    Continues w { message := m, rest := w'.deliver m } v := by
  constructor
  · exact (tells_deliver w').heedless
  · refine ⟨v, fun later result v' hlater => ?_⟩
    rw [deliver_congr hreceiver herror] at hlater
    exact hlater

/-- A call that does not look at the token is answered alike whether the signal has come or not. -/
theorem Continues.call {β : Type} {c : Call β}
    {rest : β → Program (Except DeliveryError Disposition)} (h : Continues w d now)
    (hrest : d.rest = .call c rest) (signalled : Bool) :
    Continues w
      { d with
        acts := d.acts ++ [⟨c, now⟩]
        rest := rest (World.answer signalled c now).1 } (World.answer signalled c now).2 := by
  obtain ⟨hheedless, v, hv⟩ := h
  rw [hrest] at hheedless hv
  rw [World.answer_of_heedless hheedless.1]
  refine ⟨hheedless.2 _, v, fun later result v' hlater => ?_⟩
  have hall := hv _ result v' (.call .refl hlater)
  rwa [List.append_cons] at hall

/-- A delivery of which nothing is left is complete. -/
theorem Continues.complete {result : Except DeliveryError Disposition} (h : Continues w d now)
    (hrest : d.rest = .done result) :
    Served.Complete (Meddling w.receiver.address) w ⟨d.message, d.acts, result⟩ := by
  obtain ⟨-, v, hv⟩ := h
  rw [hrest] at hv
  have hall := hv [] result now (.done .refl)
  rw [List.append_nil] at hall
  exact ⟨v, now, hall⟩

/-- A delivery goes on in the world that others have made. -/
theorem Continues.meddle {v : World} (h : Continues w d now)
    (hmeddle : Meddling w.receiver.address now v) : Continues w d v := by
  obtain ⟨hheedless, v₀, hv₀⟩ := h
  refine ⟨hheedless, v₀, fun later result v' hlater => ?_⟩
  apply hv₀
  exact hlater.earlier (.single hmeddle)

end

/-- Deliveries are made to their end: those that were made are complete, and the one under way goes
on. -/
structure Faithful (w : Worker) (s : Shift) : Prop where
  served : ∀ d ∈ s.served, d.Complete (Meddling w.receiver.address) w
  busy : ∀ d, s.busy = some d → Continues w d s.world

/-- One step keeps every delivery faithful: one that ends has run as the worker delivers, one that
goes on has run so thus far. -/
theorem Faithful.next (hsteady : s.Steady w) (h : s.Faithful w) : s.next.Faithful w := by
  obtain ⟨d, result, hbusy, hrest, hnext⟩ | ⟨d, _, c, rest, hbusy, hrest, hnext⟩ |
    ⟨m, v, -, -, hnext⟩ | ⟨hbusy, -, hnext⟩ := next_cases s
  · have hcomplete := (h.busy d hbusy).complete hrest
    rw [hnext]
    -- the delivery that ended joins those that were served
    exact ⟨List.forall_mem_append.2 ⟨h.served, List.forall_mem_singleton.2 hcomplete⟩, nofun⟩
  · rw [hnext]
    refine ⟨h.served, fun d' hd' => ?_⟩
    obtain rfl := Option.some.inj hd'
    exact (h.busy d hbusy).call hrest s.signalled
  -- what begins now has no call behind it
  · rw [hnext]
    refine ⟨h.served, fun d' hd' => ?_⟩
    obtain rfl := Option.some.inj hd'
    exact continues_deliver hsteady.receiver hsteady.errorQueue m v
  · rw [hnext]
    exact ⟨h.served, fun d hd => nomatch hbusy.symm.trans hd⟩

/-- Arrivals, departures and failures between two calls of a delivery are the meddling that it is
read with. -/
theorem Faithful.moves (hsteady : s.Steady w) (h : s.Faithful w) (hmove : s.Moves s') :
    s'.Faithful w := by
  cases hmove with
  | next => exact h.next hsteady
  | arrive hqueue =>
    rw [Shift.queue, hsteady.receiver] at hqueue
    exact ⟨h.served, fun d hbusy => (h.busy d hbusy).meddle (.inl hqueue)⟩
  | depart hqueue _ =>
    rw [Shift.queue, hsteady.receiver] at hqueue
    exact ⟨h.served, fun d hbusy => (h.busy d hbusy).meddle (.inr hqueue)⟩
  | wake | fail _ | signal | heed _ _ => exact ⟨h.served, h.busy⟩

/-! ### The account of the queue -/

/-- The account of the queue is balanced: what was there at the start and what has arrived since
was taken, by the worker or by others, or it waits in its order; and the worker has delivered what
it has taken, or is about to. -/
structure Balanced (w : Worker) (before : List QueuedMessage) (s : Shift) : Prop where
  order : (s.world.transport.queue w.receiver.address).Sublist (before ++ s.arrived)
  all : (before ++ s.arrived).Perm
    (s.taken ++ s.elsewhere ++ s.world.transport.queue w.receiver.address)
  delivered : s.taken.map (·.message) =
    s.served.map (·.message) ++ s.busy.toList.map (·.message)

/-- What the worker takes is the first message that is due, and the others stay as they are. -/
theorem queue_of_taken? {m : Message} {v : World} (h : s.worker.taken? s.world = some (m, v)) :
    ∃ front e back, s.queue = front ++ e :: back ∧ s.first? = some e ∧ e.message = m ∧
      v.transport.queue s.worker.receiver.address = front ++ back := by
  -- `taken?` answers for a worker that looks and finds something due, so the other cases are empty
  unfold Worker.taken? at h
  split at h
  · split at h
    · next hlook =>
      obtain ⟨rfl, rfl⟩ := Prod.mk.inj (Option.some.inj h)
      obtain ⟨front, e, back, hqueue, hm, hdue, hfront, rfl⟩ :=
        Transport.take?_eq_some_iff.1 (Transport.look_eq_received_iff.1 hlook)
      refine ⟨front, e, back, hqueue, ?_, hm, by simp⟩
      unfold first? Shift.queue
      rw [hqueue]
      -- nothing before it is due
      have hnone : front.find? (fun e => e.dueAt ≤ s.world.clock.elapsed) = none := by
        rw [List.find?_eq_none]
        intro x hx
        have hlate := hfront x hx
        simp only [decide_eq_true_eq]
        omega
      simp [List.find?_append, hnone, hdue]
    all_goals exact nomatch h
  all_goals exact nomatch h

/-- New messages at the end of the queue have arrived. -/
theorem Balanced.see {before : List QueuedMessage} {v : World} (hsteady : s.Steady w)
    (h : s.Balanced w before)
    (hv : s.queue <+: v.transport.queue s.worker.receiver.address) :
    (s.see v).Balanced w before := by
  obtain ⟨new, hnew⟩ := hv
  have harrived : (s.see v).arrived = s.arrived ++ new := by
    simp only [Shift.see, ← hnew, List.drop_left]
  have hqueue : (s.see v).world.transport.queue w.receiver.address =
      s.world.transport.queue w.receiver.address ++ new := by
    rw [← hsteady.receiver]
    exact hnew.symm
  -- the arrivals stand at the end of the queue and behind the earlier arrivals alike
  constructor
  · rw [harrived, hqueue, ← List.append_assoc]
    exact h.order.append_right new
  · rw [harrived, hqueue, ← List.append_assoc, ← List.append_assoc]
    exact h.all.append_right new
  · exact h.delivered

/-- A message that the worker takes goes from the queue to its deliveries. -/
theorem Balanced.take {before : List QueuedMessage} {m : Message} {v : World}
    {d : Delivery} (hsteady : s.Steady w) (h : s.Balanced w before) (hbusy : s.busy = none)
    (htaken : s.worker.taken? s.world = some (m, v)) (hd : d.message = m) :
    Balanced w before
      { s with world := v, busy := some d, taken := s.taken ++ s.first?.toList } := by
  obtain ⟨front, e, back, hqueue, hfirst, hm, hv⟩ := queue_of_taken? htaken
  rw [Shift.queue] at hqueue
  rw [hsteady.receiver] at hqueue hv
  obtain ⟨horder, hall, hdelivered⟩ := h
  rw [hqueue] at horder hall
  rw [hbusy] at hdelivered
  constructor
  -- what is left of the queue keeps its order, with one message fewer
  · show (v.transport.queue w.receiver.address).Sublist (before ++ s.arrived)
    rw [hv]
    exact ((List.sublist_cons_self e back).append_left front).trans horder
  · -- it stood between what is left, and now stands behind what was taken before
    have hmove : (s.taken ++ s.elsewhere ++ (front ++ e :: back)).Perm
        (s.taken ++ [e] ++ s.elsewhere ++ (front ++ back)) := by
      simp only [List.append_assoc, List.singleton_append]
      apply List.Perm.append_left
      rw [← List.append_assoc, ← List.append_assoc]
      exact List.perm_middle
    show (before ++ s.arrived).Perm
      (s.taken ++ s.first?.toList ++ s.elsewhere ++ v.transport.queue w.receiver.address)
    rw [hv, hfirst]
    exact hall.trans hmove
  · show (s.taken ++ s.first?.toList).map (·.message) = s.served.map (·.message) ++ [d.message]
    rw [hfirst, List.map_append, hdelivered, hd]
    simp [hm]

/-- One step keeps the balance: a call only adds to the queue, and the message taken goes over to
the deliveries. -/
theorem Balanced.next {before : List QueuedMessage} (hsteady : s.Steady w)
    (h : s.Balanced w before) : s.next.Balanced w before := by
  have hdelivered := h.delivered
  obtain ⟨d, result, hbusy, -, hnext⟩ | ⟨d, _, c, rest, hbusy, -, hnext⟩ |
    ⟨m, v, hbusy, htaken, hnext⟩ | ⟨hbusy, -, hnext⟩ := next_cases s
  -- the message that was busy is now the last one served
  · rw [hnext]
    rw [hbusy] at hdelivered
    exact ⟨h.order, h.all, by simpa using hdelivered⟩
  · -- no call takes a message out of the queue
    have hprefix := queue_prefix_answer s.signalled c s.world s.worker.receiver.address
    have hsee := h.see hsteady hprefix
    rw [hnext]
    rw [hbusy] at hdelivered
    exact ⟨hsee.order, hsee.all, hdelivered⟩
  · rw [hnext]
    exact h.take hsteady hbusy htaken rfl
  · rw [hnext]
    exact ⟨h.order, h.all, hdelivered⟩

/-- Arrivals and departures keep the balance as well: what others take is counted as gone
elsewhere. -/
theorem Balanced.moves {before : List QueuedMessage} (hsteady : s.Steady w)
    (h : s.Balanced w before) (hmove : s.Moves s') : s'.Balanced w before := by
  cases hmove with
  | next => exact h.next hsteady
  | arrive hqueue => exact h.see hsteady hqueue
  | @depart v gone hqueue hgone =>
    -- what departs is counted elsewhere, and the queue keeps the order of what stays
    rw [Shift.queue, hsteady.receiver] at hqueue hgone
    have hall : (before ++ s.arrived).Perm
        (s.taken ++ (s.elsewhere ++ gone) ++ v.transport.queue w.receiver.address) := by
      rw [← List.append_assoc, List.append_assoc _ gone]
      exact h.all.trans (hgone.append_left _)
    exact ⟨hqueue.trans h.order, hall, h.delivered⟩
  | wake | fail _ | signal | heed _ _ => exact ⟨h.order, h.all, h.delivered⟩

/-! ### Left alone -/

/-- A delivery under way comes to its end when the worker is left alone, and what it does then is
what the rest of it does at once. -/
theorem ends {d : Delivery} (hbusy : s.busy = some d) :
    ∃ n acts arrived, Shift.next^[n] s =
      { s with
        worker := s.worker.delivered (s.world.run s.signalled d.rest).1
        world := (s.world.run s.signalled d.rest).2
        busy := none
        served := s.served ++ [⟨d.message, acts, (s.world.run s.signalled d.rest).1⟩]
        arrived := arrived } := by
  obtain ⟨m, acts, rest⟩ := d
  -- on what is left of the delivery: every answered call is one step of the shift
  induction rest generalizing s acts with
  | done result =>
    refine ⟨1, acts, s.arrived, ?_⟩
    simp only [Function.iterate_one, Shift.next, hbusy, World.run, run_done]
  | call c rest ih =>
    have hnext : s.next =
        { s.see (World.answer s.signalled c s.world).2 with
          busy := some
            ⟨m, acts ++ [⟨c, s.world⟩], rest (World.answer s.signalled c s.world).1⟩ } := by
      simp only [Shift.next, hbusy]
    obtain ⟨n, all, arrived, hends⟩ := ih _ (acts ++ [⟨c, s.world⟩]) (congrArg Shift.busy hnext)
    refine ⟨n + 1, all, arrived, ?_⟩
    rw [Function.iterate_succ_apply, hends, hnext]
    rfl

/-- The moves that a worker makes between two deliveries, when it is left alone, are together what
it does in one step. -/
theorem next_iterate_eq_step (hbusy : s.busy = none) :
    ∃ n, (Shift.next^[n] s).busy = none ∧
      ((Shift.next^[n] s).worker, (Shift.next^[n] s).world) = s.worker.step s.world := by
  -- either nothing is due and one step of the shift is one of the worker, or a message is taken and
  -- its delivery comes to its end
  cases htaken : s.worker.taken? s.world with
  | none =>
    have hnext : s.next = { s with worker := (s.worker.step s.world).1 } := by
      simp only [Shift.next, hbusy, htaken]
    refine ⟨1, ?_, ?_⟩
    · rw [Function.iterate_one, hnext]
      exact hbusy
    · rw [Function.iterate_one, hnext]
      exact Prod.ext rfl (Worker.step_of_taken?_eq_none htaken).1.symm
  -- the step that takes the message, and as many as its delivery has calls
  | some taken =>
    obtain ⟨m, v⟩ := taken
    have hnext : s.next =
        { s with
          world := v
          busy := some { message := m, rest := s.worker.deliver m }
          taken := s.taken ++ s.first?.toList } := by
      simp only [Shift.next, hbusy, htaken]
    obtain ⟨n, acts, arrived, hends⟩ := ends (congrArg Shift.busy hnext)
    refine ⟨n + 1, ?_, ?_⟩
    · rw [Function.iterate_succ_apply, hends]
    · rw [Function.iterate_succ_apply, hends, hnext, Worker.step_of_taken?_eq_some htaken,
        (tells_deliver s.worker).run_eq]

/-! ### The whole shift -/

/-- What holds at every moment of a shift. -/
structure Sound (w : Worker) (world : World) (s : Shift) : Prop where
  steady : s.Steady w
  tallies : s.Tallies
  faithful : s.Faithful w
  balanced : s.Balanced w (world.transport.queue w.receiver.address)

/-- All four invariants hold at the beginning of a shift. -/
theorem sound_begin (w : Worker) (world : World) : (begin w world).Sound w world where
  steady := steady_begin w world
  tallies := ⟨⟨rfl, rfl, rfl, rfl⟩, rfl, Nat.le_refl _⟩
  faithful := ⟨fun d hd => absurd hd List.not_mem_nil, nofun⟩
  balanced := by
    refine ⟨?_, ?_, rfl⟩
    · exact (List.append_nil _).symm ▸ .refl _
    · exact (List.append_nil _).symm ▸ .refl _

/-- All four invariants hold wherever a shift gets to. -/
theorem Reaches.sound (h : (begin w world).Reaches s) : s.Sound w world := by
  induction h with
  | refl => exact sound_begin w world
  | tail _ hmove ih =>
    exact ⟨ih.steady.moves hmove, ih.tallies.moves hmove, ih.faithful.moves ih.steady hmove,
      ih.balanced.moves ih.steady hmove⟩

end Shift

end Outbox
