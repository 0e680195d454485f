import Outbox.Proofs.Contract.Timely
import Outbox.Proofs.Dispatches

/-!
# No committed batch is forgotten

A session commits its record only after its control message has been accepted. From then on there
is, for its id, a sound control message in a processor queue, or a worker that has taken one and has
neither sent a successor nor come to an end. A worker that comes to an end leaves a settled record
behind, or it puts the message in its error queue. All this is so as long as everyone who makes a
call gets a reply.

* `Transport.Accepts`              what the transport does but for receives
* `System.AllRemembered.step`      every event keeps all announced sessions remembered
* `System.undispatched_traceable`  where the control message of an undispatched record is
-/

namespace Outbox

/-! ### What the transport has accepted -/

namespace Transport

/-- Operations have been accepted, and nothing has left the queues that `address` selects. -/
structure Accepts (address : String → Prop) (t t' : Transport) (ops : List Shipment) : Prop where
  dispatched : t'.dispatched = t.dispatched ++ ops
  pending : ∀ queue, address queue → ∀ m ∈ t.pending queue, m ∈ t'.pending queue
  arrived : ∀ op ∈ ops, ∀ queue, address queue → op.destination = .queue queue →
    op.message ∈ t'.pending queue

variable {address : String → Prop} {t t' t'' : Transport} {ops ops' : List Shipment}

/-- A transport whose queues and log stay has accepted nothing. -/
theorem Accepts.nothing (hqueues : t'.queues = t.queues)
    (hdispatched : t'.dispatched = t.dispatched) : Accepts address t t' [] where
  dispatched := by rw [hdispatched, List.append_nil]
  pending queue _ m hm := by
    rw [Transport.pending, Transport.queue, hqueues]
    exact hm
  arrived op hop := absurd hop List.not_mem_nil

/-- What is accepted first and what is accepted after it is accepted together. -/
theorem Accepts.trans (h : Accepts address t t' ops) (h' : Accepts address t' t'' ops') :
    Accepts address t t'' (ops ++ ops') where
  dispatched := by rw [h'.dispatched, h.dispatched, List.append_assoc]
  pending queue hqueue m hm := h'.pending queue hqueue m (h.pending queue hqueue m hm)
  arrived op hop queue hqueue hdest := by
    rcases List.mem_append.1 hop with hfirst | hsecond
    · exact h'.pending queue hqueue _ (h.arrived op hfirst queue hqueue hdest)
    · exact h'.arrived op hsecond queue hqueue hdest

/-- A queue that is replaced holds the messages that were put in. -/
theorem pending_setQueue (t : Transport) (name other : String) (l : List QueuedMessage) :
    (t.setQueue name l).pending other =
      if name = other then l.map (·.message) else t.pending other := by
  simp only [pending, queue_setQueue]
  split <;> rfl

/-- A copy that is put in a queue waits in that queue, and other queues stay. -/
theorem mem_pending_enqueue {name other : String} {e : QueuedMessage} {m : Message} :
    m ∈ (t.enqueue name e).pending other ↔
      m ∈ t.pending other ∨ name = other ∧ m = e.message := by
  rw [enqueue, pending_setQueue]
  split
  · next heq =>
    subst heq
    simp [pending]
  · next hne => simp [hne]

/-- Copies in several queues wait in each of them. -/
theorem mem_pending_foldl_enqueue {names : List String} {other : String} {e : QueuedMessage}
    {m : Message} : m ∈ (names.foldl (fun t name => t.enqueue name e) t).pending other ↔
      m ∈ t.pending other ∨ other ∈ names ∧ m = e.message := by
  induction names generalizing t with
  | nil => simp
  | cons name rest ih =>
    rw [List.foldl_cons, ih, mem_pending_enqueue, List.mem_cons, or_assoc, eq_comm (a := name),
      or_and_right]

/-- An operation that is accepted arrives in the queue of its destination. -/
theorem accepts_accept (now : Nat) (t : Transport) (op : Shipment) :
    Accepts address t (t.accept now op) [op] where
  dispatched := dispatched_accept now t op
  pending queue _ m hm := mem_pending_foldl_enqueue.2 (.inl hm)
  arrived op' hop queue _ hdest := by
    obtain rfl := List.mem_singleton.1 hop
    refine mem_pending_foldl_enqueue.2 (.inr ⟨?_, rfl⟩)
    rw [hdest]
    exact List.mem_singleton_self queue

/-- Operations that are accepted one after the other are accepted. -/
theorem accepts_foldl_accept (now : Nat) (ops : List Shipment) (t : Transport) :
    Accepts address t (ops.foldl (accept now) t) ops := by
  induction ops generalizing t with
  | nil => exact .nothing rfl rfl
  | cons op rest ih => exact (accepts_accept now t op).trans (ih (t.accept now op))

/-- A dispatch is rejected, or all of it is accepted. -/
theorem accepts_dispatch (t : Transport) (now : Nat) (ops : List Shipment) :
    (∃ e, (t.dispatch now ops).1 = .error e ∧ Accepts address t (t.dispatch now ops).2 []) ∨
    ((t.dispatch now ops).1 = .ok () ∧ Accepts address t (t.dispatch now ops).2 ops) := by
  unfold dispatch
  cases t.rejection with
  | some reason => exact .inl ⟨_, rfl, .nothing rfl rfl⟩
  | none =>
    have hall : Accepts address t (ops.foldl (accept now) t) ops := accepts_foldl_accept now ops t
    exact .inr ⟨rfl, hall.dispatched, hall.pending, hall.arrived⟩

/-- What a receive leaves in the queues. -/
theorem pending_of_take? {name queue : String} {now : Nat} {m m' : Message}
    (h : t.take? name now = some (m, t')) (hm : m' ∈ t.pending queue) :
    name = queue ∧ m' = m ∨ m' ∈ t'.pending queue := by
  obtain ⟨front, e, back, hqueue, rfl, -, -, rfl⟩ := take?_eq_some_iff.1 h
  rw [pending_setQueue]
  split
  · next heq =>
    subst heq
    rw [pending, hqueue] at hm
    simp only [List.map_append, List.map_cons, List.mem_append, List.mem_cons] at hm ⊢
    -- it stood before the message that was taken, it is that message, or it stood behind it
    rcases hm with hfront | hm | hback
    · exact .inr (.inl hfront)
    · exact .inl ⟨trivial, hm⟩
    · exact .inr (.inr hback)
  -- it waits in another queue than the one that is received from
  · exact .inr hm

end Transport

/-- The control message of a session is sound, and it has the id of the session. -/
def Terms.Announces (T : Terms) : Prop :=
  ∀ (session : Session.Outboxed) (o : Session.Opened) (now : Time.Instant), o.InOrder T →
    T.time now → T.sound (session.announcement o now).message ∧
      (session.announcement o now).message.id = o.sessionId

section

variable {T : Terms} {g : Standing} {β : Type}

/-- A call is a dispatch, or it leaves the transport alone; and a duty is passed on only with the
operations of a dispatch that is accepted. -/
theorem accepts_answer (cancelled : Bool) (c : Call β) (w : World) :
    ∃ ops, Transport.Accepts T.address w.transport (World.answer cancelled c w).2.transport ops ∧
      ((g.after T c (World.answer cancelled c w).1).duty = g.duty ∨ T.HandsOver g.duty ops) := by
  have hnothing : ∀ {t t' : Transport}, t = t' → Transport.Accepts T.address t t' [] :=
    fun heq =>
      .nothing (congrArg Transport.queues heq.symm) (congrArg Transport.dispatched heq.symm)
  induction c generalizing w with
  | commit tx =>
    refine ⟨[], hnothing rfl, .inl ?_⟩
    -- a commit hands nothing over, whatever the reply
    cases (World.answer cancelled (.commit tx) w).1 <;> rfl
  | dispatch ops =>
    have hreply : (World.answer cancelled (.dispatch ops) w).1 =
        (w.transport.dispatch w.clock.elapsed ops).1 := rfl
    -- rejected, nothing arrives and nothing is passed on; accepted, the duty may be passed on with
    -- it
    rcases Transport.accepts_dispatch w.transport w.clock.elapsed ops with
      ⟨e, herror, haccepts⟩ | ⟨hok, haccepts⟩
    · refine ⟨[], haccepts, .inl ?_⟩
      rw [hreply, herror]
      rfl
    · refine ⟨ops, haccepts, ?_⟩
      rw [hreply, hok]
      by_cases hover : T.HandsOver g.duty ops
      · exact .inr hover
      · exact .inl (if_neg hover)
  | getRecord store id =>
    exact ⟨[], hnothing (World.transport_getRecord w store id).symm, .inl rfl⟩
  | setDispatched store id =>
    exact ⟨[], hnothing (World.transport_setDispatched w store id).symm, .inl rfl⟩
  | unlessCancelled c ih =>
    cases cancelled with
    | true => exact ⟨[], hnothing rfl, .inl rfl⟩
    | false => exact ih w
  | _ => exact ⟨[], hnothing rfl, .inl rfl⟩

end

namespace System

variable {T : Terms} {G G' : Standings} {s s' : System} {id : String}

/-! ### Announced sessions are remembered -/

/-- A sound control message for a session has been accepted, for a processor queue. -/
def Announced (T : Terms) (s : System) (id : String) : Prop :=
  ∃ op ∈ s.world.transport.dispatched, ∃ queue, T.address queue ∧ op.destination = .queue queue ∧
    T.sound op.message ∧ op.message.id = id

/-- A sound control message for a session waits in a processor queue, or a worker has taken one
and has not passed its duty on. -/
inductive Remembered (T : Terms) (G : Standings) (s : System) (id : String) : Prop
  | waiting (queue : String) (m : Message) : T.address queue →
      m ∈ s.world.transport.pending queue → T.sound m → m.id = id → Remembered T G s id
  | owed (i : Nat) (t : Task) (worker : Worker) (m : Message) : s.tasks[i]? = some t →
      t.message? = some (.worker worker, m) → T.sound m → m.id = id → (G i).duty = some id →
      Remembered T G s id

/-- All announced sessions are remembered, and they include those whose records are not
dispatched. -/
structure AllRemembered (T : Terms) (G : Standings) (s : System) : Prop where
  remembered : ∀ id, s.Announced T id → s.Remembered T G id
  announced : ∀ id r, s.world.record? T.store id = some r → r.isDispatched = false →
    s.Announced T id

/-- What tasks have owed they owe still, or it has been handed over with some of `ops`. -/
def KeepsDuties (T : Terms) (G G' : Standings) (s : System) (ops : List Shipment) : Prop :=
  ∀ i < s.tasks.length, (G' i).duty = (G i).duty ∨ T.HandsOver (G i).duty ops

/-- A session that has been announced stays so. -/
theorem Announced.mono {ops : List Shipment} (h : s.Announced T id)
    (hops : s'.world.transport.dispatched = s.world.transport.dispatched ++ ops) :
    s'.Announced T id := by
  obtain ⟨op, hop, hrest⟩ := h
  exact ⟨op, hops ▸ List.mem_append_left _ hop, hrest⟩

/-- A session stays remembered when nothing leaves the processor queues. -/
theorem Remembered.step {e : Event} {ops : List Shipment} (h : s.Remembered T G id)
    (hops : Transport.Accepts T.address s.world.transport (s.step e).world.transport ops)
    (hduties : KeepsDuties T G G' s ops) : (s.step e).Remembered T G' id := by
  cases h with
  -- the message was in a processor queue, or a task owed it
  | waiting queue m hqueue hm hsound hid =>
    exact .waiting queue m hqueue (hops.pending queue hqueue m hm) hsound hid
  | owed i t worker m ht hmessage hsound hid hduty =>
    obtain ⟨hlt, -⟩ := List.getElem?_eq_some_iff.1 ht
    obtain ⟨t', ht', hmessage'⟩ := message?_step s e i t ht
    -- the task owes it still, or what it has handed over has arrived in a processor queue
    rcases hduties i hlt with hkept | ⟨op, hop, queue, hqueue, hdest, hopSound, hover⟩
    · exact .owed i t' worker m ht' (hmessage'.trans hmessage) hsound hid (hkept.trans hduty)
    · rw [hduty] at hover
      have harrived := hops.arrived op hop queue hqueue hdest
      exact .waiting queue op.message hqueue harrived hopSound (Option.some.inj hover).symm

/-- An event that takes nothing off the processor queues, and that brings no undispatched record
for which there has been no announcement. -/
theorem AllRemembered.of_accepts {e : Event} {ops : List Shipment} (h : AllRemembered T G s)
    (hops : Transport.Accepts T.address s.world.transport (s.step e).world.transport ops)
    (hduties : KeepsDuties T G G' s ops)
    (hrecords : ∀ id r, (s.step e).world.record? T.store id = some r → r.isDispatched = false →
      s.Announced T id) : AllRemembered T G' (s.step e) where
  remembered id hannounced := by
    obtain ⟨op, hop, queue, hqueue, hdest, hsound, hid⟩ := hannounced
    rw [hops.dispatched] at hop
    -- what has just been accepted for a processor queue waits there
    rcases List.mem_append.1 hop with hold | hnew
    · exact (h.remembered id ⟨op, hold, queue, hqueue, hdest, hsound, hid⟩).step hops hduties
    · exact .waiting queue op.message hqueue (hops.arrived op hnew queue hqueue hdest) hsound hid
  announced id r hr hd := (hrecords id r hr hd).mono hops.dispatched

/-! ### Events -/

/-- Only a call of a participant changes what it owes. -/
theorem duty_standings {e : Event} (he : ∀ who cancelled, e ≠ .call who cancelled) {i : Nat}
    (hi : i < s.tasks.length) : (standings T G s e i).duty = (G i).duty := by
  cases e with
  | create store router address =>
    exact congrArg Standing.duty (Standings.set_of_ne G _ (Nat.ne_of_lt hi))
  | request who what =>
    -- a request sets the standing of one participant, and not its duty
    have hset : standings T G s (.request who what) = G.set who { G who with committed := false } ∨
        standings T G s (.request who what) = G := by
      simp only [standings]
      split
      · exact .inl rfl
      · exact .inr rfl
    rcases hset with hset | hset
    · rw [hset]
      by_cases hwho : i = who
      · rw [hwho, Standings.set_self]
      · rw [Standings.set_of_ne G _ hwho]
    · rw [hset]
  | take worker =>
    simp only [standings]
    cases s.world.transport.take? worker.receiver.address s.world.clock.elapsed with
    | none => rfl
    | some found => exact congrArg Standing.duty (Standings.set_of_ne G _ (Nat.ne_of_lt hi))
  | call who cancelled => exact absurd rfl (he who cancelled)
  | edit who e => rfl
  | hand p m => rfl
  | disturb d => rfl

/-- An edit leaves the transport alone. -/
theorem transport_edit (s : System) (who : Nat) (e : Edit) :
    (s.edit who e).world.transport = s.world.transport := by
  rcases s.edit_cases who e with heq | ⟨staged, n, session, id, database, -, -, -, heq⟩ <;> rw [heq]

/-- What happens from outside takes nothing off the processor queues. -/
theorem accepts_disturb (w : World) (d : Disturbance)
    (hreceive : ∀ queue, d = .receive queue → ¬ T.address queue) :
    ∃ ops, Transport.Accepts T.address w.transport (w.disturb d).transport ops := by
  cases d with
  | dispatch ops =>
    -- what others dispatch may be rejected too
    rcases Transport.accepts_dispatch w.transport w.clock.elapsed ops with
      ⟨-, -, haccepts⟩ | ⟨-, haccepts⟩
    · exact ⟨[], haccepts⟩
    · exact ⟨ops, haccepts⟩
  | subscribe topic queue =>
    refine ⟨[], ?_⟩
    simp only [World.disturb, Transport.subscribe]
    split <;> exact .nothing rfl rfl
  | receive name =>
    simp only [World.disturb]
    split
    · next m transport htake =>
      refine ⟨[], ?_, fun queue hqueue m' hm' => ?_, fun op hop => absurd hop List.not_mem_nil⟩
      · obtain ⟨-, -, -, -, -, -, -, rfl⟩ := Transport.take?_eq_some_iff.1 htake
        exact (List.append_nil _).symm
      -- the message was taken from a queue that is no queue of a processor
      · rcases Transport.pending_of_take? htake hm' with ⟨rfl, -⟩ | hkept
        · exact absurd hqueue (hreceive name rfl)
        · exact hkept
    · exact ⟨[], .nothing rfl rfl⟩
  | _ => exact ⟨[], .nothing rfl rfl⟩

/-- An event that is neither a call nor the receive of a worker. -/
theorem accepts_step {e : Event} (he : ∀ who cancelled, e ≠ .call who cancelled)
    (htake : ∀ worker, e ≠ .take worker)
    (hreceive : ∀ queue, e = .disturb (.receive queue) → ¬ T.address queue) :
    ∃ ops, Transport.Accepts T.address s.world.transport (s.step e).world.transport ops := by
  cases e with
  | create store router address => exact ⟨[], .nothing rfl rfl⟩
  | request who what =>
    refine ⟨[], ?_⟩
    simp only [System.step, System.request]
    split <;> exact .nothing rfl rfl
  | edit who e =>
    refine ⟨[], ?_⟩
    rw [System.step, transport_edit]
    exact .nothing rfl rfl
  | take worker => exact absurd rfl (htake worker)
  | hand p m => exact ⟨[], .nothing rfl rfl⟩
  | call who cancelled => exact absurd rfl (he who cancelled)
  | disturb d => exact accepts_disturb s.world d fun queue hd => hreceive queue (congrArg _ hd)

/-- A sound message that a worker takes off a processor queue is what the worker owes from then
on. -/
theorem AllRemembered.take {worker : Worker} (h : AllRemembered T G s) :
    AllRemembered T (standings T G s (.take worker)) (s.step (.take worker)) := by
  have hduty : ∀ i < s.tasks.length, (standings T G s (.take worker) i).duty = (G i).duty :=
    fun i hi => duty_standings (e := .take worker) nofun hi
  cases htake : s.world.transport.take? worker.receiver.address s.world.clock.elapsed with
  | none =>
    -- there is nothing to take, and nothing happens
    have hstep : s.step (.take worker) = s := take_of_none htake
    have hnothing : Transport.Accepts T.address s.world.transport
        (s.step (.take worker)).world.transport [] := by
      rw [hstep]
      exact .nothing rfl rfl
    exact h.of_accepts hnothing (fun i hi => .inl (hduty i hi)) (by rw [hstep]; exact h.announced)
  | some found =>
    obtain ⟨m, transport⟩ := found
    have hstep : s.step (.take worker) =
        start { s with world := { s.world with transport } } (.worker worker) m :=
      take_of_some htake
    have hdispatched : transport.dispatched = s.world.transport.dispatched := by
      obtain ⟨-, -, -, -, -, -, -, rfl⟩ := Transport.take?_eq_some_iff.1 htake
      rfl
    constructor
    · intro id hannounced
      -- to take a message logs nothing, so the same sessions are announced
      have hbefore : s.Announced T id := by
        rw [hstep] at hannounced
        simpa only [Announced, start, hdispatched] using hannounced
      cases h.remembered id hbefore with
      | waiting queue m' hqueue hm' hsound hid =>
        -- it is the message that was taken, and its session is what the new task owes, or it is not
        rcases Transport.pending_of_take? htake hm' with ⟨-, rfl⟩ | hkept
        · refine .owed s.tasks.length (.delivery (.worker worker) m' (worker.deliver m')) worker m'
            ?_ rfl hsound hid ?_
          · rw [hstep]
            simp [start, Consumer.deliver]
          · simp only [standings, htake, Standings.set_self, taken]
            rw [if_pos hsound, hid]
        · rw [hstep]
          exact .waiting queue m' hqueue hkept hsound hid
      | owed i t k m' ht hmessage hsound hid howes =>
        obtain ⟨hlt, -⟩ := List.getElem?_eq_some_iff.1 ht
        obtain ⟨t', ht', hmessage'⟩ := message?_step s (.take worker) i t ht
        exact .owed i t' k m' ht' (hmessage'.trans hmessage) hsound hid ((hduty i hlt).trans howes)
    · intro id r hr hd
      rw [hstep] at hr ⊢
      have hannounced := h.announced id r hr hd
      simpa only [Announced, start, hdispatched] using hannounced

/-- A session commits its record after it has been announced. -/
theorem announced_of_storeStep {role : Role} {w' : World} {changes : List Change} {r : Record}
    (hannounces : T.Announces) (h : AllRemembered T G s)
    (hstep : StoreStep T role s.world w' changes) (hr : w'.record? T.store id = some r)
    (hd : r.isDispatched = false) : s.Announced T id := by
  -- the record was there before, it has just been marked, or it has just been committed
  rcases hstep.record?_cases hr with hold | ⟨r', -, rfl, -⟩ | ⟨hplain, hannounced, hmem, hid⟩
  -- the empty record is dispatched from the start, so this is the record of a session
  · exact h.announced id r hold hd
  · simp at hd
  · obtain ⟨batch, hnew, hsession⟩ := Role.eq_new_of_mem_contribution hplain hmem
    have hbatch : batch ≠ [] := by
      rintro rfl
      rw [hnew, Record.new_nil] at hd
      simp at hd
    obtain ⟨staged, session, rfl, hid'⟩ := hsession hbatch
    obtain ⟨o, now, ho, horder, hnow, haddress, hop⟩ := hannounced
    obtain ⟨hsound, hmessage⟩ := hannounces session o now horder hnow
    refine ⟨_, hop, session.processorAddress, haddress, rfl, hsound, ?_⟩
    rw [hmessage, ← hid, hid', Session.Outboxed.sessionId?, ho]
    rfl

/-- A call keeps all sessions remembered. -/
theorem AllRemembered.call {who : Nat} {cancelled : Bool} (hannounces : T.Announces)
    (h : AllRemembered T G s) (hinv : Inv T G s) (hfits : Fits T s (.call who cancelled)) :
    AllRemembered T (standings T G s (.call who cancelled)) (s.step (.call who cancelled)) := by
  cases hturn : s.tasks[who]?.bind (Task.turn? who) with
  | none =>
    have hstep : s.step (.call who cancelled) = s := call_of_none hturn cancelled
    have hstandings : standings T G s (.call who cancelled) = G := by
      simp only [standings, hturn]
    rw [hstep, hstandings]
    exact h
  | some turn =>
    obtain ⟨t, ht, hturn'⟩ := Option.bind_eq_some_iff.1 hturn
    obtain ⟨role, n, tail, -, hlawful, -⟩ := hinv.lawful cancelled ht hturn' hfits
    have hworld : (s.step (.call who cancelled)).world =
        (World.answer cancelled turn.call s.world).2 :=
      congrArg System.world (call_of_turn hturn cancelled)
    have hstandings : standings T G s (.call who cancelled) =
        G.set who ((G who).after T turn.call (World.answer cancelled turn.call s.world).1) := by
      simp only [standings, hturn]
    obtain ⟨ops, hops, hduty⟩ := accepts_answer (T := T) (g := G who) cancelled turn.call s.world
    rw [hstandings]
    rw [← hworld] at hops
    refine h.of_accepts hops (fun i _ => ?_) fun id r hr hd => ?_
    -- the one who calls passes its duty on or keeps it, and the others keep theirs
    · by_cases hi : i = who
      · subst hi
        rw [Standings.set_self]
        exact hduty
      · exact .inl (congrArg Standing.duty (Standings.set_of_ne G _ hi))
    · rw [hworld] at hr
      exact announced_of_storeStep hannounces h (storeStep_answer cancelled who n hlawful) hr hd

/-- Every event that leaves the processor queues to workers keeps all announced sessions
remembered. -/
theorem AllRemembered.step {e : Event} (hannounces : T.Announces) (h : AllRemembered T G s)
    (hinv : Inv T G s) (hfits : Fits T s e)
    (hreceive : ∀ queue, e = .disturb (.receive queue) → ¬ T.address queue) :
    AllRemembered T (standings T G s e) (s.step e) := by
  -- calls change duties and takes change queues; every other event does neither
  by_cases hcall : ∃ who cancelled, e = .call who cancelled
  · obtain ⟨who, cancelled, rfl⟩ := hcall
    exact h.call hannounces hinv hfits
  by_cases htake : ∃ worker, e = .take worker
  · obtain ⟨worker, rfl⟩ := htake
    exact h.take
  have he : ∀ who cancelled, e ≠ .call who cancelled := fun who c heq => hcall ⟨who, c, heq⟩
  obtain ⟨ops, hops⟩ := accepts_step (T := T) (s := s) he (fun k heq => htake ⟨k, heq⟩) hreceive
  refine h.of_accepts hops (fun i hi => .inl (duty_standings he hi)) fun id r hr hd => ?_
  -- without a call the content of the store is what it was
  have hsame := sameContent_step (s := s) he T.store
  exact h.announced id r ((hsame.record? id).symm.trans hr) hd

/-! ### Where control messages are -/

/-- Sessions and workers on one store and one processor queue. The sessions send their control
messages to the queue, the workers alone receive from it, and receivers are handed messages by their
callers. Anything may fail but the dispatch that puts a message in the error queue. -/
def OnQueue (store queue : String) (least : Int) (s : System) : Event → Prop
  | .create name _ address => name = store ∧ address = queue
  | .request _ what => ∀ opening, what = .openWith opening → opening.Fits64
  | .take worker => worker.receiver.store = store ∧ worker.receiver.address = queue
  | .hand p _ => p.store = store
  | .call who _ => s.Forwarding who → s.world.transport.rejection = none
  | .disturb (.setClock clock) => clock.now.InWindow least
  | .disturb (.receive name) => name ≠ queue
  | .edit _ _ | .disturb _ => True

/-- A control message for a session is still there: it waits in the processor queue, a worker has
taken it and has not come to the end of its delivery, or a worker has put it in its error queue. -/
inductive Traceable (queue : String) (s : System) (id : String) : Prop
  | waiting (m : Message) : m ∈ s.world.transport.pending queue → m.isControl = true → m.id = id →
      Traceable queue s id
  | held {β : Type} (i : Nat) (worker : Worker) (m : Message) (c : Call β)
      (next : β → Program (Except DeliveryError Disposition)) :
      s.tasks[i]? = some (.delivery (.worker worker) m (.call c next)) → m.isControl = true →
      m.id = id → Traceable queue s id
  | putAside (i : Nat) (worker : Worker) (m : Message) (e : DeliveryError)
      (result : Except DeliveryError Disposition) :
      s.tasks[i]? = some (.delivery (.worker worker) m (.done result)) →
      worker.forwarded m e ∈ s.world.transport.dispatched →
      (worker.forwarded m e).message.isControl = true → (worker.forwarded m e).message.id = id →
      Traceable queue s id

/-- What happens on one queue is within the terms of timely messages. -/
theorem OnQueue.fits {store queue : String} {least : Int} {e : Event}
    (h : OnQueue store queue least s e) : Fits (.timely store queue least) s e := by
  cases e with
  | create name router address => exact h
  | request who what => exact h
  | edit who e => trivial
  | take worker => exact h
  | hand p m => exact h
  | call who cancelled => exact fun _ => h
  | disturb d =>
    rintro clock rfl
    exact ⟨h, Time.Instant.nanos_clockReading_lt _ _⟩

/-- On these terms every announcement is a sound control message. -/
theorem announces_timely (store queue : String) (least : Int) :
    (Terms.timely store queue least).Announces :=
  fun _ _ _ horder hnow =>
    Timely.announcement horder.opening horder.valid horder.countdown hnow.1 hnow.2

/-- A copy for the error queue is still a control message. -/
theorem isControl_forwarded (worker : Worker) (m : Message) (e : DeliveryError) :
    (worker.forwarded m e).message.isControl = m.isControl := by
  -- the headers that are added are others than the one that marks a control message
  have hmarker : (worker.forwarded m e).message.header? Headers.controlMessage =
      m.header? Headers.controlMessage := by
    simp [Worker.forwarded, Message.addHeader, Message.header?, Std.ExtTreeMap.getElem?_insert,
      Headers.failedQueue, Headers.exceptionMessage, Headers.controlMessage]
  simp only [Message.isControl, hmarker]

/-- A session that is remembered while its record is not dispatched has a control message. -/
theorem Remembered.traceable {store queue : String} {least : Int} {r : Record}
    (hinv : Inv (.timely store queue least) G s)
    (h : s.Remembered (.timely store queue least) G id)
    (hr : s.world.record? store id = some r) (hd : r.isDispatched = false) :
    Traceable queue s id := by
  cases h with
  | waiting name m hname hm hsound hid =>
    obtain rfl : name = queue := hname
    exact .waiting m hm hsound.isControl hid
  | owed i t worker m ht hmessage hsound hid hduty =>
    have hkeeps := hinv.keeps i t ht
    cases t with
    | delivery k m' rest =>
      obtain ⟨rfl, rfl⟩ := Prod.mk.inj (Option.some.inj hmessage)
      cases rest with
      | call c next => exact .held i worker m' c next ht hsound.isControl hid
      | done result =>
        obtain ⟨-, -, hdone⟩ := hkeeps
        -- a delivery does not end with a duty: the session is settled or the message put aside
        rcases hdone s.world (.refl hinv.shared) hsound with hfree | hsettled | ⟨e, he⟩
        · exact nomatch hfree.symm.trans hduty
        · obtain ⟨r', hr', hd'⟩ := hsettled
          rw [hid] at hr'
          obtain rfl := Option.some.inj (hr.symm.trans hr')
          exact nomatch hd.symm.trans hd'
        · refine .putAside i worker m' e result ht he ?_ hid
          rw [isControl_forwarded]
          exact hsound.isControl
    | idle staged n session => exact nomatch hmessage
    | busy staged n session what rest => exact nomatch hmessage
    | gone => exact nomatch hmessage

/-- For every interleaving: as long as the record of a session is not dispatched, a control message
of the session waits in the processor queue, is being delivered, or is in the error queue. -/
theorem undispatched_traceable {store queue : String} {least : Int} {s₀ s : System}
    (hfresh : s₀.Fresh) (hclock : s₀.world.clock.now.InWindow least)
    (h : Reaches (OnQueue store queue least) s₀ s) {id : String} {r : Record}
    (hr : s.world.record? store id = some r) (hd : r.isDispatched = false) :
    Traceable queue s id := by
  -- the invariant is carried along, because only lawful calls keep sessions remembered
  have hremembered : ∃ G, Inv (.timely store queue least) G s ∧
      AllRemembered (.timely store queue least) G s := by
    refine h.invariant (I := fun s => ∃ G, Inv (.timely store queue least) G s ∧
      AllRemembered (.timely store queue least) G s) ?_ ?_
    · refine ⟨_, hfresh.inv ⟨hclock, Time.Instant.nanos_clockReading_lt _ _⟩, ?_, ?_⟩
      -- at the start nothing is announced, and there is no record
      · rintro id ⟨op, hop, -⟩
        simp [hfresh.dispatched] at hop
      · intro id r hr
        simp [World.record?, hfresh.database, Database.store, Store.record?] at hr
    · rintro s e ⟨G, hinv, hall⟩ hadmissible
      refine ⟨_, hinv.step hadmissible.fits,
        hall.step (announces_timely store queue least) hinv hadmissible.fits ?_⟩
      rintro name rfl
      exact hadmissible
  obtain ⟨G, hinv, hall⟩ := hremembered
  exact (hall.remembered id (hall.announced id r hr hd)).traceable hinv hr hd

end System

end Outbox
