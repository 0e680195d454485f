import Outbox.Proofs.Endings

/-!
# What becomes of the messages of a worker

A worker runs while others do what they like to the world, between its steps and between the calls
of its deliveries: they arm failures of stores and of the transport, send messages, change what
handlers do. It may be stopped at any time, and the stop takes effect between deliveries.

Every message that it takes off its queue is delivered to the end. It has been completed, or
replaced by a successor that the transport has accepted, or it has failed. Then the last thing
that the worker has done is to hand over a copy for the error queue; but that the transport
rejects the copy changes nothing, and then the message is nowhere. So what the worker counts as
failed are the copies in the error queue together with the messages that it has lost.

* `serves_step`             what a worker does next is one of its runs
* `amid_deliver_error`      the last act of a delivery that fails
* `messages_accounted_for`  what becomes of every message
* `forwarding_rejected`     a message that is lost
-/

namespace Outbox

open Program

/-- A delivery that a worker has made. -/
structure Served : Type 1 where
  message : Message
  acts : List Act
  result : Except DeliveryError Disposition

namespace Worker

/-- The message that the worker takes off its queue with its next step, and the world without. -/
def taken? (w : Worker) (world : World) : Option (Message × World) :=
  match w.phase with
  | .looking deadline =>
    match world.transport.look w.receiver.address deadline world.clock.elapsed with
    | .received m transport => some (m, { world with transport })
    | .timedOut | .waiting _ => none
  | .listening | .waiting _ _ | .pausing _ | .stopped => none

/-- The runs of a worker amid others, with the deliveries that it has made. -/
inductive Serves (others : World → World → Prop) (w₀ : Worker) (world₀ : World) :
    List Served → Worker → World → Prop
  | start : Serves others w₀ world₀ [] w₀ world₀
  | others {served : List Served} {w : Worker} {world world' : World} :
      Serves others w₀ world₀ served w world → others world world' →
      Serves others w₀ world₀ served w world'
  | wake {served : List Served} {w : Worker} {world : World} :
      Serves others w₀ world₀ served w world → Serves others w₀ world₀ served w.wake world
  | stop {served : List Served} {w : Worker} {world : World} :
      Serves others w₀ world₀ served w world → Serves others w₀ world₀ served w.stop world
  /-- A step that takes no message. -/
  | step {served : List Served} {w : Worker} {world : World} :
      Serves others w₀ world₀ served w world → w.taken? world = none →
      Serves others w₀ world₀ served (w.step world).1 (w.step world).2
  /-- A message is taken and delivered. -/
  | deliver {served : List Served} {w : Worker} {world v v' : World} {m : Message}
      {acts : List Act} {result : Except DeliveryError Disposition} :
      Serves others w₀ world₀ served w world → w.taken? world = some (m, v) →
      (w.deliver m).Amid (fun _ => others) [] v acts result v' →
      Serves others w₀ world₀ (served ++ [⟨m, acts, result⟩]) (w.delivered result) v'

/-- A step that takes no message changes only the phase and what is counted of receives. -/
theorem step_of_taken?_eq_none {w : Worker} {world : World} (h : w.taken? world = none) :
    (w.step world).2 = world ∧ (w.step world).1.receiver = w.receiver ∧
      (w.step world).1.errorQueue = w.errorQueue ∧
      ((w.step world).1.tally = w.tally ∨ (w.step world).1.tally = w.tally.countPoll) := by
  unfold step
  unfold taken? at h
  split
  -- the phases in turn: only one in which a message is there takes it
  -- in the first phase it listens, and a poll is counted if it goes on to look
  · next hphase =>
    unfold listen
    split
    · exact ⟨rfl, rfl, rfl, .inl rfl⟩
    · exact ⟨rfl, rfl, rfl, .inr rfl⟩
  -- a look that finds nothing ends in a timeout, which counts, or in waiting
  · next deadline hphase =>
    simp only [hphase] at h
    unfold look
    split
    · next m transport hlook => simp [hlook] at h
    · exact ⟨rfl, rfl, rfl, .inr rfl⟩
    · exact ⟨rfl, rfl, rfl, .inl rfl⟩
  all_goals exact ⟨rfl, rfl, rfl, .inl rfl⟩

/-- A step that takes a message delivers it. -/
theorem step_of_taken?_eq_some {w : Worker} {world v : World} {m : Message}
    (h : w.taken? world = some (m, v)) :
    w.step world = (w.delivered (v.run false (w.deliver m)).1, (v.run false (w.deliver m)).2) := by
  -- it is looking, and the look finds a message; every other phase takes none
  unfold taken? at h
  split at h
  · next deadline hphase =>
    split at h
    · next m' transport hlook =>
      obtain ⟨rfl, rfl⟩ := Prod.mk.inj (Option.some.inj h)
      simp only [step, hphase, look, hlook, delivered]
    all_goals cases h
  all_goals cases h

variable {others : World → World → Prop} {w₀ w : Worker} {world₀ world : World}
  {served : List Served}

/-- What a worker does next is among its runs: nobody interferes. -/
theorem serves_step (h : Serves others w₀ world₀ served w world) :
    ∃ new, Serves others w₀ world₀ (served ++ new) (w.step world).1 (w.step world).2 := by
  cases htaken : w.taken? world with
  | none => exact ⟨[], by simpa using h.step htaken⟩
  | some taken =>
    obtain ⟨m, v⟩ := taken
    rw [step_of_taken?_eq_some htaken]
    exact ⟨_, h.deliver htaken (amid_run (w.deliver m) [] v)⟩

end Worker

/-! ### One delivery -/

section

variable {others : World → World → Prop} {w : Worker} {p : Receiver} {m : Message}
  {acts : List Act} {v v' : World}

/-- Work that ends with a retry has replaced the message. -/
theorem amid_work_retryScheduled {moves : List Act → World → World → Prop}
    {countdown : Option Countdown} {past : List Act}
    (h : (p.work m countdown).Amid moves past v acts (.ok .retryScheduled) v') :
    ∃ c front rest, countdown = some c ∧ acts = front ++ rest ∧ Replaced p m c rest := by
  -- with or without a lookup, the retry comes from the coordinator
  unfold Receiver.work at h
  split at h
  · rw [ask_bind] at h
    obtain ⟨u, rest, -, hrest, rfl⟩ := amid_call.1 h
    -- only a delivery that finds no record is replaced
    generalize (World.answer false (.getRecord p.store m.id) u).1 = found at hrest
    -- a lookup that fails ends the delivery with its error
    match found with
    | .error e => exact nomatch (amid_done.1 hrest).2.1
    | .ok none =>
      obtain ⟨c, hc, hreplaced⟩ := amid_retry_retryScheduled hrest
      exact ⟨c, [_], rest, hc, rfl, hreplaced⟩
    | .ok (some r) =>
      obtain ⟨_, _, forwarded, _, _, hsecond, -⟩ := amid_bind.1 hrest
      cases forwarded with
      -- a delivery that finds the record completes or fails
      | error e | ok _ => exact nomatch (amid_done.1 hsecond).2.1
  · obtain ⟨c, hc, hreplaced⟩ := amid_retry_retryScheduled h
    exact ⟨c, [], acts, hc, rfl, hreplaced⟩

/-- A delivery that ends with a retry has replaced the message. -/
theorem amid_receive_retryScheduled {moves : List Act → World → World → Prop} {past : List Act}
    (h : (p.receive m).Amid moves past v acts (.ok .retryScheduled) v') :
    ∃ c front rest, tracked m = some c ∧ acts = front ++ rest ∧ Replaced p m c rest := by
  unfold Receiver.receive withOutcome at h
  obtain ⟨working, telling, worked, u, hworking, htelling, rfl⟩ := amid_bind.1 h
  dsimp only at htelling
  split at htelling
  -- what completes reports that, and its result is no retry
  · obtain ⟨_, last, _, _, _, hlast, -⟩ := amid_bind.1 htelling
    exact nomatch (amid_done.1 hlast).2.1
  · obtain ⟨rfl, rfl, -⟩ := amid_done.1 htelling
    obtain ⟨c, front, rest, hc, rfl, hreplaced⟩ := amid_work_retryScheduled hworking
    exact ⟨c, front, rest, hc, List.append_nil _, hreplaced⟩

/-- A worker does no more about a delivery that has not failed. -/
theorem amid_deliver_ok {moves : List Act → World → World → Prop} {past : List Act}
    {disposition : Disposition} (h : (w.deliver m).Amid moves past v acts (.ok disposition) v') :
    (w.receiver.receive m).Amid moves past v acts (.ok disposition) v' := by
  unfold Worker.deliver at h
  obtain ⟨first, second, result, u, hfirst, hsecond, rfl⟩ := amid_bind.1 h
  -- the other ending would have forwarded the message
  cases result with
  | error e =>
    obtain ⟨_, _, _, hlast, -⟩ := amid_call.1 hsecond
    exact nomatch (amid_done.1 hlast).2.1
  | ok _ =>
    obtain ⟨rfl, heq, hmoves⟩ := amid_done.1 hsecond
    rw [List.append_nil, heq]
    exact hfirst.later hmoves

/-- The last act of a delivery that fails hands over the copy for the error queue. -/
theorem amid_deliver_error {e : DeliveryError}
    (h : (w.deliver m).Amid (fun _ => others) [] v acts (.error e) v') :
    ∃ front x u, acts = front ++ [⟨.dispatch [w.forwarded m e], x⟩] ∧
      (w.receiver.receive m).Amid (fun _ => others) [] v front (.error e) u ∧
      Relation.ReflTransGen others u x ∧
      Relation.ReflTransGen others (World.answer false (.dispatch [w.forwarded m e]) x).2 v' := by
  unfold Worker.deliver at h
  obtain ⟨first, second, result, u, hfirst, hsecond, rfl⟩ := amid_bind.1 h
  cases result with
  -- the one call after a failed receive is the forwarding
  | ok _ => exact nomatch (amid_done.1 hsecond).2.1
  | error e' =>
    obtain ⟨x, last, hmoves, hlast, rfl⟩ := amid_call.1 hsecond
    obtain ⟨rfl, heq, hmoves'⟩ := amid_done.1 hlast
    obtain rfl := Except.error.inj heq
    exact ⟨first, x, u, rfl, hfirst, hmoves, hmoves'⟩

/-- No call takes a message out of a queue. -/
theorem queue_prefix_answer (cancelled : Bool) {β : Type} (c : Call β) (v : World)
    (name : String) :
    v.transport.queue name <+: (World.answer cancelled c v).2.transport.queue name := by
  -- of the calls only a dispatch changes queues, and it adds at their ends
  induction c with
  | dispatch ops => exact Transport.queue_prefix_dispatch v.transport v.clock.elapsed ops name
  | getRecord store id =>
    simp only [World.answer, World.transport_getRecord, List.prefix_rfl]
  | setDispatched store id =>
    simp only [World.answer, World.transport_setDispatched, List.prefix_rfl]
  | unlessCancelled c ih =>
    unfold World.answer
    split
    · exact List.prefix_rfl
    · exact ih
  | _ => exact List.prefix_rfl

/-- What others keep in a queue stays there. -/
def KeepsQueue (others : World → World → Prop) (name : String) : Prop :=
  ∀ v v', others v v' → (v.transport.pending name).Sublist (v'.transport.pending name)

/-- What others do keeps the messages that wait in the queue. -/
theorem KeepsQueue.moves {name : String} (h : KeepsQueue others name)
    (hmoves : Relation.ReflTransGen others v v') :
    (v.transport.pending name).Sublist (v'.transport.pending name) := by
  induction hmoves with
  | refl => exact .refl _
  | tail _ hmove ih => exact ih.trans (h _ _ hmove)

/-- And so it does while a program runs. -/
theorem KeepsQueue.amid {name : String} {α : Type} {q : Program α} {a : α} {past : List Act}
    (h : KeepsQueue others name) (hamid : q.Amid (fun _ => others) past v acts a v') :
    (v.transport.pending name).Sublist (v'.transport.pending name) := by
  induction hamid with
  | done hmoves => exact h.moves hmoves
  | call hmoves _ ih =>
    refine (h.moves hmoves).trans (List.Sublist.trans ?_ ih)
    exact ((queue_prefix_answer false _ _ name).map _).sublist

/-- A copy that the transport accepts is put behind what waits in the error queue. -/
theorem pending_forwarded {e : DeliveryError} (h : v.transport.rejection = none) :
    (World.answer false (.dispatch [w.forwarded m e]) v).2.transport.pending w.errorQueue =
      v.transport.pending w.errorQueue ++ [(w.forwarded m e).message] := by
  -- the error queue is one target, so it gets one copy
  have htargets : (v.transport.targets (w.forwarded m e).destination).Nodup := by
    simp [Transport.targets, Worker.forwarded]
  have hqueue := Transport.queue_accept htargets v.clock.elapsed w.errorQueue
  have hreply : (World.answer false (.dispatch [w.forwarded m e]) v).2.transport.queue
      w.errorQueue =
        (Transport.accept v.clock.elapsed v.transport (w.forwarded m e)).queue w.errorQueue := by
    simp only [World.answer, World.dispatch, Transport.dispatch, h]
    rfl
  rw [Transport.pending, hreply, hqueue]
  simp [Transport.pending, Transport.targets, Worker.forwarded, Shipment.entryAt]

end

/-! ### The whole service -/

/-- The copy for the error queue depends on the names of the worker only. -/
theorem Worker.forwarded_congr {w w' : Worker} (hr : w'.receiver = w.receiver)
    (he : w'.errorQueue = w.errorQueue) (m : Message) (e : DeliveryError) :
    w'.forwarded m e = w.forwarded m e := by
  rw [forwarded, forwarded, hr, he]

namespace Served

/-- Whether the transport rejected what was handed over last. -/
def rejected (d : Served) : Bool := d.acts.getLast?.any (·.world.transport.rejection.isSome)

/-- The copy that was put in the error queue. -/
def copy? (w : Worker) (d : Served) : Option Message :=
  match d.result with
  | .ok _ => none
  | .error e => if d.rejected then none else some (w.forwarded d.message e).message

/-- The delivery failed, and the transport rejected the copy. -/
def isLost (d : Served) : Bool := !d.result.isOk && d.rejected

/-- A delivery that did not complete: a successor under the same id was accepted for the queue of
the worker, or the copy for the error queue was handed over as the last thing. -/
def AccountedFor (w : Worker) (d : Served) : Prop :=
  match d.result with
  | .ok .completed => True
  | .ok .retryScheduled => ∃ op v, (⟨.dispatch [op], v⟩ : Act) ∈ d.acts ∧
      v.transport.rejection = none ∧ op.message.id = d.message.id ∧
      op.destination = .queue w.receiver.address
  | .error e => ∃ front v, d.acts = front ++ [⟨.dispatch [w.forwarded d.message e], v⟩]

/-- Every delivery by a worker is accounted for. -/
theorem accountedFor {others : World → World → Prop} {w w₀ : Worker} {m : Message}
    {acts : List Act} {result : Except DeliveryError Disposition} {v v' : World}
    (hr : w.receiver = w₀.receiver) (he : w.errorQueue = w₀.errorQueue)
    (h : (w.deliver m).Amid (fun _ => others) [] v acts result v') :
    AccountedFor w₀ ⟨m, acts, result⟩ := by
  -- by how the delivery ended: done, replaced, or forwarded with its error
  match result with
  | .ok .completed => trivial
  | .ok .retryScheduled =>
    obtain ⟨c, front, rest, -, rfl, t, u, told, haccepted, -⟩ :=
      amid_receive_retryScheduled (amid_deliver_ok h)
    rw [hr]
    exact ⟨c.successor m w₀.receiver.address t.clock.now, u, by simp, haccepted, rfl, rfl⟩
  | .error e =>
    obtain ⟨front, x, -, rfl, -⟩ := amid_deliver_error h
    rw [Worker.forwarded_congr hr he]
    exact ⟨front, x, rfl⟩

/-- A delivery that fails leaves a copy, or its message is lost. -/
theorem countP_failed (w : Worker) (served : List Served) :
    served.countP (!·.result.isOk) =
      (served.filterMap (copy? w)).length + served.countP isLost := by
  -- on the deliveries; each failed one is a copy or a loss, by whether the dispatch was rejected
  induction served with
  | nil => rfl
  | cons d rest ih =>
    rw [List.countP_cons, List.countP_cons, List.filterMap_cons, ih]
    cases hresult : d.result with
    | ok disposition => simp [copy?, isLost, hresult, Except.isOk, Except.toBool]
    | error e =>
      cases hrejected : d.rejected with
      | true => simp [copy?, isLost, hresult, hrejected, Except.isOk, Except.toBool]; omega
      | false => simp [copy?, isLost, hresult, hrejected, Except.isOk, Except.toBool]; omega

end Served

namespace Worker

variable {others : World → World → Prop} {w₀ w : Worker} {world₀ world : World}
  {served : List Served}

/-- A worker keeps its queues. -/
theorem Serves.setup (h : Serves others w₀ world₀ served w world) :
    w.receiver = w₀.receiver ∧ w.errorQueue = w₀.errorQueue := by
  induction h with
  | start => exact ⟨rfl, rfl⟩
  | others _ _ ih | wake _ ih | stop _ ih | deliver _ _ _ ih => exact ih
  | step _ htaken ih =>
    obtain ⟨-, hr, he, -⟩ := step_of_taken?_eq_none htaken
    exact ⟨hr.trans ih.1, he.trans ih.2⟩

/-- Every delivery of a worker that serves is accounted for. -/
theorem Serves.accounted (h : Serves others w₀ world₀ served w world) :
    ∀ d ∈ served, d.AccountedFor w₀ := by
  induction h with
  | start => exact fun d hd => absurd hd List.not_mem_nil
  | others _ _ ih | wake _ ih | stop _ ih | step _ _ ih => exact ih
  | deliver h _ hamid ih =>
    rw [List.forall_mem_append]
    exact ⟨ih, List.forall_mem_singleton.2 (Served.accountedFor h.setup.1 h.setup.2 hamid)⟩

/-- What a worker has counted agrees with its deliveries. -/
structure Counts (served : List Served) (t : Tally) : Prop where
  handled : t.handled = served.length
  completed : t.completed = served.countP (·.result = .ok .completed)
  retried : t.retried = served.countP (·.result = .ok .retryScheduled)
  failed : t.failed = served.countP (!·.result.isOk)

/-- Each delivery is counted once. -/
theorem Counts.count {t : Tally} (h : Counts served t) (d : Served) :
    Counts (served ++ [d]) (t.count d.result) := by
  obtain ⟨hhandled, hcompleted, hretried, hfailed⟩ := h
  obtain ⟨m, acts, result⟩ := d
  match result with
  | .ok .completed | .ok .retryScheduled | .error e =>
    constructor <;> simp [Tally.count, Except.isOk, Except.toBool, *]

/-- The tally of a worker counts its deliveries. -/
theorem Serves.counts (htally : w₀.tally = {}) (h : Serves others w₀ world₀ served w world) :
    Counts served w.tally := by
  -- on the service; only a delivery counts under a heading
  induction h with
  | start =>
    rw [htally]
    exact ⟨rfl, rfl, rfl, rfl⟩
  | others _ _ ih | wake _ ih | stop _ ih => exact ih
  | step _ htaken ih =>
    obtain ⟨-, -, -, heq | heq⟩ := step_of_taken?_eq_none htaken
    · rw [heq]
      exact ih
    · rw [heq]
      exact ⟨ih.handled, ih.completed, ih.retried, ih.failed⟩
  | deliver _ _ _ ih => exact ih.count _

/-- The worker takes messages off its own queue only. -/
theorem pending_taken? {v : World} {m : Message} {name : String}
    (h : w.taken? world = some (m, v)) (hname : name ≠ w.receiver.address) :
    v.transport.pending name = world.transport.pending name := by
  -- the message was taken off the queue of the worker, which is another one
  unfold taken? at h
  split at h
  · split at h
    · next hlook =>
      obtain ⟨rfl, rfl⟩ := Prod.mk.inj (Option.some.inj h)
      obtain ⟨front, x, back, -, -, -, -, rfl⟩ :=
        Transport.take?_eq_some_iff.1 (Transport.look_eq_received_iff.1 hlook)
      simp [Transport.pending, Ne.symm hname]
    all_goals exact nomatch h
  all_goals exact nomatch h

/-- The copies that were put in the error queue are there, as long as others leave them. -/
theorem Serves.copies (hkeeps : KeepsQueue others w₀.errorQueue)
    (hname : w₀.errorQueue ≠ w₀.receiver.address) (h : Serves others w₀ world₀ served w world) :
    (served.filterMap (Served.copy? w₀)).Sublist (world.transport.pending w₀.errorQueue) := by
  -- on the service: only a delivery puts something in the error queue
  induction h with
  | start => exact List.nil_sublist _
  -- these two change no queue
  | others _ hmove ih => exact ih.trans (hkeeps _ _ hmove)
  | wake _ ih | stop _ ih => exact ih
  | step _ htaken ih =>
    rw [(step_of_taken?_eq_none htaken).1]
    exact ih
  -- the message was taken from another queue, so the earlier copies are still there
  | @deliver served w world v v' m acts result h htaken hamid ih =>
    obtain ⟨hr, he⟩ := h.setup
    rw [← pending_taken? htaken (by rwa [hr])] at ih
    rw [List.filterMap_append]
    -- a delivery that went well forwards nothing
    cases result with
    | ok disposition =>
      have hcopy : Served.copy? w₀ ⟨m, acts, .ok disposition⟩ = none := rfl
      rw [List.filterMap_cons_none hcopy, List.filterMap_nil, List.append_nil]
      exact ih.trans (hkeeps.amid hamid)
    -- one that has failed forwards a copy, and then it is there unless it was rejected
    | error e =>
      obtain ⟨front, x, u, rfl, hfront, hmoves, hmoves'⟩ := amid_deliver_error hamid
      have hx := ih.trans ((hkeeps.amid hfront).trans (hkeeps.moves hmoves))
      refine List.Sublist.trans ?_ (hkeeps.moves hmoves')
      cases hrejection : x.transport.rejection with
      | none =>
        -- the copy goes behind those that were put there before
        have hcopy : Served.copy? w₀ ⟨m, front ++ [⟨.dispatch [w.forwarded m e], x⟩], .error e⟩ =
            some (w.forwarded m e).message := by
          simp [Served.copy?, Served.rejected, hrejection, forwarded_congr hr he]
        rw [List.filterMap_cons_some hcopy, List.filterMap_nil, ← he,
          pending_forwarded hrejection, he]
        exact hx.append_right _
      | some reason =>
        have hcopy : Served.copy? w₀ ⟨m, front ++ [⟨.dispatch [w.forwarded m e], x⟩], .error e⟩ =
            none := by
          simp [Served.copy?, Served.rejected, hrejection]
        rw [List.filterMap_cons_none hcopy, List.filterMap_nil, List.append_nil]
        exact hx.trans ((queue_prefix_answer false _ x w₀.errorQueue).map _).sublist

/-- What becomes of the messages that a worker has taken off its queue. Each has been delivered to
the end: completed, replaced by a successor, or failed, and then a copy for the error queue was
handed over. What is counted as failed are the copies that the transport has accepted, and they
are in the error queue, and the messages whose copy it has rejected, which are lost. -/
theorem messages_accounted_for (htally : w₀.tally = {})
    (h : Serves others w₀ world₀ served w world) :
    (∀ d ∈ served, d.AccountedFor w₀) ∧ Counts served w.tally ∧
      w.tally.failed =
        (served.filterMap (Served.copy? w₀)).length + served.countP Served.isLost ∧
      (KeepsQueue others w₀.errorQueue → w₀.errorQueue ≠ w₀.receiver.address →
        (served.filterMap (Served.copy? w₀)).Sublist (world.transport.pending w₀.errorQueue)) := by
  have hcounts := h.counts htally
  refine ⟨h.accounted, hcounts, ?_, fun hkeeps hname => h.copies hkeeps hname⟩
  rw [hcounts.failed]
  exact Served.countP_failed w₀ served

/-- A message that no handler likes. -/
def poison (id : String) : Message := { id }

/-- A worker that is about to start a receive. -/
def atWork : Worker := { receiver := { store := "db", address := "orders" }, phase := .listening }

/-- Two such messages wait for it. -/
def twoPoisoned : World where
  clock := { start := .epoch }
  transport := (({} : Transport).dispatch 0
    [{ message := poison "m-1", destination := .queue "orders" },
      { message := poison "m-2", destination := .queue "orders" }]).2
  handler _ := .error (.handler "poison message")

/-- The broker is down for the next dispatch. -/
def goesDown (v : World) : World :=
  { v with transport := v.transport.rejectNext "broker down" }

/-- The worker delivers a message: it starts a receive and takes what waits. -/
def deliversNext (s : Worker × World) : Worker × World :=
  let s := s.1.step s.2
  s.1.step s.2

/-- A worker delivers the next message, or does nothing. -/
theorem serves_deliversNext (h : Serves others w₀ world₀ served w world) :
    ∃ new, Serves others w₀ world₀ (served ++ new) (deliversNext (w, world)).1
      (deliversNext (w, world)).2 := by
  obtain ⟨first, hfirst⟩ := serves_step h
  obtain ⟨second, hsecond⟩ := serves_step hfirst
  rw [List.append_assoc] at hsecond
  exact ⟨first ++ second, hsecond⟩

/-- The copy of the first message arrives, that of the second does not. -/
theorem messages_accounted_for_twoPoisoned :
    let s := deliversNext (atWork, twoPoisoned)
    let s' := deliversNext (s.1, goesDown s.2)
    ∃ served, Serves (fun v v' => v' = goesDown v) atWork twoPoisoned served s'.1 s'.2 ∧
      s'.1.tally = { handled := 2, failed := 2, polls := 2 } ∧
      (∀ d ∈ served, d.AccountedFor atWork) ∧
      (s'.2.transport.pending "error").map (·.id) = ["m-1"] ∧
      1 ≤ served.countP Served.isLost := by
  intro s s'
  -- the service begins with nothing delivered
  have hstart : Serves (fun v v' => v' = goesDown v) atWork twoPoisoned [] atWork twoPoisoned :=
    .start
  -- the first message, then the broker goes down, then the second message
  obtain ⟨first, hfirst⟩ := serves_deliversNext hstart
  obtain ⟨second, hsecond⟩ := serves_deliversNext (hfirst.others rfl)
  have hserves : Serves (fun v v' => v' = goesDown v) atWork twoPoisoned (first ++ second)
      s'.1 s'.2 := hsecond
  have htally : s'.1.tally = { handled := 2, failed := 2, polls := 2 } := by decide +kernel
  have hpending : (s'.2.transport.pending "error").map (·.id) = ["m-1"] := by decide +kernel
  have hkeeps : KeepsQueue (fun v v' => v' = goesDown v) "error" := by
    rintro v _ rfl
    exact .refl _
  clear_value s'
  obtain ⟨haccounted, -, hfailed, hcopies⟩ := messages_accounted_for rfl hserves
  have hcopied := (hcopies hkeeps (by decide)).length_le
  have hone : (s'.2.transport.pending "error").length = 1 := by
    rw [← List.length_map (·.id), hpending, List.length_singleton]
  refine ⟨_, hserves, htally, haccounted, hpending, ?_⟩
  -- two deliveries have failed, and there is one copy
  have htwo : s'.1.tally.failed = 2 := by rw [htally]
  rw [show atWork.errorQueue = "error" from rfl, hone] at hcopied
  omega

/-- A message is taken off the queue and counted as failed, and it is nowhere: neither a successor
nor a copy has been accepted. -/
theorem forwarding_rejected :
    let s := deliversNext (atWork, goesDown twoPoisoned)
    s.1.tally = { handled := 1, failed := 1, polls := 1 } ∧
      s.2.transport.pending "error" = [] ∧
      (s.2.transport.pending "orders").map (·.id) = ["m-2"] ∧
      s.2.transport.dispatched = twoPoisoned.transport.dispatched := by
  decide +kernel

end Worker

end Outbox
