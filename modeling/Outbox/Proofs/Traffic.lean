import Mathlib.Logic.Function.Basic
import Outbox.Proofs.Growth

/-!
# What goes through the transport

Any number of parties subscribe queues, dispatch, make dispatches fail and receive, in any order,
while time advances. A receiver may look into its queue at any instant and as often as it likes
until its receive ends, so that nothing here depends on when it is woken up.

Beside the transport stands the history of what the parties have seen. What has been enqueued for
a queue and what has been received from it is read off that history alone, and it is compared
with what the queue holds.

* `queue_foldl_accept`   what accepted operations add to a queue
* `accounts_step`        one step keeps the account of every queue
* `nothing_lost_or_invented`  every copy that was enqueued has been received once, or still waits
-/

namespace Outbox

/-- What waits in a queue for an operation that is accepted at `now`. -/
def Shipment.entryAt (now : Nat) (op : Shipment) : QueuedMessage :=
  ⟨op.message, now + op.delay.getD 0⟩

namespace Transport

/-- To subscribe adds a queue to the end of its topic, once. -/
theorem subscribers_subscribe (t : Transport) (topic queue other : String) :
    (t.subscribe topic queue).subscribers other =
      if topic = other ∧ queue ∉ t.subscribers topic then t.subscribers topic ++ [queue]
      else t.subscribers other := by
  by_cases hq : queue ∈ t.subscribers topic
  · simp [subscribe, hq]
  · simp only [subscribe, hq, if_false, not_false_eq_true, and_true]
    simp only [subscribers, Std.ExtTreeMap.getD_insert, Std.compare_eq_iff_eq]

/-- A subscription touches no queue. -/
@[simp] theorem queue_subscribe (t : Transport) (topic queue name : String) :
    (t.subscribe topic queue).queue name = t.queue name := by
  unfold subscribe
  split <;> rfl

/-- A subscription dispatches nothing. -/
@[simp] theorem dispatched_subscribe (t : Transport) (topic queue : String) :
    (t.subscribe topic queue).dispatched = t.dispatched := by
  unfold subscribe
  split <;> rfl

/-- A copy goes to the end of each queue that is named once, and to no other queue. -/
theorem queue_foldl_enqueue (e : QueuedMessage) (name : String) {names : List String}
    (h : names.Nodup) (t : Transport) :
    (names.foldl (fun t n => t.enqueue n e) t).queue name =
      t.queue name ++ if name ∈ names then [e] else [] := by
  induction names generalizing t with
  | nil => simp
  | cons n rest ih =>
    -- the names differ, so at most one of them is the queue
    obtain ⟨hn, hrest⟩ := List.nodup_cons.1 h
    rw [List.foldl_cons, ih hrest, enqueue, queue_setQueue]
    by_cases heq : n = name
    · subst heq
      simp [hn]
    · simp [heq, Ne.symm heq]

/-- To enqueue copies subscribes nobody. -/
theorem subscriptions_foldl_enqueue (e : QueuedMessage) (names : List String) (t : Transport) :
    (names.foldl (fun t n => t.enqueue n e) t).subscriptions = t.subscriptions := by
  induction names generalizing t with
  | nil => rfl
  | cons n rest ih => rw [List.foldl_cons, ih]; rfl

/-- Accepting an operation subscribes nobody. -/
@[simp] theorem subscribers_accept (now : Nat) (t : Transport) (op : Shipment) (topic : String) :
    (accept now t op).subscribers topic = t.subscribers topic := by
  simp only [subscribers, accept, subscriptions_foldl_enqueue]

/-- The targets of a destination are the same before and after an operation is accepted. -/
@[simp] theorem targets_accept (now : Nat) (t : Transport) (op : Shipment) (d : Destination) :
    (accept now t op).targets d = t.targets d := by
  cases d with
  | queue name => rfl
  | topic name => exact subscribers_accept now t op name

/-- Where nobody subscribes twice, no destination names a queue twice. -/
theorem nodup_targets {t : Transport} (h : ∀ topic, (t.subscribers topic).Nodup)
    (d : Destination) : (t.targets d).Nodup := by
  cases d with
  | queue name => exact by simp [targets]
  | topic name => exact h name

/-- An accepted operation leaves one copy in each queue that it reaches. -/
theorem queue_accept {t : Transport} {op : Shipment} (h : (t.targets op.destination).Nodup)
    (now : Nat) (name : String) :
    (accept now t op).queue name =
      t.queue name ++ if name ∈ t.targets op.destination then [op.entryAt now] else [] :=
  queue_foldl_enqueue (op.entryAt now) name h t

/-- What waits in a queue keeps its place when operations are accepted. -/
theorem queue_prefix_accept (now : Nat) (t : Transport) (op : Shipment) (name : String) :
    t.queue name <+: (accept now t op).queue name := by
  show t.queue name <+: ((t.targets op.destination).foldl _ t).queue name
  generalize t.targets op.destination = names
  -- each copy goes behind what is there, also when a queue is named again
  induction names generalizing t with
  | nil => exact List.prefix_rfl
  | cons n rest ih =>
    refine List.IsPrefix.trans ?_ (ih (t.enqueue n _))
    rw [enqueue, queue_setQueue]
    split
    · next heq => exact heq ▸ List.prefix_append _ _
    · exact List.prefix_rfl

/-- So it does when a list of operations is accepted. -/
theorem queue_prefix_foldl_accept (now : Nat) (ops : List Shipment) (t : Transport)
    (name : String) : t.queue name <+: (ops.foldl (accept now) t).queue name := by
  induction ops generalizing t with
  | nil => exact List.prefix_rfl
  | cons op rest ih => exact (queue_prefix_accept now t op name).trans (ih _)

/-- A dispatch removes nothing from any queue, whatever comes of it. -/
theorem queue_prefix_dispatch (t : Transport) (now : Nat) (ops : List Shipment) (name : String) :
    t.queue name <+: (t.dispatch now ops).2.queue name := by
  unfold dispatch
  split
  · exact List.prefix_rfl
  · exact queue_prefix_foldl_accept now ops t name

/-- Accepted operations leave their copies in the order in which they stand. -/
theorem queue_foldl_accept {t : Transport} (h : ∀ topic, (t.subscribers topic).Nodup) (now : Nat)
    (ops : List Shipment) (name : String) :
    (ops.foldl (accept now) t).queue name =
      t.queue name ++
        (ops.filter (decide <| name ∈ t.targets ·.destination)).map (·.entryAt now) := by
  -- operation by operation: nobody subscribes meanwhile, so the targets stay the same
  induction ops generalizing t with
  | nil => simp
  | cons op rest ih =>
    rw [List.foldl_cons, ih (by simpa using h), queue_accept (nodup_targets h _),
      List.append_assoc]
    simp only [targets_accept, List.filter_cons, decide_eq_true_eq]
    split <;> rfl

/-- Accepting operations subscribes nobody. -/
theorem subscribers_foldl_accept (now : Nat) (ops : List Shipment) (t : Transport)
    (topic : String) : (ops.foldl (accept now) t).subscribers topic = t.subscribers topic := by
  induction ops generalizing t with
  | nil => rfl
  | cons op rest ih => rw [List.foldl_cons, ih, subscribers_accept]

@[simp] theorem subscribers_setQueue (t : Transport) (name : String) (l : List QueuedMessage)
    (topic : String) : (t.setQueue name l).subscribers topic = t.subscribers topic := rfl

/-- A dispatch subscribes nobody, whatever comes of it. -/
@[simp] theorem subscribers_dispatch (t : Transport) (now : Nat) (ops : List Shipment)
    (topic : String) : (t.dispatch now ops).2.subscribers topic = t.subscribers topic := by
  unfold dispatch
  split
  · rfl
  · exact subscribers_foldl_accept now ops t topic

/-- A dispatch that succeeds leaves the copies of its operations behind those that wait. -/
theorem queue_dispatch_of_ok {t : Transport} (h : ∀ topic, (t.subscribers topic).Nodup)
    {now : Nat} {ops : List Shipment} (hok : (t.dispatch now ops).1 = .ok ()) (name : String) :
    (t.dispatch now ops).2.queue name =
      t.queue name ++
        (ops.filter (decide <| name ∈ t.targets ·.destination)).map (·.entryAt now) := by
  cases hr : t.rejection with
  | none =>
    simp only [dispatch, hr]
    exact queue_foldl_accept h now ops name
  | some reason => simp [dispatch_rejected hr] at hok

/-- A dispatch goes well only where no rejection is armed. -/
theorem rejection_of_ok {t : Transport} {now : Nat} {ops : List Shipment}
    (hok : (t.dispatch now ops).1 = .ok ()) : t.rejection = none := by
  cases hr : t.rejection with
  | none => rfl
  | some reason => simp [dispatch_rejected hr] at hok

/-- A dispatch that fails was to fail, and it does no more than disarm the failure. -/
theorem dispatch_of_error {t : Transport} {now : Nat} {ops : List Shipment} {e : DispatchError}
    (h : (t.dispatch now ops).1 = .error e) :
    (∃ reason, t.rejection = some reason ∧ e = .rejected reason) ∧
      (t.dispatch now ops).2 = { t with rejection := none } := by
  -- a transport that is not to reject accepts
  cases hr : t.rejection with
  | none => simp [dispatch, hr] at h
  | some reason =>
    rw [dispatch_rejected hr] at h ⊢
    exact ⟨⟨reason, rfl, (Except.error.inj h).symm⟩, rfl⟩

/-- A look hands over a message exactly if one is due. -/
theorem look_eq_received_iff {t rest : Transport} {name : String} {deadline now : Nat}
    {m : Message} :
    t.look name deadline now = .received m rest ↔ t.take? name now = some (m, rest) := by
  unfold look
  cases t.take? name now with
  | some x => simp [Prod.ext_iff]
  | none =>
    simp only [reduceCtorEq, iff_false]
    split <;> simp

end Transport

namespace Traffic

/-- A receive that has not come to its end. -/
structure Receive where
  queue : String
  deadline : Nat

/-- What a party does, or that time passes. -/
inductive Event where
  | subscribe (topic queue : String)
  | rejectNext (reason : String)
  | dispatch (ops : List Shipment)
  /-- Time runs on by a number of nanoseconds. -/
  | advance (duration : Nat)
  /-- A receiver starts a receive, in place of one that it may have begun before. -/
  | receive (who : Nat) (queue : String) (timeout : Nat)
  /-- A receiver looks into the queue of its receive. -/
  | look (who : Nat)

/-- What a party has seen. -/
inductive Seen where
  | subscribed (topic queue : String)
  | accepted (now : Nat) (ops : List Shipment)
  | rejected (ops : List Shipment) (e : DispatchError)
  | received (queue : String) (m : Message) (now : Nat)
  | timedOut (queue : String) (now : Nat)
deriving DecidableEq

/-- Whether an operation reaches a queue that has subscribed as the history says. -/
def reaches (history : List Seen) (name : String) (op : Shipment) : Bool :=
  match op.destination with
  | .queue n => decide (n = name)
  | .topic topic => decide (.subscribed topic name ∈ history)

/-- The copies that have been enqueued for a queue, in their order, by a history that has the
latest first. -/
def copies (name : String) : List Seen → List QueuedMessage
  | [] => []
  | .accepted now ops :: earlier =>
    copies name earlier ++ (ops.filter (reaches earlier name)).map (·.entryAt now)
  | _ :: earlier => copies name earlier

/-- What has been received from a queue, and when, the latest first. -/
def returned (name : String) : List Seen → List (Message × Nat)
  | [] => []
  | .received queue m now :: earlier =>
    if queue = name then (m, now) :: returned name earlier else returned name earlier
  | _ :: earlier => returned name earlier

/-- All operations that have been accepted, in their order. -/
def acceptedOps : List Seen → List Shipment
  | [] => []
  | .accepted _ ops :: earlier => acceptedOps earlier ++ ops
  | _ :: earlier => acceptedOps earlier

end Traffic

/-- A transport with its receivers, the time, and what has been seen, the latest first. -/
structure Traffic where
  transport : Transport := {}
  now : Nat := 0
  receivers : Nat → Option Traffic.Receive := fun _ => none
  history : List Traffic.Seen := []

namespace Traffic

/-- The account of a queue is settled: what was enqueued has been received when it was due, or
still waits. -/
def Settled (s : Traffic) (name : String) : Prop :=
  ∃ taken : List (QueuedMessage × Nat),
    (copies name s.history).Perm (taken.map (·.1) ++ s.transport.queue name) ∧
    taken.map (fun x => (x.1.message, x.2)) = returned name s.history ∧
    ∀ x ∈ taken, x.1.dueAt ≤ x.2

/-- A receiver looks into its queue. -/
def look (s : Traffic) (who : Nat) : Traffic :=
  match s.receivers who with
  | none => s
  | some r =>
    match s.transport.look r.queue r.deadline s.now with
    | .received m transport =>
      { s with
        transport
        receivers := Function.update s.receivers who none
        history := .received r.queue m s.now :: s.history }
    | .timedOut =>
      { s with
        receivers := Function.update s.receivers who none
        history := .timedOut r.queue s.now :: s.history }
    | .waiting _ => s

/-- Operations are dispatched. -/
def dispatch (s : Traffic) (ops : List Shipment) : Traffic :=
  let (reply, transport) := s.transport.dispatch s.now ops
  match reply with
  | .ok () => { s with transport, history := .accepted s.now ops :: s.history }
  | .error e => { s with transport, history := .rejected ops e :: s.history }

/-- What an event makes of the state. -/
def step (s : Traffic) : Event → Traffic
  | .subscribe topic queue =>
    { s with
      transport := s.transport.subscribe topic queue
      history := .subscribed topic queue :: s.history }
  | .rejectNext reason => { s with transport := s.transport.rejectNext reason }
  | .dispatch ops => s.dispatch ops
  | .advance duration => { s with now := s.now + duration }
  | .receive who queue timeout =>
    { s with receivers := Function.update s.receivers who (some ⟨queue, s.now + timeout⟩) }
  | .look who => s.look who

/-- The state after some events, from a new transport on. -/
def after (events : List Event) : Traffic := events.foldl step {}

/-- What holds between the transport and the history at all times. -/
structure Accounts (s : Traffic) : Prop where
  /-- The subscribers of a topic are those that the history says, once each. -/
  subscribers : ∀ topic name,
    name ∈ s.transport.subscribers topic ↔ .subscribed topic name ∈ s.history
  nodup : ∀ topic, (s.transport.subscribers topic).Nodup
  settled : ∀ name, s.Settled name
  dispatched : s.transport.dispatched = acceptedOps s.history

namespace Accounts

variable {s : Traffic}

/-- Nothing has happened yet, and all accounts are empty. -/
theorem start : Accounts {} where
  subscribers topic name := by simp [Transport.subscribers]
  nodup topic := by simp [Transport.subscribers]
  settled name := ⟨[], by simp [copies, Transport.queue], rfl, by simp⟩
  dispatched := rfl

/-- An operation reaches the queues that the transport sends it to. -/
theorem reaches_eq (h : Accounts s) (name : String) (op : Shipment) :
    reaches s.history name op = decide (name ∈ s.transport.targets op.destination) := by
  unfold reaches Transport.targets
  -- a queue by its name, a topic by the subscriptions in the history
  cases op.destination with
  | queue n => simp [eq_comm]
  | topic topic => simp [h.subscribers]

/-- A subscription changes the one list of subscribers, and the history says so. -/
theorem subscribe (h : Accounts s) (topic queue : String) :
    Accounts (s.step (.subscribe topic queue)) where
  subscribers other name := by
    simp only [step, Transport.subscribers_subscribe, List.mem_cons, Seen.subscribed.injEq,
      ← h.subscribers other name]
    -- a queue that subscribes again was there before
    by_cases hq : queue ∈ s.transport.subscribers topic
    · grind
    · by_cases ht : topic = other
      · subst ht
        simp [hq, or_comm]
      · simp [ht, Ne.symm ht]
  -- the queue is added at the end, and only if it is not in the list
  nodup other := by
    simp only [step, Transport.subscribers_subscribe]
    split
    · next hs =>
      obtain ⟨-, hq⟩ := hs
      rw [List.nodup_append]
      refine ⟨h.nodup topic, by simp, fun a ha b hb => ?_⟩
      rw [List.mem_singleton.1 hb]
      exact fun heq => hq (heq ▸ ha)
    · exact h.nodup other
  -- no queue changes, and nothing is copied
  settled name := by
    obtain ⟨taken, hp, hr, hd⟩ := h.settled name
    exact ⟨taken, by simpa [step, copies] using hp, hr, hd⟩
  dispatched := by simpa [step, acceptedOps] using h.dispatched

/-- An accepted dispatch puts a copy in each queue that it reaches, and the history has the same
copies. -/
theorem dispatch_accepted (h : Accounts s) {ops : List Shipment}
    (hok : (s.transport.dispatch s.now ops).1 = .ok ()) : Accounts (s.dispatch ops) := by
  have hs : s.dispatch ops =
      { s with
        transport := (s.transport.dispatch s.now ops).2
        history := .accepted s.now ops :: s.history } := by
    simp only [Traffic.dispatch, hok]
  rw [hs]
  refine ⟨fun topic name => by simp [h.subscribers], fun topic => by simp [h.nodup],
    fun name => ?_, ?_⟩
  -- what has been taken so far is still what has been taken
  · obtain ⟨taken, hp, hr, hd⟩ := h.settled name
    refine ⟨taken, ?_, hr, hd⟩
    simp only [copies]
    -- the new copies go behind those that wait
    rw [Transport.queue_dispatch_of_ok h.nodup hok, ← List.append_assoc]
    simp only [← h.reaches_eq]
    exact hp.append_right _
  · show (s.transport.dispatch s.now ops).2.dispatched = acceptedOps s.history ++ ops
    rw [Transport.dispatched_dispatch, if_pos (Transport.rejection_of_ok hok), h.dispatched]

/-- A rejected dispatch leaves everything where it was. -/
theorem dispatch_rejected (h : Accounts s) {ops : List Shipment} {e : DispatchError}
    (he : (s.transport.dispatch s.now ops).1 = .error e) : Accounts (s.dispatch ops) := by
  obtain ⟨-, ht⟩ := Transport.dispatch_of_error he
  have hs : s.dispatch ops =
      { s with
        transport := (s.transport.dispatch s.now ops).2
        history := .rejected ops e :: s.history } := by
    simp only [Traffic.dispatch, he]
  rw [hs]
  refine ⟨fun topic name => by simp [h.subscribers], fun topic => by simp [h.nodup],
    fun name => ?_, ?_⟩
  -- the transport that refuses is the one that was there, but for the rejection
  · rw [ht]
    exact h.settled name
  · rw [ht]
    exact h.dispatched

/-- A message that is received leaves its queue, and it was due. -/
theorem received (h : Accounts s) {r : Receive} {m : Message} {rest : Transport}
    {receivers : Nat → Option Receive}
    (hl : s.transport.look r.queue r.deadline s.now = .received m rest) :
    Accounts
      { s with
        transport := rest
        receivers
        history := .received r.queue m s.now :: s.history } := by
  obtain ⟨front, e, back, hq, rfl, hdue, -, rfl⟩ :=
    Transport.take?_eq_some_iff.1 (Transport.look_eq_received_iff.1 hl)
  refine ⟨fun topic name => by simp [h.subscribers], h.nodup, fun name => ?_, h.dispatched⟩
  obtain ⟨taken, hp, hr, hd⟩ := h.settled name
  -- the account changes for the queue that the message left, and for no other
  by_cases hn : r.queue = name
  · subst hn
    refine ⟨(e, s.now) :: taken, ?_, by simp [returned, hr], ?_⟩
    · rw [hq] at hp
      simp only [copies, Transport.queue_setQueue, if_true, List.map_cons, List.cons_append]
      -- the entry is moved out of the middle of what was left
      rw [← List.append_assoc] at hp
      exact hp.trans (List.perm_middle.trans (by rw [List.append_assoc]))
    · intro x hx
      rcases List.mem_cons.1 hx with rfl | hx
      · exact hdue
      · exact hd x hx
  -- another queue neither lost an entry nor had one returned from it
  · exact ⟨taken, by simpa [copies, hn] using hp, by simpa [returned, hn] using hr, hd⟩

/-- A look takes the earliest due message out, and the history says which. -/
theorem look (h : Accounts s) (who : Nat) : Accounts (s.look who) := by
  unfold Traffic.look
  -- a party without a receive looks into no queue
  split
  · exact h
  -- its receive gets a message, or it is out of time, or it goes on waiting
  · split
    · next hl => exact h.received hl
    · exact ⟨fun topic name => by simpa using h.subscribers topic name, h.nodup, h.settled,
        h.dispatched⟩
    · exact h

end Accounts

/-- One step keeps the account of every queue. -/
theorem accounts_step {s : Traffic} (h : Accounts s) (e : Event) : Accounts (s.step e) := by
  -- only subscribing, dispatching and looking touch what the accounts are about
  cases e with
  | subscribe topic queue => exact h.subscribe topic queue
  | rejectNext reason => exact ⟨h.subscribers, h.nodup, h.settled, h.dispatched⟩
  | advance duration => exact ⟨h.subscribers, h.nodup, h.settled, h.dispatched⟩
  | receive who queue timeout => exact ⟨h.subscribers, h.nodup, h.settled, h.dispatched⟩
  | look who => exact h.look who
  | dispatch ops =>
    cases hr : (s.transport.dispatch s.now ops).1 with
    | ok _ => exact h.dispatch_accepted hr
    | error e => exact h.dispatch_rejected hr

/-- The accounts hold after any sequence of events. -/
theorem accounts_after (events : List Event) : Accounts (after events) := by
  -- from any state with its accounts settled, event by event
  suffices ∀ s : Traffic, Accounts s → Accounts (events.foldl step s) from this {} .start
  induction events with
  | nil => exact fun s h => h
  | cons e rest ih => exact fun s h => ih (s.step e) (accounts_step h e)

/-- Whatever the parties do and in whichever order: the copies that accepted operations have sent
to a queue are those that have been received from it, each once and none before it was due, and
those that still wait there. The log lists the accepted operations, and a dispatch that fails was
to fail and only disarms the failure. -/
theorem nothing_lost_or_invented (events : List Event) :
    (∀ name, (after events).Settled name) ∧
    (after events).transport.dispatched = acceptedOps (after events).history ∧
    ∀ ops e, ((after events).transport.dispatch (after events).now ops).1 = .error e →
      (∃ reason, (after events).transport.rejection = some reason ∧ e = .rejected reason) ∧
      (after events).step (.dispatch ops) =
        { after events with
          transport := { (after events).transport with rejection := none }
          history := .rejected ops e :: (after events).history } := by
  have h := accounts_after events
  refine ⟨h.settled, h.dispatched, fun ops e he => ?_⟩
  obtain ⟨hr, ht⟩ := Transport.dispatch_of_error he
  refine ⟨hr, ?_⟩
  simp only [step, Traffic.dispatch, he, ht]

end Traffic

end Outbox
