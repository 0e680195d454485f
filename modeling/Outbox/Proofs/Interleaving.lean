import Outbox.Processing.Worker
import Outbox.Session

/-!
# Interleavings

A `System` is a world with sessions and deliveries that are under way in it. Its events are the
requests of the owners of the sessions, the messages that deliveries start with, single calls on
collaborators, and what happens to the world from outside: faults that are armed, a clock that is
moved, messages that others dispatch or receive. Between two calls of one participant any others
may be at work.

The log of a system lists what the theorems about runs speak of: every commit of a transaction that
succeeded, with the changes that it was meant to make; everything that was handed to the
transport; and how each request on a session ended.

* `tasks_step`    what an event makes of the tasks
* `Reaches`       a state that a run of admissible events leads to
* `reaches_run`   the states along a list of events are reached
-/

namespace Outbox

/-- Who delivers a message. -/
inductive Consumer where
  /-- A worker takes messages off its queue, and forwards one whose delivery fails. -/
  | worker (w : Worker)
  /-- A receiver on its own is handed a message by its caller. -/
  | receiver (p : Receiver)
deriving DecidableEq

namespace Consumer

/-- How the consumer is set up. -/
def setup : Consumer → Receiver
  | worker w => w.receiver
  | receiver p => p

/-- One delivery. -/
def deliver (m : Message) : Consumer → Program (Except DeliveryError Disposition)
  | worker w => w.deliver m
  | receiver p => p.receive m

end Consumer

/-- A change of a document that the owner of a session asks for. -/
inductive Edit where
  | put (key : String) (value : Body)
  | delete (key : String)
deriving DecidableEq

namespace Edit

/-- The change that an edit makes in a partition. -/
def within (partition : Option String) : Edit → Change
  | put key value => .put (Store.keyWithin partition key) value
  | delete key => .delete (Store.keyWithin partition key)

/-- Stages the edit. -/
def stage (d : Database) (id : StagingId) : Edit → Except StoreError Unit × Database
  | put key value => d.put id key value
  | delete key => d.delete id key

end Edit

/-- What happened, as far as theorems about whole runs speak of it. The participant that did it is
`who`, and `request` numbers the requests on one session. -/
inductive Entry where
  /-- The commit of a transaction has succeeded, and these are the changes that it was to make. -/
  | committed (who request : Nat) (changes : List Change)
  /-- Operations were handed to the transport. -/
  | handedOver (who : Nat) (ops : List Shipment) (reply : Except DispatchError Unit)
  /-- A request on a session came to its end. -/
  | returned (who request : Nat) (what : Session.Request) (result : Except CallError Unit)

/-- What a participant is in the middle of. -/
inductive Task : Type 1 where
  /-- A session waits for its owner. The edits that were accepted on it are `staged`, and
  `requests` counts the requests that were made. -/
  | idle (staged : List Change) (requests : Nat) (session : Session)
  /-- A request is being carried out on a session, which is given as it was before. -/
  | busy (staged : List Change) (requests : Nat) (session : Session) (what : Session.Request)
      (rest : Program (Option Session × Except CallError Unit))
  /-- A message is being delivered, or has been. -/
  | delivery (consumer : Consumer) (message : Message)
      (rest : Program (Except DeliveryError Disposition))
  /-- A session object is gone. -/
  | gone

/-- The next call of a participant, and what the participant is then with the reply: the task that
is left, and what there is to log. -/
structure Turn : Type 1 where
  {β : Type}
  call : Call β
  resume : β → Task × List Entry

namespace Task

/-- What a commit by the task is to change: a session adds the record of its batch to the edits
that were staged, and a delivery writes an empty record. -/
def contribution : Task → List Change
  | busy staged _ session _ _ =>
    staged ++ [.record (.new (session.sessionId?.getD "") session.batch)]
  | delivery _ m _ => [.record (.tombstone m.id)]
  | idle _ _ _ | gone => []

/-- What the reply to a call adds to the log. -/
def note (who request : Nat) (contribution : List Change) {β : Type} : Call β → β → List Entry
  | .commit _, reply =>
    match reply with
    | .ok () => [.committed who request contribution]
    | .error _ => []
  | .dispatch ops, reply => [.handedOver who ops reply]
  | .unlessCancelled c, reply =>
    match reply with
    | some reply => note who request contribution c reply
    | none => []
  | _, _ => []

/-- The task with what is left of a request: when nothing is left the session waits again, or is
gone. -/
def ofRequest (staged : List Change) (requests : Nat) (session : Session) (what : Session.Request) :
    Program (Option Session × Except CallError Unit) → Task
  | .done (some session, _) => idle staged requests session
  | .done (none, _) => gone
  | .call c next => busy staged requests session what (.call c next)

/-- What the end of a request adds to the log. -/
def ending (who requests : Nat) (what : Session.Request) :
    Program (Option Session × Except CallError Unit) → List Entry
  | .done (_, result) => [.returned who requests what result]
  | .call _ _ => []

/-- The next call of the participant, if it has one to make. -/
def turn? (who : Nat) : Task → Option Turn
  | t@(busy staged requests session what (.call c next)) =>
    some ⟨c, fun reply => (ofRequest staged requests session what (next reply),
      note who requests t.contribution c reply ++ ending who requests what (next reply))⟩
  | t@(delivery consumer m (.call c next)) =>
    some ⟨c, fun reply => (delivery consumer m (next reply), note who 0 t.contribution c reply)⟩
  | _ => none

/-- The tasks that have a call to make, with their turns. -/
inductive HasTurn (who : Nat) : Task → Turn → Prop
  | busy (staged : List Change) (n : Nat) (session : Session) (what : Session.Request) {β : Type}
      (c : Call β) (next : β → Program (Option Session × Except CallError Unit)) :
      HasTurn who (.busy staged n session what (.call c next)) ⟨c, fun reply =>
        (ofRequest staged n session what (next reply),
          note who n (busy staged n session what (.call c next)).contribution c reply ++
            ending who n what (next reply))⟩
  | delivery (k : Consumer) (m : Message) {β : Type} (c : Call β)
      (next : β → Program (Except DeliveryError Disposition)) :
      HasTurn who (.delivery k m (.call c next)) ⟨c, fun reply =>
        (delivery k m (next reply),
          note who 0 (delivery k m (.call c next)).contribution c reply)⟩

/-- A turn belongs to a request or to a delivery that still has a call to make. -/
theorem hasTurn_of_turn? {who : Nat} {t : Task} {turn : Turn} (h : t.turn? who = some turn) :
    t.HasTurn who turn := by
  -- a task has a turn when the program that is left begins with a call
  cases t with
  -- an idle session and a task that is gone have no turn
  | idle staged n session => cases h
  | busy staged n session what rest =>
    cases rest with
    | done result => cases h
    | call c next =>
      obtain rfl := Option.some.inj h
      exact .busy staged n session what c next
  | delivery k m rest =>
    cases rest with
    | done result => cases h
    | call c next =>
      obtain rfl := Option.some.inj h
      exact .delivery k m c next
  | gone => cases h

end Task

/-- What happens to the world from outside. -/
inductive Disturbance where
  /-- The next call of a kind on a store is to fail. -/
  | failStore (store : String) (call : StoreCall) (reason : String)
  /-- The next look-up by a delivery is to fail. -/
  | failLookUp (reason : String)
  /-- The next mark by a delivery is to fail. -/
  | failMark (reason : String)
  /-- The next dispatch is to be rejected. -/
  | rejectNext (reason : String)
  | setClock (clock : Clock)
  | subscribe (topic queue : String)
  /-- Others hand operations to the transport. -/
  | dispatch (ops : List Shipment)
  /-- Others take a due message off a queue. -/
  | receive (queue : String)

/-- The world after something has happened to it from outside. -/
def World.disturb (w : World) : Disturbance → World
  | .failStore store call reason =>
    { w with database := w.database.setStore store ((w.database.store store).arm call reason) }
  | .failLookUp reason => { w with faults.getRecord := some reason }
  | .failMark reason => { w with faults.setDispatched := some reason }
  | .rejectNext reason => { w with transport := w.transport.rejectNext reason }
  | .setClock clock => { w with clock }
  | .subscribe topic queue => { w with transport := w.transport.subscribe topic queue }
  | .dispatch ops => (w.dispatch ops).2
  | .receive queue =>
    match w.transport.take? queue w.clock.elapsed with
    | some (_, transport) => { w with transport }
    | none => w

/-- An event in the life of a system. One that does not fit its state changes nothing. -/
inductive Event where
  /-- A session with an outbox is made, on a staging of its own. -/
  | create (store : String) (router : Router) (processorAddress : String)
  /-- The owner of a session makes a request. -/
  | request (who : Nat) (what : Session.Request)
  /-- The owner of a session edits a document. -/
  | edit (who : Nat) (edit : Edit)
  /-- A worker takes a due message off its queue and starts to deliver it. -/
  | take (w : Worker)
  /-- A receiver is handed a message and starts to deliver it. -/
  | hand (p : Receiver) (m : Message)
  /-- A participant makes its next call. -/
  | call (who : Nat) (cancelled : Bool)
  | disturb (d : Disturbance)

/-- A world, what is under way in it, and what has happened. -/
structure System : Type 1 where
  world : World
  tasks : List Task := []
  log : List Entry := []

namespace System

/-- A session with an outbox is made. -/
def create (s : System) (store : String) (router : Router) (processorAddress : String) : System :=
  let (staging, database) := s.world.database.newStaging store
  { s with
    world := { s.world with database }
    tasks := s.tasks ++ [.idle [] 0 (.outboxed { store, staging, router, processorAddress })] }

/-- The owner of a session makes a request. -/
def request (s : System) (who : Nat) (what : Session.Request) : System :=
  match s.tasks[who]? with
  | some (.idle staged requests session) =>
    let rest := session.perform what
    { s with
      tasks := s.tasks.set who (.ofRequest staged (requests + 1) session what rest)
      log := s.log ++ Task.ending who (requests + 1) what rest }
  | _ => s

/-- The owner of a session edits a document. -/
def edit (s : System) (who : Nat) (edit : Edit) : System :=
  match s.tasks[who]? with
  | some (.idle staged requests session) =>
    match session.stagingIfOpen with
    | .error _ => s
    | .ok id =>
      match edit.stage s.world.database id with
      | (.error _, _) => s
      | (.ok (), database) =>
        let change := edit.within (session.opening?.bind (·.hints.partitionKey))
        { s with
          world := { s.world with database }
          tasks := s.tasks.set who (.idle (staged ++ [change]) requests session) }
  | _ => s

/-- A consumer starts to deliver a message. -/
def start (s : System) (consumer : Consumer) (m : Message) : System :=
  { s with tasks := s.tasks ++ [.delivery consumer m (consumer.deliver m)] }

/-- A worker takes a due message off its queue. -/
def take (s : System) (w : Worker) : System :=
  match s.world.transport.take? w.receiver.address s.world.clock.elapsed with
  | some (m, transport) =>
    start { s with world := { s.world with transport } } (.worker w) m
  | none => s

/-- A participant makes its next call. -/
def call (s : System) (who : Nat) (cancelled : Bool) : System :=
  match s.tasks[who]?.bind (Task.turn? who) with
  | none => s
  | some turn =>
    let (reply, world) := World.answer cancelled turn.call s.world
    let (task, entries) := turn.resume reply
    { world, tasks := s.tasks.set who task, log := s.log ++ entries }

/-- The state after an event. -/
def step (s : System) : Event → System
  | .create store router processorAddress => s.create store router processorAddress
  | .request who what => s.request who what
  | .edit who edit => s.edit who edit
  | .take w => s.take w
  | .hand p m => s.start (.receiver p) m
  | .call who cancelled => s.call who cancelled
  | .disturb d => { s with world := s.world.disturb d }

section

variable {s : System} {who : Nat}

/-- A request on an idle session begins, and it ends at once when it makes no call. -/
theorem request_of_idle {staged : List Change} {requests : Nat} {session : Session}
    (h : s.tasks[who]? = some (.idle staged requests session)) (what : Session.Request) :
    s.request who what =
      { s with
        tasks := s.tasks.set who
          (.ofRequest staged (requests + 1) session what (session.perform what))
        log := s.log ++ Task.ending who (requests + 1) what (session.perform what) } := by
  simp only [request, h]

/-- A request on anything else is not made. -/
theorem request_of_not_idle
    (h : ∀ staged requests session, s.tasks[who]? ≠ some (.idle staged requests session))
    (what : Session.Request) : s.request who what = s := by
  unfold request
  split
  · next staged requests session ht => exact absurd ht (h staged requests session)
  · rfl

/-- An edit is refused, or it is staged and nothing else happens. -/
theorem edit_cases (s : System) (who : Nat) (e : Edit) : s.edit who e = s ∨
    ∃ staged requests session id database,
      s.tasks[who]? = some (.idle staged requests session) ∧ session.stagingIfOpen = .ok id ∧
      e.stage s.world.database id = (.ok (), database) ∧
      s.edit who e =
        { s with
          world := { s.world with database }
          tasks := s.tasks.set who (.idle
            (staged ++ [e.within (session.opening?.bind (·.hints.partitionKey))])
            requests session) } := by
  -- the session is idle, it gives out its staging, and the staging takes the change
  -- each way out but the last leaves the system as it is
  unfold edit
  split
  · next staged requests session ht =>
    split
    · exact .inl rfl
    · next id hid =>
      split
      · exact .inl rfl
      · next database hstage =>
        exact .inr ⟨staged, requests, session, id, database, ht, hid, hstage, rfl⟩
  · exact .inl rfl

/-- A worker that finds nothing to take does nothing. -/
theorem take_of_none {w : Worker}
    (h : s.world.transport.take? w.receiver.address s.world.clock.elapsed = none) :
    s.take w = s := by
  simp only [take, h]

/-- A worker that takes a message starts to deliver it. -/
theorem take_of_some {w : Worker} {m : Message} {transport : Transport}
    (h : s.world.transport.take? w.receiver.address s.world.clock.elapsed = some (m, transport)) :
    s.take w = start { s with world := { s.world with transport } } (.worker w) m := by
  simp only [take, h]

/-- A participant without a call to make does nothing. -/
theorem call_of_none (h : s.tasks[who]?.bind (Task.turn? who) = none) (cancelled : Bool) :
    s.call who cancelled = s := by
  simp only [call, h]

/-- A call is answered by the world, and the participant goes on with the reply. -/
theorem call_of_turn {turn : Turn} (h : s.tasks[who]?.bind (Task.turn? who) = some turn)
    (cancelled : Bool) :
    s.call who cancelled =
      { world := (World.answer cancelled turn.call s.world).2
        tasks := s.tasks.set who (turn.resume (World.answer cancelled turn.call s.world).1).1
        log := s.log ++ (turn.resume (World.answer cancelled turn.call s.world).1).2 } := by
  simp only [call, h]

/-- A new task does not move the others. -/
theorem getElem?_tasks_append {i : Nat} (t : Task) (h : i ≠ s.tasks.length) :
    (s.tasks ++ [t])[i]? = s.tasks[i]? := by
  by_cases hlt : i < s.tasks.length
  · exact List.getElem?_append_left hlt
  · rw [List.getElem?_eq_none (by simp; omega), List.getElem?_eq_none (by omega)]

end

/-! ### What an event makes of the tasks -/

/-- A task that an event brings. -/
inductive Begins (s : System) : Event → Task → Prop
  | session (store : String) (router : Router) (processorAddress : String) :
      Begins s (.create store router processorAddress)
        (.idle [] 0 (.outboxed
          { store, staging := (s.world.database.newStaging store).1, router, processorAddress }))
  | taken {w : Worker} {m : Message} {transport : Transport} :
      s.world.transport.take? w.receiver.address s.world.clock.elapsed = some (m, transport) →
      Begins s (.take w) (.delivery (.worker w) m (Consumer.deliver m (.worker w)))
  | handed (p : Receiver) (m : Message) :
      Begins s (.hand p m) (.delivery (.receiver p) m (Consumer.deliver m (.receiver p)))

/-- An event takes a participant further: its task becomes another. -/
inductive Moves (s : System) (who : Nat) : Event → Task → Task → Prop
  | requested (staged : List Change) (n : Nat) (session : Session) (what : Session.Request) :
      Moves s who (.request who what) (.idle staged n session)
        (.ofRequest staged (n + 1) session what (session.perform what))
  | edited (staged : List Change) (n : Nat) (session : Session) (e : Edit) (change : Change) :
      Moves s who (.edit who e) (.idle staged n session) (.idle (staged ++ [change]) n session)
  | called {t : Task} {turn : Turn} (cancelled : Bool) : t.turn? who = some turn →
      Moves s who (.call who cancelled) t
        (turn.resume (World.answer cancelled turn.call s.world).1).1

/-- An event changes no task, or brings one, or takes one further. A call that changes none is that
of a participant that has none to make. -/
theorem tasks_step (s : System) (e : Event) :
    ((s.step e).tasks = s.tasks ∧ ∀ who cancelled, e = .call who cancelled →
      s.tasks[who]?.bind (Task.turn? who) = none) ∨
    (∃ t, s.Begins e t ∧ (s.step e).tasks = s.tasks ++ [t]) ∨
    ∃ who t t', s.tasks[who]? = some t ∧ s.Moves who e t t' ∧
      (s.step e).tasks = s.tasks.set who t' := by
  -- tasks stay as they are when the event has no effect; a new one comes last; one can move
  cases e with
  | create store router address => exact .inr (.inl ⟨_, .session store router address, rfl⟩)
  -- a request begins only where the session is idle
  | request who what =>
    by_cases hidle : ∃ staged n session, s.tasks[who]? = some (.idle staged n session)
    · obtain ⟨staged, n, session, ht⟩ := hidle
      exact .inr (.inr ⟨who, _, _, ht, .requested staged n session what,
        congrArg tasks (request_of_idle ht what)⟩)
    · have hsame := request_of_not_idle (s := s) (fun staged n session ht =>
        hidle ⟨staged, n, session, ht⟩) what
      exact .inl ⟨congrArg tasks hsame, nofun⟩
  | edit who e =>
    obtain hsame | ⟨staged, n, session, id, database, ht, -, -, heq⟩ := s.edit_cases who e
    · exact .inl ⟨congrArg tasks hsame, nofun⟩
    · exact .inr (.inr ⟨who, _, _, ht, .edited staged n session e _, congrArg tasks heq⟩)
  -- a worker takes a message only if one is due
  | take w =>
    cases htake : s.world.transport.take? w.receiver.address s.world.clock.elapsed with
    | none => exact .inl ⟨congrArg tasks (take_of_none htake), nofun⟩
    | some taken => exact .inr (.inl ⟨_, .taken htake, congrArg tasks (take_of_some htake)⟩)
  | hand p m => exact .inr (.inl ⟨_, .handed p m, rfl⟩)
  -- a task without a turn makes no call, and the event passes
  | call who cancelled =>
    cases hturn : s.tasks[who]?.bind (Task.turn? who) with
    | none =>
      refine .inl ⟨congrArg tasks (call_of_none hturn cancelled), ?_⟩
      rintro _ _ ⟨⟩
      exact hturn
    | some turn =>
      obtain ⟨t, ht, hturn'⟩ := Option.bind_eq_some_iff.1 hturn
      exact .inr (.inr ⟨who, t, _, ht, .called cancelled hturn',
        congrArg tasks (call_of_turn hturn cancelled)⟩)
  | disturb d => exact .inl ⟨rfl, nofun⟩

/-- Where a task comes from. -/
theorem task_of_step {s : System} {e : Event} {i : Nat} {t : Task}
    (h : (s.step e).tasks[i]? = some t) :
    (s.tasks[i]? = some t ∧ ∀ cancelled, e = .call i cancelled → t.turn? i = none) ∨
    (i = s.tasks.length ∧ s.Begins e t) ∨ ∃ t₀, s.tasks[i]? = some t₀ ∧ s.Moves i e t₀ t := by
  -- the three effects of an event, each seen from the place of the task
  obtain ⟨hsame, hnone⟩ | ⟨t', hbegins, htasks⟩ | ⟨who, t₀, t', ht₀, hmoves, htasks⟩ :=
    s.tasks_step e
  · rw [hsame] at h
    refine .inl ⟨h, fun cancelled heq => ?_⟩
    -- a task that still had a call to make would have made it
    simpa [h] using hnone i cancelled heq
  -- a task that has just begun was not there to be called
  · have hother : ∀ who cancelled, e ≠ .call who cancelled := by
      rintro who cancelled rfl
      cases hbegins
    rw [htasks] at h
    by_cases hi : i = s.tasks.length
    · subst hi
      rw [List.getElem?_concat_length] at h
      obtain rfl := Option.some.inj h
      exact .inr (.inl ⟨rfl, hbegins⟩)
    · rw [getElem?_tasks_append t' hi] at h
      exact .inl ⟨h, fun cancelled heq => absurd heq (hother i cancelled)⟩
  · rw [htasks] at h
    by_cases hi : who = i
    · subst hi
      obtain ⟨hlt, -⟩ := List.getElem?_eq_some_iff.1 ht₀
      rw [List.getElem?_set_self hlt] at h
      obtain rfl := Option.some.inj h
      exact .inr (.inr ⟨t₀, ht₀, hmoves⟩)
    · rw [List.getElem?_set_ne hi] at h
      refine .inl ⟨h, fun cancelled heq => ?_⟩
      -- the event is a call of another
      subst heq
      cases hmoves
      exact absurd rfl hi

/-- What becomes of a task. -/
theorem task_step {s : System} {i : Nat} {t : Task} (h : s.tasks[i]? = some t) (e : Event) :
    ∃ t', (s.step e).tasks[i]? = some t' ∧ (t' = t ∨ s.Moves i e t t') := by
  obtain ⟨hlt, -⟩ := List.getElem?_eq_some_iff.1 h
  -- nothing moved, a task was added behind this one, or one task moved
  obtain ⟨hsame, -⟩ | ⟨new, -, htasks⟩ | ⟨who, t₀, t', ht₀, hmoves, htasks⟩ := s.tasks_step e
  · exact ⟨t, hsame ▸ h, .inl rfl⟩
  · exact ⟨t, by rw [htasks, List.getElem?_append_left hlt, h], .inl rfl⟩
  -- the task that has moved is this one, or another
  · by_cases hi : who = i
    · subst hi
      obtain rfl := Option.some.inj (ht₀.symm.trans h)
      exact ⟨t', by rw [htasks, List.getElem?_set_self hlt], .inr hmoves⟩
    · exact ⟨t, by rw [htasks, List.getElem?_set_ne hi, h], .inl rfl⟩

/-- The state after a list of events. -/
def run (s : System) (events : List Event) : System := events.foldl step s

/-- The states that runs from `s₀` lead to when each of their events is admissible where it
happens. -/
inductive Reaches (admissible : System → Event → Prop) (s₀ : System) : System → Prop
  | start : Reaches admissible s₀ s₀
  | next {s : System} {e : Event} : Reaches admissible s₀ s → admissible s e →
      Reaches admissible s₀ (s.step e)

variable {admissible admissible' : System → Event → Prop} {s₀ s : System}

/-- A run can be continued. -/
theorem Reaches.trans {t : System} (h : Reaches admissible s₀ s) (ht : Reaches admissible s t) :
    Reaches admissible s₀ t := by
  induction ht with
  | start => exact h
  | next _ he ih => exact .next ih he

/-- A run in which more is admissible leads to no fewer states. -/
theorem Reaches.mono (h : Reaches admissible s₀ s)
    (himp : ∀ s e, admissible s e → admissible' s e) : Reaches admissible' s₀ s := by
  induction h with
  | start => exact .start
  | next _ he ih => exact .next ih (himp _ _ he)

/-- What holds at the start and is kept by every admissible event holds in every state reached. -/
theorem Reaches.invariant {I : System → Prop} (h : Reaches admissible s₀ s) (h₀ : I s₀)
    (hstep : ∀ s e, I s → admissible s e → I (s.step e)) : I s := by
  induction h with
  | start => exact h₀
  | next _ he ih => exact hstep _ _ ih he

/-- A list of events leads to a state that is reached, when each event is admissible in the states
with a property that all states before it have. -/
theorem reaches_run {P : System → Prop} (events : List Event)
    (h : ∀ s, P s → ∀ e ∈ events, admissible s e)
    (hP : ∀ n < events.length, P (s.run (events.take n))) :
    Reaches admissible s (s.run events) := by
  induction events generalizing s with
  | nil => exact .start
  | cons e rest ih =>
    have hfirst : Reaches admissible s (s.step e) :=
      .next .start (h s (hP 0 (Nat.zero_lt_succ _)) e List.mem_cons_self)
    refine hfirst.trans (ih (fun t ht e' he' => h t ht e' (List.mem_cons_of_mem _ he')) ?_)
    exact fun n hn => hP (n + 1) (Nat.succ_lt_succ hn)

end System

end Outbox
