import Outbox.Endpoint
import Outbox.Simulation

/-!
# Scenarios

A caller that works step by step on a simulated application, and refers by name to the sessions,
transactions and stagings that it has made. A step that names what is not there has no answer.

Ids are numbered in the order in which they are made, and a step that fails takes none. After a
step every worker does all that it can at that instant.
-/

namespace Outbox

/-- A session, and the kind that the caller asked for. -/
structure HeldSession where
  session : Session
  kind : Session.Kind

/-- What a caller holds. -/
structure Scenario where
  simulation : Simulation
  router : Router := {}
  batch : Batch := []
  endpoint : Option Endpoint := none
  receiver : Option Receiver := none
  sessions : List (String × HeldSession) := []
  transactions : List (String × TransactionId) := []
  stagings : List (String × StagingId) := []

/-- A step of a scenario. -/
abbrev Step := OptionT (StateM Scenario)

namespace Step

variable {α ε : Type}

/-- What a list holds under a name. -/
def lookup (l : List (String × α)) (name : String) : Step α := (l.lookup name).getM

/-- The list with a name that stands for something new. -/
def rename (l : List (String × α)) (name : String) (a : α) : List (String × α) :=
  -- of two entries under a name only the later one is left
  (name, a) :: l.filter (·.1 != name)

/-- Lets the simulation change. -/
def onSimulation (f : Simulation → α × Simulation) : Step α :=
  modifyGet fun s => let (a, simulation) := f s.simulation; (a, { s with simulation })

/-- Lets the world change. -/
def onWorld (f : World → World) : Step Unit :=
  modify fun s => { s with simulation.world := f s.simulation.world }

/-- Lets the stores change. -/
def onDatabase (f : Database → α × Database) : Step α :=
  modifyGet fun s =>
    let (a, database) := f s.simulation.world.database
    (a, { s with simulation.world.database := database })

/-- Lets the transport change. -/
def onTransport (f : Transport → Transport) : Step Unit :=
  onWorld fun w => { w with transport := f w.transport }

/-- What there is to see of the world. -/
def seeWorld (f : World → α) : Step α := return f (← get).simulation.world

/-- Runs a program for a caller that has or has not cancelled. A program that panics has no
result. -/
def run (cancelled : Bool) (p : Program α) : Step α := do
  (← onSimulation (·.run cancelled p)).getM

/-- Makes a step that takes the lock of the transport. It has no result when the lock is poisoned. -/
def underLock (step : Step α) : Step α := do
  if (← get).simulation.poisoned then failure else step

/-- Takes back the ids of a step that fails. -/
def keepIds (step : Step (Except ε α)) : Step (Except ε α) := do
  let ids ← seeWorld (·.ids)
  let r ← step
  if let .error _ := r then onWorld fun w => { w with ids }
  return r

/-! ## The transport -/

/-- Subscribes a queue to a topic. -/
def subscribe (topic queue : String) : Step Unit := onTransport (·.subscribe topic queue)

/-- Makes the next dispatch fail. -/
def rejectNext (reason : String) : Step Unit := onTransport (·.rejectNext reason)

/-- Hands shipments to the transport. -/
def dispatch (ops : List Shipment) : Step (Except DispatchError Unit) :=
  run false (.ask (.dispatch ops))

/-- Waits for a message, up to a number of milliseconds. -/
def receive (queue : String) (ms : Nat) : Step (Option Message) :=
  underLock (onSimulation (·.receive queue (ms * 1000000)))

/-- Sleeps for a number of milliseconds. -/
def advance (ms : Nat) : Step Unit := onSimulation fun s => ((), s.advance (ms * 1000000))

/-- Makes the clock read a number of milliseconds more, without any time running. -/
def shiftClock (ms : Int) : Step Unit :=
  onWorld fun w => { w with clock.shift := w.clock.shift + ms * 1000000 }

/-! ## Stores -/

/-- Starts a transaction under a name. -/
def begin (name store : String) : Step Unit := do
  let tx ← onDatabase (·.begin store)
  modify fun s => { s with transactions := rename s.transactions name tx }

/-- The transaction under a name. -/
def transaction (name : String) : Step TransactionId := do lookup (← get).transactions name

/-- Adds a record to a transaction. -/
def addRecord (name store : String) (r : Record) : Step (Except StoreError Unit) := do
  let tx ← transaction name
  onDatabase (·.addRecord store r tx)

/-- Commits a transaction; also tells whether it is committed then. -/
def commitTransaction (name : String) : Step (Except StoreError Unit × Bool) := do
  let tx ← transaction name
  let r ← onDatabase (·.commit tx)
  -- the transaction stays, whatever the commit answers
  return (r, (← seeWorld (·.database.transactions[tx]?)).any (·.committed))

/-- Forgets a transaction; tells whether there was one. -/
def dropTransaction (name : String) : Step Bool := do
  let found := ((← get).transactions.lookup name).isSome
  modify fun s => { s with transactions := s.transactions.filter (·.1 != name) }
  return found

/-- Makes the next call of a kind fail on a store. -/
def fail (store : String) (call : StoreCall) (reason : String) : Step Unit :=
  onDatabase fun d => ((), d.setStore store ((d.store store).arm call reason))

/-- Makes the next look-up by a delivery fail. -/
def failLookup (reason : String) : Step Unit :=
  onWorld fun w => { w with faults.getRecord := some reason }

/-- Makes the next mark by a delivery fail. -/
def failMark (reason : String) : Step Unit :=
  onWorld fun w => { w with faults.setDispatched := some reason }

/-- Makes the next look-ups by deliveries find nothing. -/
def hideRecords (count : Nat) : Step Unit :=
  onWorld fun w => { w with faults.hiddenRecords := count }

/-- The record under an id. -/
def record? (store id : String) : Step (Option Record) :=
  seeWorld fun w => (w.database.store store).record? id

/-- Marks every operation of a record. -/
def setDispatched (store id : String) : Step Unit :=
  onDatabase fun d => ((), d.setDispatched store id)

/-- A document, looked up within a partition if one is given. -/
def document? (store : String) (partition : Option String) (key : String) : Step (Option Body) :=
  seeWorld fun w =>
    match partition with
    | some partition => (w.database.store store).documentIn? partition key
    | none => (w.database.store store).document? key

/-- Makes a staging under a name. -/
def newStaging (name store : String) : Step Unit := do
  let id ← onDatabase (·.newStaging store)
  modify fun s => { s with stagings := rename s.stagings name id }

/-- Uses the staging under a name; also gives what it is like then. -/
def onStaging (name : String) (f : Database → StagingId → α × Database) :
    Step (α × Staging) := do
  let id ← lookup (← get).stagings name
  let a ← onDatabase (f · id)
  -- the staging as the call has left it
  return (a, ← (← seeWorld (·.database.stagings[id]?)).getM)

/-- Attaches a staging to a transaction; tells whether it joined. -/
def attach (name tx : String) (hints : Hints) : Step (Bool × Staging) := do
  let tx ← transaction tx
  onStaging name (·.attach · tx hints)

/-- Opens a staging that stands alone. -/
def openStaging (name : String) (hints : Hints) : Step Staging := do
  return (← onStaging name fun d id => ((), d.openStaging id hints)).2

/-- Stages a document. -/
def put (name key : String) (value : Body) : Step (Except StoreError Unit × Staging) :=
  onStaging name (·.put · key value)

/-- Stages the removal of a document. -/
def delete (name key : String) : Step (Except StoreError Unit × Staging) :=
  onStaging name (·.delete · key)

/-- Hands over what a staging holds. -/
def complete (name : String) : Step (Except StoreError Unit × Staging) :=
  onStaging name (·.complete ·)

/-- Closes a staging and forgets what it has staged. -/
def closeStaging (name : String) : Step (Except StoreError Unit × Staging) :=
  onStaging name fun d id => (.ok (), d.closeStaging id)

/-! ## The router -/

/-- Replaces the router; gives the address of the new one. -/
def useRouter (router : Router) : Step (Option String) :=
  modifyGet fun s => (router.localAddress, { s with router })

/-- Adds an operation to the batch; gives the number of operations then. -/
def addToBatch (op : Operation) : Step Nat :=
  modifyGet fun s => (s.batch.length + 1, { s with batch := s.batch ++ [op] })

/-- Empties the batch. -/
def takeBatch : Step Batch := modifyGet fun s => (s.batch, { s with batch := [] })

/-- Makes the operation that sends a message. -/
def operationToSend (m : Draft) (how : Sending) : Step (Except Misuse Operation) := do
  keepIds (run false ((← get).router.operationToSend m how))

/-- Makes the operation that publishes a message. -/
def operationToPublish (m : Draft) (how : Publishing) : Step Operation := do
  run false ((← get).router.operationToPublish m how)

/-- Sends a message at once, or adds it to the batch. -/
def send (m : Draft) (how : Sending) (batch : Bool) : Step (Except CallError Unit) := do
  if batch then
    match ← operationToSend m how with
    | .error e => return .error (.misuse e)
    | .ok op =>
      let _ ← addToBatch op
      return .ok ()
  else keepIds (run false ((← get).router.send m how))

/-- Publishes a message at once, or adds it to the batch. -/
def publish (m : Draft) (how : Publishing) (batch : Bool) :
    Step (Except CallError Unit) := do
  if batch then
    let _ ← addToBatch (← operationToPublish m how)
    return .ok ()
  else keepIds (run false ((← get).router.publish m how))

/-! ## Sessions -/

/-- Makes the endpoint; also tells how many records its store has. -/
def makeEndpoint (c : Config) (store : String) : Step (Except Misuse (Endpoint × Nat)) := do
  match Endpoint.new c store with
  | .error e => return .error e
  | .ok made =>
    modify fun s => { s with endpoint := some made }
    return .ok (made, (← seeWorld (·.database.store store)).records.size)

/-- The endpoint that was made last. -/
def endpoint : Step Endpoint := do (← get).endpoint.getM

/-- Keeps a session under a name. A session that had the name is destroyed. -/
def keep (name : String) (held : HeldSession) : Step Unit := do
  -- the former session has its staging released
  if let some former := (← get).sessions.lookup name then run false former.session.drop
  modify fun s => { s with sessions := rename s.sessions name held }

/-- Makes a session under a name. -/
def newSession (name : String) (kind : Session.Kind) : Step (Except Misuse Unit) := do
  let e ← endpoint
  match e.session kind (← onDatabase (·.newStaging e.store)) with
  | .error m => return .error m
  | .ok session =>
    keep name { session, kind }
    return .ok ()

/-- Makes a session with an outbox on given stores, without the endpoint. -/
def newOutboxed (name store stagingStore processorAddress : String) : Step Unit := do
  let staging ← onDatabase (·.newStaging stagingStore)
  let router := (← get).router
  -- with a store and a staging of its own, which may not fit together
  keep name ⟨.outboxed { store, staging, router, processorAddress }, .outboxed⟩

/-- Makes a session without an outbox on a given store, without the endpoint. -/
def newDirect (name stagingStore : String) : Step Unit := do
  let staging ← onDatabase (·.newStaging stagingStore)
  let router := (← get).router
  keep name ⟨.direct { staging, router }, .direct⟩

/-- Makes and opens a session under a name. -/
def openSession (name : String) (kind : Session.Kind) (opening : Opening) (cancelled : Bool) :
    Step (Except CallError Unit) :=
  keepIds do
    let e ← endpoint
    let staging ← onDatabase (·.newStaging e.store)
    -- a session that does not open is destroyed, and what stood under the name stays
    match ← run cancelled (e.openSession kind staging opening) with
    | .error e => return .error e
    | .ok session =>
      keep name { session, kind }
      return .ok ()

/-- The session under a name. -/
def session (name : String) : Step HeldSession := do lookup (← get).sessions name

/-- Calls the session under a name. -/
def call (name : String) (c : Session.Request) (cancelled : Bool) : Step (Except CallError Unit) :=
  keepIds do
    let held ← session name
    let (after, r) ← run cancelled (held.session.perform c)
    -- a request that ends the session takes its name away
    modify fun s => { s with
      sessions := match after with
        | some session => rename s.sessions name { held with session }
        | none => s.sessions.filter (·.1 != name) }
    return r

/-- Destroys the session under a name; tells whether there was one. -/
def destroy (name : String) : Step Bool := do
  if ((← get).sessions.lookup name).isNone then return false
  let _ ← call name .drop false
  return true

/-- Stages a change in the staging of a session; gives the number of staged changes. -/
def change (name : String) (f : Database → StagingId → Except StoreError Unit × Database) :
    Step (Except CallError Nat) := do
  match (← session name).session.stagingIfOpen with
  | .error e => return .error (.misuse e)
  | .ok id =>
    match ← onDatabase (f · id) with
    | .error e => return .error (.ofStore e)
    | .ok () => return .ok ((← seeWorld (·.database.stagings[id]?)).map (·.staged.length) |>.getD 0)

/-- Stages a document in a session. -/
def stage (name key : String) (value : Body) : Step (Except CallError Nat) :=
  change name (·.put · key value)

/-- Stages the removal of a document in a session. -/
def unstage (name key : String) : Step (Except CallError Nat) :=
  change name (·.delete · key)

/-! ## Processing -/

/-- Replaces the receiver; gives its address. -/
def useReceiver (p : Receiver) : Step String :=
  modifyGet fun s => (p.address, { s with receiver := some p })

/-- Has the receiver take a message. -/
def deliver (m : Message) : Step (Except DeliveryError Disposition) := do
  run false ((← (← get).receiver.getM).receive m)

/-- Has the receiver take the message of an operation that was dispatched before. -/
def redeliver (index : Nat) : Step (Except DeliveryError Disposition) := do
  deliver (← (← seeWorld (·.transport.dispatched[index]?)).getM).message

/-- Has the receiver take what is due in a queue. -/
def process (queue : String) : Step (Except DeliveryError Disposition) := do
  -- a receive that finds nothing has no answer, and nothing is delivered
  deliver (← (← underLock (onSimulation (·.take queue))).getM)

/-- Starts a worker under a name. -/
def spawn (name : String) (w : Worker) : Step Unit :=
  onSimulation fun s => ((), s.spawn name w)

/-- Tells a worker to stop. -/
def signalStop (name : String) : Step Unit := onSimulation fun s => ((), s.signalStop name)

/-- Forgets a worker; gives what it has counted. -/
def removeWorker (name : String) : Step Tally := do
  let w ← ((← get).simulation.worker? name).getM
  modify fun s => { s with simulation := s.simulation.removeWorker name }
  return w.tally

end Step

namespace Scenario

variable {α : Type}

/-- Makes a step, and lets every worker do all that it can then. -/
def perform (s : Scenario) (step : Step α) : Option α × Scenario :=
  -- also a step without an answer is followed by what the workers do
  let (a, s) := (OptionT.run step).run s
  (a, { s with simulation := s.simulation.settle })

end Scenario

end Outbox
