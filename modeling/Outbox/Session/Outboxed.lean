import Outbox.Retry.Header
import Outbox.Session.Collect

/-!
# Sessions with an outbox

A session collects operations and commits them together with one change of the business data:

1. the control message goes to the processor, on its own
2. the staging hands its changes to the transaction
3. the batch is added to the transaction, as the record of the session
4. the transaction is committed

The last three take effect together or not at all, and once they have begun the caller can no
longer cancel. When one of them fails the transaction is let go, the staging closed, and the
session can only be disposed; its control message stays on its way and in the end has the id of
the session blocked.
-/

namespace Outbox

/-- What a session holds from the moment it is open. -/
structure Session.Opened where
  sessionId : String
  countdown : Countdown
  opening : Opening
  /-- The transaction, until it is committed or let go. -/
  transaction : Option TransactionId

/-- A session that commits through the outbox. -/
structure Session.Outboxed where
  store : String
  staging : StagingId
  router : Router
  processorAddress : String
  phase : Session.Phase := .unopened
  opened : Option Session.Opened := none
  batch : Batch := []
  /-- Whether the staging has been released. -/
  released : Bool := false

namespace Session.Outboxed

/-- The id, once the session is open. -/
def sessionId? (s : Outboxed) : Option String := s.opened.map (·.sessionId)

/-- The transaction that the session still holds. -/
def transaction? (s : Outboxed) : Option TransactionId := s.opened.bind (·.transaction)

/-- The session without its transaction. -/
def withoutTransaction (s : Outboxed) : Outboxed :=
  { s with opened := s.opened.map fun o => { o with transaction := none } }

/-- Lets go of the transaction and releases the staging, each once. -/
def release (s : Outboxed) : Program Outboxed := do
  if let some tx := s.transaction? then .ask (.rollback tx)
  let s := s.withoutTransaction
  if s.released then return s
  .ask (.closeStaging s.staging)
  return { s with released := true }

/-- Releases the staging, once. -/
def closeOnce (s : Outboxed) : Program Outboxed := do
  if s.released then return s
  .ask (.closeStaging s.staging)
  return { s with released := true }

/-- There is nothing left to close when the staging has been released. -/
theorem closeOnce_of_released {s : Outboxed} (h : s.released = true) :
    s.closeOnce = .done { s with released := true } := by
  rw [closeOnce, if_pos h, ← h]
  rfl

/-- Without a transaction a release only closes the staging. -/
theorem release_of_none {s : Outboxed} (h : s.transaction? = none) :
    s.release = s.withoutTransaction.closeOnce := by
  unfold release
  rw [h]
  rfl

/-- With a transaction a release lets go of it before it closes the staging. -/
theorem release_of_some {s : Outboxed} {tx : TransactionId} (h : s.transaction? = some tx) :
    s.release = .call (.rollback tx) fun _ => s.withoutTransaction.closeOnce := by
  unfold release
  rw [h]
  rfl

/-- Gives up a session that has a transaction but could not open. -/
def abandon (s : Outboxed) (tx : TransactionId) (e : CallError) :
    Program (Outboxed × Except CallError Unit) := do
  -- the session does not hold the transaction yet, so its release leaves the transaction alone
  let s ← s.release
  .ask (.rollback tx)
  return ({ s with phase := .disposed }, .error e)

/-- What an open that is refused has to say. -/
def cannotJoin : CallError :=
  .incompatible "the synchronized storage session cannot join the outbox transaction"

/-- Starts the transaction for an opening that is in order, and attaches the staging to it. -/
def start (s : Outboxed) (opening : Opening) (sessionId : String) (countdown : Countdown) :
    Program (Outboxed × Except CallError Unit) := do
  match ← .ask (.unlessCancelled (.beginTransaction s.store opening.hints)) with
  | none => return (s, .error .cancelled)
  | some (.error e) => return (s, .error (.ofStore e))
  | some (.ok tx) =>
    match ← .ask (.unlessCancelled (.attach s.staging tx opening.hints)) with
    -- the staging may have joined before the wait was given up, so the transaction is let go too
    | none => s.abandon tx .cancelled
    | some (.error e) => s.abandon tx (.ofStore e)
    | some (.ok false) => s.abandon tx cannotJoin
    | some (.ok true) =>
      return ({ s with
        phase := .opened
        opened := some { sessionId, countdown, opening, transaction := some tx } }, .ok ())

/-- Opens the session. An opening that is not in order is refused before any collaborator hears of
it. -/
def openWith (s : Outboxed) (opening : Opening) :
    Program (Outboxed × Except CallError Unit) := do
  match ← passIf s.phase.requireUnopened with
  | .error e => return (s, .error e)
  | .ok () =>
    match opening.validate with
    | .error e => return (s, .error (.misuse e))
    | .ok () =>
      match ← opening.chooseId with
      | .error e => return (s, .error (.misuse e))
      | .ok id =>
        match Countdown.initial id opening.commitBudget opening.firstDelay none with
        | .error _ => return (s, .error (.misuse (.tooLong budgetName)))
        | .ok countdown => s.start opening id countdown

/-- The staging of an open session. -/
def stagingIfOpen (s : Outboxed) : Except Misuse StagingId :=
  s.phase.requireOpen.map fun _ => s.staging

/-- Adds an operation to the batch. -/
def add (s : Outboxed) (op : Operation) : Outboxed :=
  { s with batch := s.batch ++ [op] }

/-- Collects a message for one queue. -/
def send (s : Outboxed) (m : Draft) (how : Sending) :
    Program (Outboxed × Except CallError Unit) := do
  match ← collectSend s.phase s.router m how with
  | .error e => return (s, .error e)
  | .ok op => return (s.add op, .ok ())

/-- Collects a message for the subscribers of a topic. -/
def publish (s : Outboxed) (m : Draft) (how : Publishing) :
    Program (Outboxed × Except CallError Unit) := do
  match ← collectPublish s.phase s.router m how with
  | .error e => return (s, .error e)
  | .ok op => return (s.add op, .ok ())

/-- The operation that announces the session to the processor. -/
def announcement (s : Outboxed) (o : Opened) (now : Time.Instant) :
    Shipment where
  message := controlMessage { o.countdown with timeSent := some now } o.opening.metadata
  destination := .queue s.processorAddress
  isolated := true

/-- Sends the control message, as long as the caller does not cancel. -/
def announce (s : Outboxed) (o : Opened) : Program (Except CallError Unit) := do
  let now ← .ask .now
  match ← .ask (.unlessCancelled (.dispatch [s.announcement o now])) with
  | none => return .error .cancelled
  | some (.error e) => return .error (.dispatch e)
  | some (.ok ()) => return .ok ()

/-- Hands the changes over, adds the record and commits; stops at the first failure. -/
def applyIn (s : Outboxed) (id : String) (tx : TransactionId) :
    Program (Except StoreError Unit) := do
  -- documents first, then the record; neither shows before the commit
  match ← .ask (.complete s.staging) with
  | .error e => return .error e
  | .ok () =>
    match ← .ask (.addRecord s.store (Record.new id s.batch) tx) with
    | .error e => return .error e
    | .ok () => .ask (.commit tx)

/-- Makes the changes and the record durable, or lets go of the transaction. -/
def makeDurable (s : Outboxed) (id : String) (tx : TransactionId) :
    Program (Except CallError Unit) := do
  match ← s.applyIn id tx with
  | .ok () => return .ok ()
  | .error e =>
    .ask (.rollback tx)
    return .error (.ofStore e)

/-- Ends a commit in the given phase. -/
def finish (s : Outboxed) (phase : Phase) (result : Except CallError Unit) :
    Program (Outboxed × Except CallError Unit) := do
  let s ← s.release
  return ({ s with phase }, result)

/-- Commits the session. -/
def commit (s : Outboxed) : Program (Outboxed × Except CallError Unit) := do
  match ← passIf s.phase.requireOpen with
  | .error e => return (s, .error e)
  | .ok () =>
    match s.opened with
    -- an open session has been opened; this case does not come up
    | none => s.finish .failed (.error (.misuse .notOpen))
    | some o =>
      match ← s.announce o with
      | .error e => s.finish .failed (.error e)
      | .ok () =>
        match o.transaction with
        -- the transaction of an open session has not been let go yet; this case does not come up
        | none => s.finish .failed (.error (.misuse .notOpen))
        | some tx =>
          -- from here on the caller can no longer cancel
          let result ← s.makeDurable o.sessionId tx
          let phase := match result with
            | .ok () => Phase.committed
            | .error _ => .failed
          s.withoutTransaction.finish phase result

/-- Releases what the session holds. A disposed session has nothing to release. -/
def dispose (s : Outboxed) : Program Outboxed := do
  if s.phase = .disposed then return s
  let s ← s.release
  return { s with phase := .disposed }

/-- Ends the life of the session object. -/
def drop (s : Outboxed) : Program Unit := do
  let _ ← s.release

end Session.Outboxed

end Outbox
