import Outbox.Session.Collect

/-!
# Sessions without an outbox

A direct session first hands over the changes of the business data and then dispatches its batch.
Nothing ties the two together: when the dispatch fails the changes stay and the messages are
lost. Once the commit has begun the caller can no longer cancel it.
-/

namespace Outbox

/-- A session that dispatches its batch itself. -/
structure Session.Direct where
  staging : StagingId
  router : Router
  phase : Session.Phase := .unopened
  /-- The id and the opening, once the session is open. -/
  opened : Option (String × Opening) := none
  batch : Batch := []
  /-- Whether the staging has been released. -/
  released : Bool := false

namespace Session.Direct

/-- The id, once the session is open. -/
def sessionId? (s : Direct) : Option String := s.opened.map (·.1)

/-- Releases the staging, once. -/
def release (s : Direct) : Program Direct := do
  if s.released then return s
  .ask (.closeStaging s.staging)
  return { s with released := true }

/-- Releases what the session holds and leaves it in the given phase. -/
def finish (s : Direct) (phase : Phase) (result : Except CallError Unit) :
    Program (Direct × Except CallError Unit) := do
  let s ← s.release
  return ({ s with phase }, result)

/-- Opens the session. -/
def openWith (s : Direct) (opening : Opening) :
    Program (Direct × Except CallError Unit) := do
  match ← passIf s.phase.requireUnopened with
  | .error e => return (s, .error e)
  | .ok () =>
    match ← opening.chooseId with
    | .error e => return (s, .error (.misuse e))
    | .ok id =>
      match ← .ask (.unlessCancelled (.openStaging s.staging opening.hints)) with
      -- a session whose opening was cancelled cannot be opened again
      | none => s.finish .disposed (.error .cancelled)
      | some (.error e) => s.finish .disposed (.error (.ofStore e))
      | some (.ok ()) =>
        return ({ s with phase := .opened, opened := some (id, opening) }, .ok ())

/-- The staging of an open session. -/
def stagingIfOpen (s : Direct) : Except Misuse StagingId :=
  s.phase.requireOpen.map fun _ => s.staging

/-- Adds an operation to the batch. -/
def add (s : Direct) (op : Operation) : Direct :=
  { s with batch := s.batch ++ [op] }

/-- Collects a message for one queue. -/
def send (s : Direct) (m : Draft) (how : Sending) :
    Program (Direct × Except CallError Unit) := do
  match ← collectSend s.phase s.router m how with
  | .error e => return (s, .error e)
  | .ok op => return (s.add op, .ok ())

/-- Collects a message for the subscribers of a topic. -/
def publish (s : Direct) (m : Draft) (how : Publishing) :
    Program (Direct × Except CallError Unit) := do
  match ← collectPublish s.phase s.router m how with
  | .error e => return (s, .error e)
  | .ok op => return (s.add op, .ok ())

/-- Hands the batch to the transport, in one call; an empty batch makes none. -/
def dispatchBatch (s : Direct) : Program (Except DispatchError Unit) :=
  if s.batch.isEmpty then return .ok ()
  else .ask (.dispatch (s.batch.map (·.toShipment)))

/-- Commits the session. -/
def commit (s : Direct) : Program (Direct × Except CallError Unit) := do
  match ← passIf s.phase.requireOpen with
  | .error e => return (s, .error e)
  | .ok () =>
    -- from here on the caller can no longer cancel
    match ← .ask (.complete s.staging) with
    | .error e => s.finish .failed (.error (.ofStore e))
    | .ok () =>
      -- the changes are applied and stay, whatever becomes of the batch
      match ← s.dispatchBatch with
      | .error e => s.finish .failed (.error (.dispatch e))
      | .ok () => s.finish .committed (.ok ())

/-- Releases what the session holds. -/
def dispose (s : Direct) : Program Direct := do
  let s ← s.release
  return { s with phase := .disposed }

/-- Ends the life of the session object. -/
def drop (s : Direct) : Program Unit := do
  let _ ← s.release

end Session.Direct

end Outbox
