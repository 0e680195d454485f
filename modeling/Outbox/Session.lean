import Outbox.Session.Direct
import Outbox.Session.Outboxed

/-!
# Sessions of either kind

A caller that only has a `Session` can do with it whatever sessions of both kinds can do. A
`Session.Request` is one such use, as data.
-/

namespace Outbox

/-- A session with or without an outbox. -/
inductive Session where
  | outboxed (session : Session.Outboxed)
  | direct (session : Session.Direct)

/-- What a caller can do with a session. -/
inductive Session.Request where
  | openWith (opening : Opening)
  | send (message : Draft) (how : Sending)
  | publish (message : Draft) (how : Publishing)
  | commit
  | dispose
  /-- The session object is destroyed. -/
  | drop

namespace Session

/-- Where the session is in its life. -/
def phase : Session → Session.Phase
  | outboxed s => s.phase
  | direct s => s.phase

/-- The id, once the session is open. -/
def sessionId? : Session → Option String
  | outboxed s => s.sessionId?
  | direct s => s.sessionId?

/-- What has been collected so far. -/
def batch : Session → Batch
  | outboxed s => s.batch
  | direct s => s.batch

/-- The opening, once the session is open. -/
def opening? : Session → Option Opening
  | outboxed s => s.opened.map (·.opening)
  | direct s => s.opened.map (·.2)

/-- The queue to which a session with an outbox sends its control message. -/
def processorAddress? : Session → Option String
  | outboxed s => some s.processorAddress
  | direct _ => none

/-- The staging of an open session. -/
def stagingIfOpen : Session → Except Misuse StagingId
  | outboxed s => s.stagingIfOpen
  | direct s => s.stagingIfOpen

/-- Opens the session. -/
def openWith (opening : Opening) : Session → Program (Session × Except CallError Unit)
  | outboxed s => return (← s.openWith opening).map outboxed id
  | direct s => return (← s.openWith opening).map direct id

/-- Collects a message for one queue. -/
def send (m : Draft) (how : Sending) :
    Session → Program (Session × Except CallError Unit)
  | outboxed s => return (← s.send m how).map outboxed id
  | direct s => return (← s.send m how).map direct id

/-- Collects a message for the subscribers of a topic. -/
def publish (m : Draft) (how : Publishing) :
    Session → Program (Session × Except CallError Unit)
  | outboxed s => return (← s.publish m how).map outboxed id
  | direct s => return (← s.publish m how).map direct id

/-- Commits the session. -/
def commit : Session → Program (Session × Except CallError Unit)
  | outboxed s => return (← s.commit).map outboxed id
  | direct s => return (← s.commit).map direct id

/-- Releases what the session holds. -/
def dispose : Session → Program Session
  | outboxed s => return outboxed (← s.dispose)
  | direct s => return direct (← s.dispose)

/-- Ends the life of the session object. -/
def drop : Session → Program Unit
  | outboxed s => s.drop
  | direct s => s.drop

/-- Does what a request says; a session that is destroyed is no longer there. -/
def perform (s : Session) : Session.Request → Program (Option Session × Except CallError Unit)
  | .openWith opening => return (← s.openWith opening).map some id
  | .send m how => return (← s.send m how).map some id
  | .publish m how => return (← s.publish m how).map some id
  | .commit => return (← s.commit).map some id
  | .dispose => return (some (← s.dispose), .ok ())
  | .drop => do
    s.drop
    return (none, .ok ())

end Session

end Outbox
