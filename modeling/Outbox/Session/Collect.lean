import Outbox.Router
import Outbox.Session.Opening
import Outbox.Session.Phase

/-!
# What all sessions do alike

Before a call does anything, the phase of the session must allow it and the caller must not have
cancelled. Messages are routed and stamped when they are sent, not when the session commits.
-/

namespace Outbox

/-- Passes when the phase allows the call and the caller has not cancelled. -/
def passIf (allowed : Except Misuse Unit) : Program (Except CallError Unit) :=
  match allowed with
  | .error e => return .error (.misuse e)
  | .ok () => do
    -- a call that the phase forbids is refused in the same way whether or not the caller has
    -- cancelled
    if ← .ask .isCancelled then return .error .cancelled
    else return .ok ()

/-- The operation that a send adds to the batch of an open session. -/
def collectSend (phase : Session.Phase) (router : Router) (m : Draft)
    (how : Sending) : Program (Except CallError Operation) := do
  match ← passIf phase.requireOpen with
  | .error e => return .error e
  | .ok () =>
    match ← router.operationToSend m how with
    | .error e => return .error (.misuse e)
    | .ok op => return .ok op

/-- The operation that a publish adds to the batch of an open session. -/
def collectPublish (phase : Session.Phase) (router : Router) (m : Draft)
    (how : Publishing) : Program (Except CallError Operation) := do
  match ← passIf phase.requireOpen with
  | .error e => return .error e
  | .ok () => return .ok (← router.operationToPublish m how)

/-- The id that the caller gives a session, unless it is blank, or a new one. -/
def Opening.chooseId (o : Opening) : Program (Except Misuse String) :=
  match o.sessionId with
  | none => do return .ok (← .ask .freshId)
  | some id => return if isBlankId id then .error (.blankSessionId id) else .ok id

end Outbox
