import Outbox.Error

/-!
# The life of a session

A session is opened once, collects operations while it is open, and is committed once. A failed
commit leaves only the way out, and every session can be disposed. Each phase refuses what it
does not allow with an error of its own.

* `requireOpen_eq_ok_iff`, `requireUnopened_eq_ok_iff`  what is refused, and when
-/

namespace Outbox

/-- Where a session is in its life. -/
inductive Session.Phase where
  | unopened
  | opened
  | committed
  /-- A commit was tried and failed. -/
  | failed
  | disposed
deriving DecidableEq, Repr

namespace Session.Phase

/-- Refuses what only an open session can do. -/
def requireOpen : Session.Phase → Except Misuse Unit
  | opened => .ok ()
  | unopened => .error .notOpen
  | committed => .error .alreadyCommitted
  | failed => .error .commitFailed
  | disposed => .error .disposed

/-- Refuses to open a session that has been opened before. -/
def requireUnopened : Session.Phase → Except Misuse Unit
  | unopened => .ok ()
  | opened => .error .alreadyOpen
  | p => p.requireOpen

/-- Only an open session is let through. -/
theorem requireOpen_eq_ok_iff (p : Session.Phase) : p.requireOpen = .ok () ↔ p = opened := by
  cases p <;> simp [requireOpen]

/-- Only a session that has never been opened is let through. -/
theorem requireUnopened_eq_ok_iff (p : Session.Phase) :
    p.requireUnopened = .ok () ↔ p = unopened := by
  cases p <;> simp [requireUnopened, requireOpen]

end Session.Phase

end Outbox
