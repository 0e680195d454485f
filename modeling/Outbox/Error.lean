import Outbox.Text.Quoted

/-!
# What can go wrong

Every failure is a cause with what it is about, and one function per kind of cause gives the
words. A failure that passes on an inner one keeps it whole.
-/

namespace Outbox

/-- Why headers hold no countdown. -/
inductive HeaderError where
  | missing (name : String)
  | badDuration (text : String)
  | badTimestamp (text : String)
  | badAttempt (text : String)
  /-- A duration is longer than a span can be. -/
  | tooLong
deriving DecidableEq, Repr

/-- The words for a fault in headers. -/
def HeaderError.message : HeaderError → String
  | .missing name => s!"missing header {name}"
  | .badDuration text => "invalid duration: " ++ Text.quoted text
  | .badTimestamp text => "invalid timestamp: " ++ Text.quoted text
  | .badAttempt text => "invalid attempt: " ++ Text.quoted text
  | .tooLong => "duration out of range"

/-- How the transport refuses what it is handed. -/
inductive Refusal where
  /-- It was told to. -/
  | told (reason : String)
  /-- An earlier dispatch has panicked while it held the lock of the transport. -/
  | lockPoisoned
deriving DecidableEq, Repr

instance : Coe String Refusal := ⟨.told⟩

/-- Why the transport did not take what it was handed. -/
inductive DispatchError where
  | rejected (refusal : Refusal)
deriving DecidableEq, Repr

/-- The words for a refusal by the transport. -/
def DispatchError.message : DispatchError → String
  | .rejected (.told reason) => s!"dispatch rejected: {reason}"
  | .rejected .lockPoisoned => "transport lock poisoned during dispatch"

/-- Why a store did not do what it was asked. -/
inductive StoreError where
  /-- There is a record under the id already. -/
  | conflict (id : String)
  /-- Two things do not belong to one store. -/
  | incompatible (reason : String)
  | serialization (reason : String)
  | backend (reason : String)
deriving DecidableEq, Repr

/-- The words for a failure of a store. -/
def StoreError.message : StoreError → String
  | .conflict id => s!"an outbox record with id {id} already exists"
  | .incompatible reason => reason
  | .serialization reason => s!"serialization failed: {reason}"
  | .backend reason => reason

/-- How a caller misused a session or its configuration. -/
inductive Misuse where
  | notOpen
  | alreadyOpen
  | alreadyCommitted
  | commitFailed
  | disposed
  /-- The named duration is negative. -/
  | negative (name : String)
  /-- The named duration is zero. -/
  | zero (name : String)
  /-- The named duration is longer than a span can be. -/
  | tooLong (name : String)
  | outboxDisabled
  | noProcessorAddress
  | addressWithoutOutbox
  | blankSessionId (id : String)
  /-- There is no queue for the message type. -/
  | unroutable (messageType : String)
deriving DecidableEq, Repr

/-- The words for a misuse. -/
def Misuse.message : Misuse → String
  | .notOpen => "the session has not been opened"
  | .alreadyOpen => "the session is already open"
  | .alreadyCommitted => "the session has already been committed"
  | .commitFailed => "the session failed to commit and can only be disposed"
  | .disposed => "the session has been disposed"
  | .negative name => s!"{name} must not be negative"
  | .zero name => s!"{name} must be greater than zero"
  | .tooLong name => s!"{name} is too large"
  | .outboxDisabled => "the outbox is disabled for this endpoint"
  | .noProcessorAddress =>
    "a processor address is required for send-only endpoints using the outbox"
  | .addressWithoutOutbox =>
    "a processor address can only be configured when the outbox is enabled"
  | .blankSessionId id => s!"invalid session id: {id}"
  | .unroutable messageType => s!"no destination could be resolved for message type {messageType}"

/-- Why a call on a session failed. -/
inductive CallError where
  | misuse (cause : Misuse)
  | incompatible (reason : String)
  | store (cause : StoreError)
  | dispatch (cause : DispatchError)
  | cancelled
deriving DecidableEq, Repr

namespace CallError

/-- The words for a failed call: those of its cause, with its origin in front. -/
def message : CallError → String
  | misuse cause => cause.message
  | incompatible reason => s!"storage and outbox are not compatible: {reason}"
  | store cause => s!"storage error: {cause.message}"
  | dispatch cause => s!"transport error: {cause.message}"
  | cancelled => "operation cancelled"

/-- Whether the call may succeed when it is made again. -/
def isTransient : CallError → Bool
  | store (.incompatible _) => false
  | store _ | dispatch _ => true
  | misuse _ | incompatible _ | cancelled => false

/-- Whether the caller misused the session. -/
def isMisuse : CallError → Bool
  | misuse _ => true
  | _ => false

/-- A failure of a store as a session reports it: that two things do not belong to one store is a
failure of its own. -/
def ofStore : StoreError → CallError
  | .incompatible reason => incompatible reason
  | cause => store cause

end CallError

/-- Why the delivery of a message failed. -/
inductive DeliveryError where
  | handler (reason : String)
  | store (cause : StoreError)
  | dispatch (cause : DispatchError)
  | header (cause : HeaderError)
deriving DecidableEq, Repr

/-- The words for a failed delivery, as the error queue shows them. -/
def DeliveryError.message : DeliveryError → String
  | .handler reason => s!"handler failed: {reason}"
  | .store cause => s!"storage error: {cause.message}"
  | .dispatch cause => s!"transport error: {cause.message}"
  | .header cause => s!"malformed control message: {cause.message}"

end Outbox
