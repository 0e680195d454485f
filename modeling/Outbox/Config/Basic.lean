import Std.Data.ExtTreeMap
import Outbox.Error

/-!
# Configuration

What every session of an endpoint shares. An endpoint with the outbox needs a queue for its
control messages: the processor address, or else its own input queue.

* `validate_eq_ok_iff`  when a configuration is accepted
-/

namespace Outbox

/-- Settings of an endpoint. Durations are in nanoseconds. -/
structure Config where
  /-- The input queue of the endpoint; an endpoint that only sends has none. -/
  localAddress : Option String := none
  /-- Where control messages go, if not to the input queue. -/
  processorAddress : Option String := none
  outboxEnabled : Bool := true
  commitBudget : Nat := 15000000000
  firstDelay : Nat := 2000000000
  errorQueue : String := "error"
  /-- The queue of each message type. -/
  routes : Std.ExtTreeMap String String := ∅
deriving DecidableEq

instance : Inhabited Config := ⟨{}⟩

/-- The name of the setting that bounds the commit. -/
def budgetName : String := "maximum_commit_duration"

/-- The name of the setting with which delays start. -/
def delayName : String := "commit_delay_increment"

namespace Config

/-- Checks the first delay, and that addresses and outbox fit together. -/
def validate (c : Config) : Except Misuse Unit :=
  if c.firstDelay = 0 then .error (.zero delayName)
  else if c.processorAddress.isSome && !c.outboxEnabled then .error .addressWithoutOutbox
  else if c.outboxEnabled && c.processorAddress.isNone && c.localAddress.isNone then
    .error .noProcessorAddress
  else .ok ()

/-- The queue that control messages are sent to. -/
def processorQueue (c : Config) : Except Misuse String :=
  match c.validate with
  | .error e => .error e
  | .ok () =>
    match c.processorAddress.or c.localAddress with
    | some queue => .ok queue
    | none => .error .noProcessorAddress

/-- A configuration is accepted when the first delay is not zero, only an endpoint with outbox has a
processor address, and an endpoint with outbox has some queue for its control messages. -/
theorem validate_eq_ok_iff (c : Config) :
    c.validate = .ok () ↔ 0 < c.firstDelay ∧
      (c.processorAddress.isSome → c.outboxEnabled) ∧
      (c.outboxEnabled → (c.processorAddress.or c.localAddress).isSome) := by
  unfold validate
  by_cases h : c.firstDelay = 0
  · simp [h]
  · have hpos : 0 < c.firstDelay := by omega
    -- what is left depends only on which addresses there are and on the outbox
    cases c.processorAddress <;> cases c.localAddress <;> cases c.outboxEnabled <;> simp [h, hpos]

end Config

end Outbox
