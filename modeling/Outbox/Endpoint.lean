import Outbox.Session

/-!
# Endpoints

An endpoint holds a configuration that has been found valid, and the queue of its processor when
the configuration has an outbox. Whatever the configuration, it makes direct sessions; sessions
with an outbox only if the configuration enables it.
-/

namespace Outbox

/-- Which session a caller asks for. -/
inductive Session.Kind where
  | outboxed
  | direct
  /-- The kind that the configuration asks for. -/
  | configured
deriving DecidableEq, Repr

/-- Makes sessions on one store. -/
structure Endpoint where
  config : Config
  store : String
  router : Router
  processorAddress : Option String
deriving DecidableEq

namespace Endpoint

/-- Checks a configuration and makes its endpoint. -/
def new (config : Config) (store : String) : Except Misuse Endpoint :=
  match config.validate with
  | .error m => .error m
  | .ok () =>
    -- a configuration that is valid and has the outbox enabled names some queue
    if config.outboxEnabled then
      config.processorQueue.map fun queue =>
        { config, store, router := .ofConfig config, processorAddress := some queue }
    else .ok { config, store, router := .ofConfig config, processorAddress := none }

/-- An opening with the configured durations. -/
def opening (e : Endpoint) : Opening := .ofConfig e.config

/-- A session with an outbox, on a staging of its own. -/
def outboxed (e : Endpoint) (staging : StagingId) : Except Misuse Session.Outboxed :=
  match e.processorAddress with
  | none => .error .outboxDisabled
  | some processorAddress => .ok { store := e.store, staging, router := e.router, processorAddress }

/-- A session without an outbox, on a staging of its own. -/
def direct (e : Endpoint) (staging : StagingId) : Session.Direct :=
  { staging, router := e.router }

/-- The session of a kind. -/
def session (e : Endpoint) (kind : Session.Kind) (staging : StagingId) :
    Except Misuse Session :=
  match kind with
  | .outboxed => (e.outboxed staging).map .outboxed
  | .direct => .ok (.direct (e.direct staging))
  | .configured =>
    -- without an outbox the caller gets what the configuration can give
    match e.outboxed staging with
    | .ok s => .ok (.outboxed s)
    | .error _ => .ok (.direct (e.direct staging))

/-- A session that is open. One that does not open is destroyed. -/
def openSession (e : Endpoint) (kind : Session.Kind) (staging : StagingId)
    (opening : Opening) : Program (Except CallError Session) :=
  match e.session kind staging with
  | .error m => return .error (.misuse m)
  | .ok s => do
    match ← s.openWith opening with
    | (s, .ok ()) => return .ok s
    | (s, .error e) =>
      s.drop
      return .error e

end Endpoint

end Outbox
