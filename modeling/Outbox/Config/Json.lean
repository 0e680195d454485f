import Outbox.Config.Basic
import Outbox.Json.Skip
import Outbox.Retry.Header

/-!
# Configurations in JSON

A configuration is an object with up to seven known keys, or an array of their values in order,
of which only the routes may be missing. Unknown keys are passed over, a known key may not come
twice, and of two routes for one message type the later counts. What is wrong first in the order
of reading decides, so a fault of shape in front hides one of syntax behind it.

Durations are texts. They are looked at when the whole text has been read, the commit budget
before the delay.
-/

namespace Outbox

open Json

/-- Why a text is no configuration. -/
inductive ConfigError where
  | json (fault : Fault)
  | duration (name : String) (cause : HeaderError)
  | misuse (cause : Misuse)
deriving DecidableEq, Repr

/-- What a fault of configuration has to say. -/
def ConfigError.message : ConfigError → String
  | .json .malformed => "invalid configuration json: the text is not JSON"
  | .json .mismatched => "invalid configuration json: a value has the wrong shape"
  | .json .truncated => "invalid configuration json: the text ends too early"
  | .duration name cause => s!"invalid {name}: {cause.message}"
  | .misuse cause => cause.message

/-- The settings as they stand in the text. -/
structure ConfigText where
  localAddress : Option String := none
  processorAddress : Option String := none
  outboxEnabled : Option Bool := none
  commitBudget : Option String := none
  firstDelay : Option String := none
  errorQueue : Option String := none
  routes : Std.ExtTreeMap String String := ∅

/-- Reads a value off the front of the tokens. -/
abbrev Json.Reader (α : Type) := List Token → Except Fault (α × List Token)

namespace Json

/-- What is wrong with a value of another type than the one that is asked for. -/
def Token.mismatch : Token → Fault
  | null | boolean _ | openObject | openArray => .mismatched
  | text (.ok _) _ | number (.ok _) _ => .mismatched
  | text (.error fault) _ | number (.error fault) _ | broken fault => fault
  | closeObject | closeArray | comma | colon => .malformed

/-- Reads a string. -/
def readString : Reader String
  | [] => .error .truncated
  | .text (.ok s) _ :: rest => .ok (s, rest)
  | t :: _ => .error t.mismatch

/-- Reads a truth value. -/
def readBoolean : Reader Bool
  | [] => .error .truncated
  | .boolean b :: rest => .ok (b, rest)
  | t :: _ => .error t.mismatch

/-- Reads a value that may be null. -/
def readOptional {α : Type} (read : Reader α) : Reader (Option α)
  | .null :: rest => .ok (none, rest)
  | tokens => (read tokens).map fun (a, rest) => (some a, rest)

/-- Takes the colon behind a key. -/
def takeColon : List Token → Except Fault (List Token)
  | [] => .error .truncated
  | .colon :: rest => .ok rest
  | _ :: _ => .error .malformed

/-- Reads the members of an object up to its end, in up to `fuel` members: `first` says that the
object has just begun, and `member` reads what stands behind a key. -/
def readMembers {σ : Type} (member : σ → String → Reader σ) : Nat → (first : Bool) → σ → Reader σ
  | 0, _, _, _ => .error .truncated
  | _ + 1, _, _, [] => .error .truncated
  | _ + 1, _, s, .closeObject :: rest => .ok (s, rest)
  | fuel + 1, first, s, t :: rest => do
    let tokens ← if first then .ok (t :: rest) else
      match t, rest with
      | .comma, [] => .error .truncated
      | .comma, rest => .ok rest
      | _, _ => .error .malformed
    match tokens with
    | .text (.ok key) _ :: rest =>
      let (s, rest) ← member s key rest
      readMembers member fuel false s rest
    | .text (.error fault) _ :: _ => .error fault
    | _ => .error .malformed

/-- Reads what is left of an object behind its opening brace. -/
def readObject {σ : Type} (member : σ → String → Reader σ) (s : σ) : Reader σ := fun tokens =>
  readMembers member (tokens.length + 1) true s tokens

/-- Reads one route: the queue behind a message type. -/
def readRoute (texts : Std.ExtTreeMap String String) (key : String) :
    Reader (Std.ExtTreeMap String String) := fun tokens => do
  let rest ← takeColon tokens
  let (value, rest) ← readString rest
  return (texts.insert key value, rest)

/-- Reads an object of texts. -/
def readRoutes : Reader (Std.ExtTreeMap String String)
  | [] => .error .truncated
  | .openObject :: rest => readObject readRoute ∅ rest
  | t :: _ => .error t.mismatch

end Json

/-- The settings that a text can name. -/
inductive Setting where
  | localAddress
  | processorAddress
  | outboxEnabled
  | commitBudget
  | firstDelay
  | errorQueue
  | routes
deriving DecidableEq, Repr

namespace Setting

/-- The setting under a key. -/
def ofKey? : String → Option Setting
  | "local_address" => some localAddress
  | "processor_address" => some processorAddress
  | "outbox_enabled" => some outboxEnabled
  | "maximum_commit_duration" => some commitBudget
  | "commit_delay_increment" => some firstDelay
  | "error_queue" => some errorQueue
  | "routes" => some routes
  | _ => none

/-- All settings in the order of an array. -/
def inOrder : List Setting :=
  [localAddress, processorAddress, outboxEnabled, commitBudget, firstDelay,
    errorQueue, routes]

/-- Reads the value of a setting into the settings. -/
def readInto (c : ConfigText) : Setting → Reader ConfigText
  | localAddress, ts =>
    (readOptional readString ts).map fun (v, r) => ({ c with localAddress := v }, r)
  | processorAddress, ts =>
    (readOptional readString ts).map fun (v, r) => ({ c with processorAddress := v }, r)
  | outboxEnabled, ts =>
    (readOptional readBoolean ts).map fun (v, r) => ({ c with outboxEnabled := v }, r)
  | commitBudget, ts =>
    (readOptional readString ts).map fun (v, r) => ({ c with commitBudget := v }, r)
  | firstDelay, ts =>
    (readOptional readString ts).map fun (v, r) => ({ c with firstDelay := v }, r)
  | errorQueue, ts => (readOptional readString ts).map fun (v, r) => ({ c with errorQueue := v }, r)
  | routes, ts => (readRoutes ts).map fun (v, r) => ({ c with routes := v }, r)

end Setting

namespace ConfigText

/-- Reads what stands behind a key: the value of a known setting that has not come before, or any
value at all behind a key that is not known. -/
def readSetting (c : List Setting × ConfigText) (key : String) :
    Reader (List Setting × ConfigText) := fun tokens =>
  match Setting.ofKey? key with
  -- the value must be there, but nobody looks at it
  | none => do
    let rest ← takeColon tokens
    let rest ← skipValue rest
    return (c, rest)
  | some setting =>
    -- known already: the second value is not looked at
    if setting ∈ c.1 then .error .mismatched
    else do
      let rest ← takeColon tokens
      let (settings, rest) ← setting.readInto c.2 rest
      return ((setting :: c.1, settings), rest)

/-- Reads the values of an array in order, up to its end. -/
def readItems : (first : Bool) → ConfigText → List Setting → Reader ConfigText
  | _, _, _, [] => .error .truncated
  | _, c, [], .closeArray :: rest => .ok (c, rest)
  | _, _, [], _ :: _ => .error .malformed
  | _, c, [.routes], .closeArray :: rest => .ok (c, rest)
  | _, _, _ :: _, .closeArray :: _ => .error .mismatched
  | first, c, setting :: settings, t :: rest => do
    let tokens ← if first then .ok (t :: rest) else
      match t, rest with
      | .comma, [] => .error .truncated
      -- a comma at the end of an array is a fault of syntax, before any setting is read
      | .comma, .closeArray :: _ => .error .malformed
      | .comma, rest => .ok rest
      | _, _ => .error .malformed
    let (c, rest) ← setting.readInto c tokens
    readItems false c settings rest

/-- Reads a whole text. -/
def read (s : String) : Except Fault ConfigText := do
  let tokens := Json.tokens s
  let (c, rest) ← match tokens with
    | [] => .error .truncated
    | .openObject :: rest => (readObject readSetting ([], {}) rest).map fun (c, rest) => (c.2, rest)
    | .openArray :: rest => readItems true {} Setting.inOrder rest
    | t :: _ => .error t.mismatch
  -- after the value there may be nothing but blanks
  if rest.isEmpty then return c else throw .malformed

end ConfigText

namespace Config

/-- Reads a duration that may be missing; it must not be negative. -/
def readSpan (name : String) (default : Nat) : Option String → Except ConfigError Nat
  | none => .ok default
  | some text =>
    match Outbox.readDuration text with
    | .error cause => .error (.duration name cause)
    | .ok d =>
      if d < Time.Span.zero then .error (.misuse (.negative name)) else .ok d.nanos.toNat

/-- The configuration that a JSON text holds. -/
def ofJson (s : String) : Except ConfigError Config := do
  let c ← (ConfigText.read s).mapError .json
  let standard : Config := {}
  let commitBudget ←
    readSpan budgetName standard.commitBudget c.commitBudget
  let firstDelay ←
    readSpan delayName standard.firstDelay c.firstDelay
  let config : Config :=
    { localAddress := c.localAddress
      processorAddress := c.processorAddress
      outboxEnabled := c.outboxEnabled.getD standard.outboxEnabled
      commitBudget
      firstDelay
      errorQueue := c.errorQueue.getD standard.errorQueue
      routes := c.routes }
  config.validate.mapError .misuse
  return config

end Config

end Outbox
