import Outbox.Program
import Outbox.Time.Sleep

/-!
# Collaborators that follow a script

For each kind of call a script says how it is answered: at once, after a while, with a failure,
or never. Every call that a store, a staging or the transport gets is written down when it starts,
so a journal shows in which order a session works with them.

A caller cancels at a moment that is known beforehand. When the moment comes no later than the
reply, the cancellation wins.
-/

namespace Outbox

/-- How a script has a call answered. -/
inductive Cue where
  | succeed
  | failStore (error : StoreError)
  | reject (reason : String)
  /-- The staging cannot join the transaction. -/
  | refuse
  /-- The call sleeps for a number of milliseconds and succeeds. -/
  | delay (ms : Nat)
  /-- The call is never answered. -/
  | stall
deriving DecidableEq, Repr

/-- The cue for each kind of call. -/
structure Script where
  beginTransaction : Cue := .succeed
  attach : Cue := .succeed
  openStaging : Cue := .succeed
  complete : Cue := .succeed
  addRecord : Cue := .succeed
  commit : Cue := .succeed
  dispatch : Cue := .succeed
deriving DecidableEq, Repr

/-- One line of a journal. -/
inductive JournalEntry where
  | beginTransaction (partition : Option String)
  | attach
  | openStaging
  | complete
  | record (id : String) (size : Nat)
  | addRecord
  | commit
  | closeStaging
  | operation (messageId : String) (destination : Destination)
  | dispatch (size : Nat)
  | rollback
deriving DecidableEq, Repr

/-- How a line reads. -/
def JournalEntry.text : JournalEntry → String
  | beginTransaction none => "begin"
  | beginTransaction (some partition) => s!"begin partition={partition}"
  | attach => "attach"
  | openStaging => "open"
  | complete => "complete"
  | record id size => s!"record {id} x{size}"
  | addRecord => "store"
  | commit => "commit"
  | closeStaging => "dispose"
  | operation id (.queue name) => s!"dispatch {id} to queue {name}"
  | operation id (.topic name) => s!"dispatch {id} to topic {name}"
  | dispatch size => s!"dispatch x{size}"
  | rollback => "rollback"

/-- Collaborators on stage: their script, the time in milliseconds, and the journal so far. -/
structure Stage where
  script : Script
  start : Time.Instant
  elapsed : Nat := 0
  journal : List JournalEntry := []
  /-- When the caller cancels, if it does. -/
  cancelAt : Option Nat := none
  /-- The number of ids made so far. -/
  ids : Nat := 0
  /-- The ids in the order in which they are made. -/
  idText : Nat → String := fun n => Nat.repr n

namespace Stage

/-- Writes lines down. -/
def note (s : Stage) (entries : List JournalEntry) : Stage :=
  { s with journal := s.journal ++ entries }

/-- How many milliseconds a sleep lasts for which `ms` were asked. What is beyond the longest sleep
is cut off before it is counted in milliseconds. -/
def slept (ms : Nat) : Nat := Time.sleepTime (ms * 1000000) / 1000000

/-- How long a cue keeps the caller waiting, in milliseconds; a stall has no end. -/
def duration : Cue → Option Nat
  | .delay ms => some (slept ms)
  | .stall => none
  | _ => some 0

/-- The reply of a store or a staging. -/
def storeReply {α : Type} (success : α) : Cue → Except StoreError α
  | .failStore e => .error e
  | _ => .ok success

/-- The reply of the transport. -/
def transportReply : Cue → Except DispatchError Unit
  | .reject reason => .error (.rejected reason)
  | _ => .ok ()

/-- The reply of a staging that is to join a transaction. -/
def attachReply : Cue → Except StoreError Bool
  | .refuse => .ok false
  | cue => storeReply true cue

/-- What the journal says about a dispatch. -/
def dispatchEntries (ops : List Shipment) : List JournalEntry :=
  ops.map (fun op => .operation op.message.id op.destination) ++ [.dispatch ops.length]

/-- The reply to a call, how long it takes (`none`: for ever), and the stage with the call written
down. -/
def respond {β : Type} : Call β → Stage → β × Option Nat × Stage
  | .now, s => (s.start.clockReading (s.elapsed * 1000000), some 0, s)
  | .freshId, s => (s.idText s.ids, some 0, { s with ids := s.ids + 1 })
  | .isCancelled, s => (s.cancelAt.any (· ≤ s.elapsed), some 0, s)
  | .beginTransaction _ hints, s =>
    let cue := s.script.beginTransaction
    (storeReply 0 cue, duration cue, s.note [.beginTransaction hints.partitionKey])
  | .attach _ _ _, s =>
    let cue := s.script.attach
    (attachReply cue, duration cue, s.note [.attach])
  | .openStaging _ _, s =>
    let cue := s.script.openStaging
    (storeReply () cue, duration cue, s.note [.openStaging])
  | .complete _, s =>
    let cue := s.script.complete
    (storeReply () cue, duration cue, s.note [.complete])
  | .closeStaging _, s => ((), some 0, s.note [.closeStaging])
  | .addRecord _ record _, s =>
    let cue := s.script.addRecord
    (storeReply () cue, duration cue,
      s.note [.record record.id record.operations.length, .addRecord])
  | .commit _, s =>
    let cue := s.script.commit
    (storeReply () cue, duration cue, s.note [.commit])
  | .rollback _, s => ((), some 0, s.note [.rollback])
  -- sessions neither look records up nor mark them
  | .getRecord _ _, s => (.ok none, some 0, s)
  | .setDispatched _ _, s => (.ok (), some 0, s)
  | .dispatch ops, s =>
    let cue := s.script.dispatch
    (transportReply cue, duration cue, s.note (dispatchEntries ops))
  | .handle _, s => (.ok (), some 0, s)
  | .observe _, s => ((), some 0, s)
  | .unlessCancelled c, s =>
    -- a caller that has cancelled before does not make the call at all
    if s.cancelAt.any (· ≤ s.elapsed) then (none, some 0, s)
    else
      match respond c s with
      | (reply, duration, s) =>
        match duration, s.cancelAt with
        -- the call is never answered, but the wait for it ends with the cancellation
        | none, some moment => (none, some (moment - s.elapsed), s)
        | some d, some moment =>
          -- cancellation and reply at one moment: the cancellation wins, though the call was made
          if moment ≤ s.elapsed + d then (none, some (moment - s.elapsed), s)
          else (some reply, some d, s)
        | duration, none => (some reply, duration, s)

/-- Answers a call, unless it is never answered. -/
def answer? {β : Type} (c : Call β) (s : Stage) : Option (β × Stage) :=
  match respond c s with
  | (reply, duration, s) => duration.map fun d => (reply, { s with elapsed := s.elapsed + d })

/-- Runs a program for a caller that cancels after a sleep of so many milliseconds, if at all. -/
def run? {α : Type} (s : Stage) (cancelAfter : Option Nat) (p : Program α) : Option (α × Stage) :=
  p.run? answer? { s with cancelAt := cancelAfter.map (s.elapsed + slept ·) }

end Stage

end Outbox
