import Outbox.Proofs.Changes
import Outbox.Proofs.Interleaving

/-!
# The history of a run

What the log of a system says about its stores: the changes of all commits that have succeeded, in
the order of their success, and the store that they make of an empty one.
-/

namespace Outbox

/-- The participant that an entry tells of. -/
def Entry.who : Entry → Nat
  | .committed who _ _ | .handedOver who _ _ | .returned who _ _ _ => who

/-- The changes that an entry tells of. -/
def Entry.changes : Entry → List Change
  | .committed _ _ changes => changes
  | .handedOver _ _ _ | .returned _ _ _ _ => []

/-- The changes of all commits that have succeeded. -/
def committedChanges (log : List Entry) : List Change := log.flatMap Entry.changes

/-- What the commits that have succeeded make of an empty store. -/
def replay (log : List Entry) : Store := (committedChanges log).foldl Store.apply {}

@[simp] theorem committedChanges_nil : committedChanges [] = [] := rfl

@[simp] theorem committedChanges_append (a b : List Entry) :
    committedChanges (a ++ b) = committedChanges a ++ committedChanges b :=
  List.flatMap_append

/-- A change that has been committed stands in an entry of the log. -/
theorem mem_committedChanges {log : List Entry} {c : Change} :
    c ∈ committedChanges log ↔ ∃ who n changes, .committed who n changes ∈ log ∧ c ∈ changes := by
  simp only [committedChanges, List.mem_flatMap]
  constructor
  -- only an entry that is a commit bears changes
  · rintro ⟨entry, hentry, hc⟩
    cases entry with
    | committed who n changes => exact ⟨who, n, changes, hentry, hc⟩
    | handedOver who ops reply => simp [Entry.changes] at hc
    | returned who n what result => simp [Entry.changes] at hc
  · rintro ⟨who, n, changes, hentry, hc⟩
    exact ⟨_, hentry, hc⟩

/-- A record of a replayed store was added by a commit. -/
theorem mem_of_record?_replay {log : List Entry} {id : String} {r : Record}
    (h : (replay log).record? id = some r) : .record r ∈ committedChanges log ∧ r.id = id := by
  rcases Store.mem_of_record?_foldl_apply h with hempty | hmem
  · simp at hempty
  · exact hmem

/-- The log tells of the end of a request when nothing is left of it. -/
theorem mem_ending {who n : Nat} {what : Session.Request}
    {rest : Program (Option Session × Except CallError Unit)} {entry : Entry} :
    entry ∈ Task.ending who n what rest ↔
      ∃ result, rest = .done result ∧ entry = .returned who n what result.2 := by
  cases rest with
  | done result => simp [Task.ending]
  | call c next => simp [Task.ending]

/-- A call is noted as a commit that has succeeded, as a dispatch, or not at all. -/
theorem mem_note {who n : Nat} {contribution : List Change} {β : Type} {c : Call β} {reply : β}
    {entry : Entry} (h : entry ∈ Task.note who n contribution c reply) :
    entry = .committed who n contribution ∨ ∃ ops result, entry = .handedOver who ops result := by
  -- what is not a commit or a dispatch leaves no note
  induction c with
  | commit tx =>
    cases reply with
    | ok _ => exact .inl (List.mem_singleton.1 h)
    | error e => exact absurd h List.not_mem_nil
  | dispatch ops => exact .inr ⟨ops, reply, List.mem_singleton.1 h⟩
  | unlessCancelled c ih =>
    cases reply with
    | none => exact absurd h List.not_mem_nil
    | some reply => exact ih h
  | _ => exact absurd h List.not_mem_nil

end Outbox
