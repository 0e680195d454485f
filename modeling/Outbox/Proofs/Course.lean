import Outbox.Proofs.Runs
import Outbox.Retry.Header

/-!
# The course of a session

Which calls a session with an outbox makes on its collaborators from its start to its end, and how
each of them ends. A call that the caller cancels counts as made, with no reply.

* `Session.Course`  all courses that the life of a session can take
* `Course.tallies`  what they have in common: how often the staging is closed, a control message
  sent, a commit tried, and a transaction begun and settled
-/

namespace Outbox

/-- Whether a call is one on a staging. -/
def Call.Kind.onStaging : Call.Kind → Bool
  | .attach | .openStaging | .complete | .closeStaging => true
  | _ => false

/-- Whether a transaction was begun. -/
def Exchange.begun : Exchange → Bool
  | ⟨.unlessCancelled (.beginTransaction _ _), some (.ok _)⟩ => true
  | _ => false

/-- Whether a transaction was committed, or let go. -/
def Exchange.settles : Exchange → Bool
  | ⟨.commit _, .ok _⟩ => true
  | ⟨.rollback _, _⟩ => true
  | _ => false

/-- The exchanges with collaborators. -/
def outward (calls : List Exchange) : List Exchange :=
  calls.filter fun e => e.kind != .inward

@[simp] theorem outward_nil : outward [] = [] := rfl

@[simp] theorem outward_append (calls rest : List Exchange) :
    outward (calls ++ rest) = outward calls ++ outward rest := List.filter_append ..

/-- A call that asks no collaborator does not count. -/
theorem outward_cons_of_inward {e : Exchange} (h : e.kind = .inward) (calls : List Exchange) :
    outward (e :: calls) = outward calls := by
  simp [outward, h]

/-- A call on a collaborator counts. -/
theorem outward_cons_of_ne {e : Exchange} (h : e.kind ≠ .inward) (calls : List Exchange) :
    outward (e :: calls) = e :: outward calls := by
  simp [outward, h]

/-- No call is outward when all of them are inward. -/
theorem outward_eq_nil_iff {calls : List Exchange} :
    outward calls = [] ↔ ∀ e ∈ calls, e.call.kind = .inward := by
  simp [outward, Exchange.kind]

/-- An operation that announces a session to a processor. -/
structure Shipment.IsAnnouncement (processor : String) (op : Shipment) : Prop where
  destination : op.destination = .queue processor
  isControl : op.message.isControl = true
  isolated : op.isolated = true
  body : op.message.body = []

namespace Session

section

variable (store : String) (staging : StagingId) (processor : String)

/-- The rest of a course from when the control message for the session `id` has been accepted: the
changes are handed over, the record is added and the transaction is committed. -/
inductive Course.Announced (id : String) (tx : TransactionId) : List Exchange → Prop
  | notCompleted (e : StoreError) : Announced id tx
      [⟨.complete staging, .error e⟩, ⟨.rollback tx, ()⟩, ⟨.closeStaging staging, ()⟩]
  | notStored (batch : Batch) (e : StoreError) : Announced id tx
      [⟨.complete staging, .ok ()⟩, ⟨.addRecord store (.new id batch) tx, .error e⟩,
        ⟨.rollback tx, ()⟩, ⟨.closeStaging staging, ()⟩]
  | notCommitted (batch : Batch) (e : StoreError) : Announced id tx
      [⟨.complete staging, .ok ()⟩, ⟨.addRecord store (.new id batch) tx, .ok ()⟩,
        ⟨.commit tx, .error e⟩, ⟨.rollback tx, ()⟩, ⟨.closeStaging staging, ()⟩]
  | committed (batch : Batch) : Announced id tx
      [⟨.complete staging, .ok ()⟩, ⟨.addRecord store (.new id batch) tx, .ok ()⟩,
        ⟨.commit tx, .ok ()⟩, ⟨.closeStaging staging, ()⟩]

/-- The rest of a course from when the staging has joined the transaction. -/
inductive Course.Opened (tx : TransactionId) : List Exchange → Prop
  | letGo : Opened tx [⟨.rollback tx, ()⟩, ⟨.closeStaging staging, ()⟩]
  | notAnnounced (op : Shipment) (reply : Option (Except DispatchError Unit)) :
      op.IsAnnouncement processor → reply ≠ some (.ok ()) → Opened tx
      [⟨.unlessCancelled (.dispatch [op]), reply⟩, ⟨.rollback tx, ()⟩,
        ⟨.closeStaging staging, ()⟩]
  | announced (op : Shipment) (rest : List Exchange) : op.IsAnnouncement processor →
      Course.Announced store staging op.message.id tx rest →
      Opened tx (⟨.unlessCancelled (.dispatch [op]), some (.ok ())⟩ :: rest)

/-- The courses that the life of a session can take. -/
inductive Course : List Exchange → Prop
  | notBegun (hints : Hints) (reply : Option (Except StoreError TransactionId))
      (rest : List Exchange) : (∀ tx, reply ≠ some (.ok tx)) → Course rest →
      Course (⟨.unlessCancelled (.beginTransaction store hints), reply⟩ :: rest)
  | neverOpened : Course [⟨.closeStaging staging, ()⟩]
  | notJoined (hints : Hints) (tx : TransactionId) (reply : Option (Except StoreError Bool)) :
      reply ≠ some (.ok true) → Course
      [⟨.unlessCancelled (.beginTransaction store hints), some (.ok tx)⟩,
        ⟨.unlessCancelled (.attach staging tx hints), reply⟩,
        ⟨.closeStaging staging, ()⟩, ⟨.rollback tx, ()⟩]
  | opened (hints : Hints) (tx : TransactionId) (rest : List Exchange) :
      Course.Opened store staging processor tx rest → Course
      (⟨.unlessCancelled (.beginTransaction store hints), some (.ok tx)⟩ ::
        ⟨.unlessCancelled (.attach staging tx hints), some (.ok true)⟩ :: rest)

end

namespace Course

variable {store : String} {staging : StagingId} {processor id : String} {tx : TransactionId}
  {calls : List Exchange}

/-- How often there are calls of a kind. -/
def count (kind : Call.Kind) (calls : List Exchange) : Nat := calls.countP (·.kind == kind)

/-- The staging is closed, and nothing is called on it afterwards. -/
def ClosedAtLast (staging : StagingId) (calls : List Exchange) : Prop :=
  ∃ front back, calls = front ++ ⟨.closeStaging staging, ()⟩ :: back ∧
    ∀ e ∈ back, e.kind.onStaging = false

/-- A call before others does not change which one is the last. -/
theorem ClosedAtLast.cons (e : Exchange) (h : ClosedAtLast staging calls) :
    ClosedAtLast staging (e :: calls) := by
  obtain ⟨front, back, rfl, hback⟩ := h
  exact ⟨e :: front, back, rfl, hback⟩

/-- A staging that is closed and nothing else is closed at last. -/
theorem ClosedAtLast.last : ClosedAtLast staging [⟨.closeStaging staging, ()⟩] :=
  ⟨[], [], rfl, fun _ he => absurd he List.not_mem_nil⟩

/-- How often the calls are made that matter most, from when a transaction has been begun. -/
structure Tallies (calls : List Exchange) : Prop where
  closed : count .closeStaging calls = 1
  dispatched : count .dispatch calls ≤ 1
  committed : count .commit calls ≤ 1
  begun : calls.countP Exchange.begun = 0
  settled : calls.countP Exchange.settles = 1

/-- After its announcement a session makes each call at most once and closes its staging at last. -/
theorem Announced.tallies (h : Announced store staging id tx calls) :
    Tallies calls ∧ count .dispatch calls = 0 ∧ ClosedAtLast staging calls := by
  -- what is missing at the end depends on the first call that has failed
  cases h with
  | notCompleted e =>
    exact ⟨⟨rfl, Nat.zero_le 1, Nat.zero_le 1, rfl, rfl⟩, rfl, .cons _ (.cons _ .last)⟩
  | notStored batch e =>
    exact ⟨⟨rfl, Nat.zero_le 1, Nat.zero_le 1, rfl, rfl⟩, rfl, .cons _ (.cons _ (.cons _ .last))⟩
  | notCommitted batch e =>
    exact ⟨⟨rfl, Nat.zero_le 1, Nat.le_refl 1, rfl, rfl⟩, rfl,
      .cons _ (.cons _ (.cons _ (.cons _ .last)))⟩
  | committed batch =>
    exact ⟨⟨rfl, Nat.zero_le 1, Nat.le_refl 1, rfl, rfl⟩, rfl,
      .cons _ (.cons _ (.cons _ .last))⟩

/-- So does an open session, with the announcement among its calls. -/
theorem Opened.tallies (h : Opened store staging processor tx calls) :
    Tallies calls ∧ ClosedAtLast staging calls := by
  -- what comes before the announcement neither commits nor completes
  cases h with
  | letGo =>
    exact ⟨⟨rfl, Nat.zero_le 1, Nat.zero_le 1, rfl, rfl⟩, .cons _ .last⟩
  | notAnnounced op reply hop hreply =>
    exact ⟨⟨rfl, Nat.le_refl 1, Nat.zero_le 1, rfl, rfl⟩, .cons _ (.cons _ .last)⟩
  | announced op rest hop hrest =>
    obtain ⟨htallies, hdispatch, hlast⟩ := hrest.tallies
    have hone : count .dispatch (⟨.unlessCancelled (.dispatch [op]), some (.ok ())⟩ :: rest) =
        count .dispatch rest + 1 := List.countP_cons_of_pos rfl
    rw [hdispatch] at hone
    exact ⟨⟨htallies.closed, Nat.le_of_eq hone, htallies.committed, htallies.begun,
      htallies.settled⟩, hlast.cons _⟩

/-- What the courses of a session have in common: the staging is closed once and not touched
afterwards, there is one control message and one commit at the most, and every transaction that is
begun is committed or let go. -/
theorem tallies (h : Course store staging processor calls) :
    count .closeStaging calls = 1 ∧ ClosedAtLast staging calls ∧ count .dispatch calls ≤ 1 ∧
      count .commit calls ≤ 1 ∧
      calls.countP Exchange.begun = calls.countP Exchange.settles := by
  induction h with
  | notBegun hints reply rest hreply _ ih =>
    obtain ⟨hclosed, hlast, hdispatched, hcommitted, hsettled⟩ := ih
    refine ⟨hclosed, hlast.cons _, hdispatched, hcommitted, ?_⟩
    -- an attempt that has begun nothing leaves nothing to be settled
    have hnot : ¬ Exchange.begun ⟨.unlessCancelled (.beginTransaction store hints), reply⟩ := by
      match reply, hreply with
      | none, _ => exact Bool.false_ne_true
      | some (.error e), _ => exact Bool.false_ne_true
      | some (.ok tx), hreply => exact absurd rfl (hreply tx)
    rw [List.countP_cons_of_neg hnot, hsettled]
    rfl
  | neverOpened => exact ⟨rfl, .last, Nat.zero_le 1, Nat.zero_le 1, rfl⟩
  -- the staging has not joined: it is closed, and the transaction is let go behind it
  | notJoined hints tx reply hreply =>
    have hlast : ClosedAtLast staging [⟨.closeStaging staging, ()⟩, ⟨.rollback tx, ()⟩] := by
      refine ⟨[], [⟨.rollback tx, ()⟩], rfl, fun e he => ?_⟩
      obtain rfl := List.mem_singleton.1 he
      rfl
    exact ⟨rfl, (hlast.cons _).cons _, Nat.zero_le 1, Nat.zero_le 1, rfl⟩
  | opened hints tx rest hrest =>
    obtain ⟨htallies, hlast⟩ := hrest.tallies
    refine ⟨htallies.closed, (hlast.cons _).cons _, htallies.dispatched, htallies.committed, ?_⟩
    -- the two calls of the opening settle nothing, and the first has begun a transaction
    have hsettled : (⟨.unlessCancelled (.beginTransaction store hints), some (.ok tx)⟩ ::
        ⟨.unlessCancelled (.attach staging tx hints), some (.ok true)⟩ :: rest).countP
        Exchange.settles = rest.countP Exchange.settles := rfl
    have hbegun : (⟨.unlessCancelled (.beginTransaction store hints), some (.ok tx)⟩ ::
        ⟨.unlessCancelled (.attach staging tx hints), some (.ok true)⟩ :: rest).countP
        Exchange.begun = rest.countP Exchange.begun + 1 := List.countP_cons_of_pos rfl
    rw [hbegun, hsettled, htallies.begun, htallies.settled]

end Course

end Session

end Outbox
