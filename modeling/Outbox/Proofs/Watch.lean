import Outbox.Proofs.Discipline
import Outbox.Proofs.Growth
import Outbox.Processing.Receiver

/-!
# Watching one record

What the deliveries of control messages do with the record of their session, when it is there and
neither look-ups nor marks fail. As long as nothing of it has been dispatched, a delivery hands over
the whole batch in one call; once that has been accepted the record is marked; and once it is marked
a delivery leaves store and transport alone.

* `Watch.keeps_receive`  what a delivery does at which stage
* `Watch.run_of_done`    a delivery of a dispatched record, run to its end
-/

namespace Outbox

open Program

/-- The record of a session, in a store. -/
structure Watch where
  store : String
  id : String
  batch : Batch

/-- How far the dispatch of a record has come. -/
inductive DispatchStage where
  /-- The transport has nothing of it. -/
  | pending
  /-- The transport has accepted it, and it is about to be marked. -/
  | sent
  /-- It is marked. -/
  | done
deriving DecidableEq

namespace Watch

/-- The record at a stage. -/
def record (x : Watch) : DispatchStage → Record
  | .pending | .sent => .new x.id x.batch
  | .done => (Record.new x.id x.batch).markDispatched

/-- What the transport is handed. -/
def shipments (x : Watch) : List Shipment := x.batch.map (·.toShipment)

/-- The world holds the record at a stage, and neither look-ups nor marks are going to fail. -/
structure At (x : Watch) (stage : DispatchStage) (w : World) : Prop where
  record : w.record? x.store x.id = some (x.record stage)
  faults : w.faults = {}

/-- What the delivery of a control message for the session does. -/
def Lawful (x : Watch) (stage : DispatchStage) {β : Type} : Call β → Prop
  | .getRecord _ _ => True
  | .observe _ => True
  | .dispatch ops => stage = .pending ∧ ops = x.shipments
  | .setDispatched store id => stage = .sent ∧ store = x.store ∧ id = x.id
  | _ => False

/-- The stage after a call. -/
def after (stage : DispatchStage) {β : Type} : Call β → β → DispatchStage
  | .dispatch _, reply =>
    match reply with
    | .ok () => .sent
    | .error _ => stage
  | .setDispatched _ _, reply =>
    match reply with
    | .ok () => .done
    | .error _ => stage
  | _, _ => stage

/-- The discipline of the deliveries of control messages for the session. -/
def discipline (x : Watch) : Discipline DispatchStage where
  relies stage _ w' := x.At stage w'
  admits _ _ := True
  lawful stage c _ := x.Lawful stage c
  after stage c reply := after stage c reply
  relies_trans _ h := h
  relies_self h := h

variable {x : Watch} {stage : DispatchStage} {w : World} {p : Receiver} {m : Message}

/-- A part of a delivery ends well with the record marked, or it fails and nothing of the record has
been dispatched. -/
def Ends {α : Type} (a : α) (stage : DispatchStage) (result : Except DeliveryError α)
    (_ : World) : Prop :=
  (result = .ok a ∧ stage = .done) ∨ (∃ e, result = .error e) ∧ stage = .pending

/-- A record of which nothing has been dispatched waits. -/
theorem isDispatched_record_pending (hbatch : x.batch ≠ []) :
    (x.record .pending).isDispatched = false := by
  refine Bool.eq_false_iff.2 fun hd => hbatch ?_
  rw [← Record.undispatched_eq_nil_iff] at hd
  simpa [record] using hd

/-- A record of which nothing has been dispatched is handed over and marked. -/
theorem keeps_forwardPending (hbatch : x.batch ≠ []) (hp : p.store = x.store) :
    (p.forwardRecord (x.record .pending)).Keeps x.discipline (Ends ()) .pending w := by
  unfold Receiver.forwardRecord
  rw [if_neg (by simp [isDispatched_record_pending hbatch]), ask_bind]
  intro w₁ hw₁ _
  refine ⟨⟨rfl, congrArg _ (Record.undispatched_new x.id x.batch)⟩, fun cancelled => ?_⟩
  cases (World.answer cancelled (.dispatch _) w₁).1 with
  -- rejected, the record stays at its stage
  | error e => exact keeps_done fun _ _ => .inr ⟨⟨_, rfl⟩, rfl⟩
  | ok _ =>
    -- the batch is out, and marks do not fail
    dsimp only
    rw [ask_bind]
    intro w₂ hw₂ _
    refine ⟨⟨rfl, hp, rfl⟩, fun cancelled => ?_⟩
    have hmarked : (World.answer cancelled (.setDispatched p.store (x.record .pending).id) w₂).1 =
        .ok () := by
      simp [World.answer, World.setDispatched, hw₂.faults]
    rw [hmarked]
    exact keeps_done fun _ _ => .inl ⟨rfl, rfl⟩

/-- A record that is marked is left alone. -/
theorem keeps_forwardDone :
    (p.forwardRecord (x.record .done)).Keeps x.discipline (Ends ()) .done w := by
  unfold Receiver.forwardRecord
  rw [if_pos (by simp [record])]
  exact keeps_done fun _ _ => .inl ⟨rfl, rfl⟩

/-- Whatever the stage, the record is handed over and marked, or the delivery fails. -/
theorem keeps_forwardRecord (hbatch : x.batch ≠ []) (hp : p.store = x.store)
    (hstage : stage ≠ .sent) :
    (p.forwardRecord (x.record stage)).Keeps x.discipline (Ends ()) stage w := by
  cases stage with
  | pending => exact keeps_forwardPending hbatch hp
  | sent => exact absurd rfl hstage
  | done => exact keeps_forwardDone

/-- To tell an outcome leaves the record at its stage. -/
theorem keeps_report {reports : Bool} {outcome : Outcome} :
    (report reports outcome).Keeps x.discipline (fun stage' _ _ => stage' = stage) stage w := by
  unfold report
  split
  · exact fun _ _ _ => ⟨trivial, fun _ => keeps_done fun _ _ => rfl⟩
  · exact keeps_done fun _ _ => rfl

/-- The delivery of a control message for the session finds the record. -/
theorem keeps_work {countdown : Option Countdown} (hbatch : x.batch ≠ []) (hp : p.store = x.store)
    (hm : m.isControl = true) (hid : m.id = x.id) (hstage : stage ≠ .sent) :
    (p.work m countdown).Keeps x.discipline (Ends .completed) stage w := by
  unfold Receiver.work
  -- the record is looked up, found, and forwarded
  rw [if_pos hm, ask_bind]
  intro w₁ hw₁ _
  refine ⟨trivial, fun cancelled => ?_⟩
  have hfound : (World.answer cancelled (.getRecord p.store m.id) w₁).1 =
      .ok (some (x.record stage)) := by
    have hrecord := hw₁.record
    simp only [World.record?] at hrecord
    simp [World.answer, World.getRecord, hw₁.faults, hp, hid, hrecord]
  rw [hfound]
  dsimp only
  refine keeps_bind (keeps_forwardRecord hbatch hp hstage) fun stage' result w₂ hends => ?_
  -- the delivery completes, or it fails with what has failed
  rcases hends with ⟨rfl, rfl⟩ | ⟨⟨e, rfl⟩, rfl⟩
  · exact keeps_done fun _ _ => .inl ⟨rfl, rfl⟩
  · exact keeps_done fun _ _ => .inr ⟨⟨e, rfl⟩, rfl⟩

/-- What the delivery of a control message for the session does, and how it ends. -/
theorem keeps_receive (hbatch : x.batch ≠ []) (hp : p.store = x.store)
    (hm : m.isControl = true) (hid : m.id = x.id) (hstage : stage ≠ .sent) :
    (p.receive m).Keeps x.discipline (Ends .completed) stage w := by
  unfold Receiver.receive withOutcome
  dsimp only
  refine keeps_bind (keeps_work hbatch hp hm hid hstage) fun stage₁ result w₁ hends => ?_
  -- what is told at the end is no call on the record
  split
  · refine keeps_bind keeps_report fun stage₂ _ w₂ hstage₂ => ?_
    subst hstage₂
    exact keeps_done fun _ _ => hends
  · exact keeps_done fun _ _ => hends

/-! ### What a delivery leaves -/

/-- After every call of a delivery the record is at its new stage. -/
theorem At.answer {β : Type} {c : Call β} (cancelled : Bool) (hw : x.At stage w)
    (h : x.Lawful stage c) :
    x.At (after stage c (World.answer cancelled c w).1) (World.answer cancelled c w).2 := by
  -- by the calls that the discipline allows
  cases c with
  | getRecord store id =>
    have hsame : (World.answer cancelled (.getRecord store id) w).2 = w := by
      simp [World.answer, World.getRecord, hw.faults]
    rw [hsame]
    exact hw
  | observe outcome => exact ⟨hw.record, hw.faults⟩
  -- a dispatch moves the record to its next stage when it is accepted
  | dispatch ops =>
    obtain ⟨rfl, -⟩ := h
    refine ⟨?_, hw.faults⟩
    simp only [after]
    split <;> exact hw.record
  -- a mark is the last stage
  | setDispatched store id =>
    obtain ⟨rfl, rfl, rfl⟩ := h
    have hrecord := hw.record
    simp only [World.answer, World.setDispatched, hw.faults, after]
    refine ⟨?_, rfl⟩
    simp only [World.record?, Database.setDispatched, Database.store_setStore, if_true,
      Store.record?_setDispatched] at hrecord ⊢
    rw [hrecord]
    rfl
  | _ => exact h.elim

/-- Once the record is marked, a delivery changes neither stores nor transport. -/
theorem answer_of_done {β : Type} {c : Call β} (cancelled : Bool) (hw : x.At .done w)
    (h : x.Lawful .done c) :
    (World.answer cancelled c w).2.database = w.database ∧
      (World.answer cancelled c w).2.transport = w.transport := by
  cases c with
  | getRecord store id => simp [World.answer, World.getRecord, hw.faults]
  | observe outcome => exact ⟨rfl, rfl⟩
  | dispatch ops => exact nomatch h.1
  | setDispatched store id => exact nomatch h.1
  | _ => exact h.elim

/-- Nothing of a record is dispatched only as long as nothing has been. -/
theorem pending_of_after {β : Type} {c : Call β} {reply : β} (h : after stage c reply = .pending) :
    stage = .pending := by
  -- to be handed over or marked is to be past the first stage
  cases c with
  | dispatch ops =>
    cases reply with
    | ok _ => exact nomatch h
    | error e => exact h
  | setDispatched store id =>
    cases reply with
    | ok _ => exact nomatch h
    | error e => exact h
  | _ => exact h

/-- A record that is marked stays marked. -/
theorem after_of_done {β : Type} {c : Call β} (h : x.Lawful .done c) (reply : β) :
    after .done c reply = .done := by
  cases c with
  | dispatch ops => exact nomatch h.1
  | setDispatched store id => exact nomatch h.1
  | _ => rfl

/-- A delivery of a control message whose record is marked, run to its end, ends well, and changes
neither stores nor transport. -/
theorem run_of_done {α : Type} {post : DispatchStage → α → World → Prop} {q : Program α}
    (cancelled : Bool) (h : q.Keeps x.discipline post .done w) (hw : x.At .done w) :
    post .done (w.run cancelled q).1 (w.run cancelled q).2 ∧
      (w.run cancelled q).2.database = w.database ∧
      (w.run cancelled q).2.transport = w.transport := by
  -- along the program: each call keeps the record marked, so the next is as harmless
  induction q generalizing w with
  | done a => exact ⟨h w hw, rfl, rfl⟩
  | call c next ih =>
    obtain ⟨hlawful, hnext⟩ := h w hw trivial
    obtain ⟨hdatabase, htransport⟩ := answer_of_done cancelled hw hlawful
    have hstage := after_of_done hlawful (World.answer cancelled c w).1
    have hrest := hnext cancelled
    have hw' := hw.answer cancelled hlawful
    change Keeps x.discipline post _ (after .done c _) _ at hrest
    rw [hstage] at hrest hw'
    obtain ⟨hpost, hdatabase', htransport'⟩ := ih _ hrest hw'
    exact ⟨hpost, hdatabase'.trans hdatabase, htransport'.trans htransport⟩

end Watch

end Outbox
