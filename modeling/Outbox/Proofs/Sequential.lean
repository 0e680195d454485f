import Mathlib.Data.List.Basic
import Outbox.Proofs.Dispatches
import Outbox.Proofs.Watch

/-!
# Deliveries one after the other

After the commit of a session messages are delivered one at a time, in any order and any number,
while the transport and the store may be told to fail at any moment. Then the batch of the session
is handed over and accepted at most once, as a whole, and it has been accepted as soon as one of the
deliveries of its control messages has ended well.

* `System.Progress.step`    every event keeps account of what has become of a record
* `System.dispatched_once`  a batch is accepted exactly once
-/

namespace Outbox

/-- Whether the task is the delivery of a control message for a session. -/
def Task.isFor (id : String) (t : Task) : Bool :=
  t.message?.any fun (_, m) => m.isControl && m.id == id

/-- What the transport has accepted from a delivery of a control message for a session. Whose
delivery it was is what the task says that the entry names. -/
def Entry.acceptedFor? (id : String) (tasks : List Task) : Entry → Option (List Shipment)
  | .handedOver who ops (.ok ()) => if tasks[who]?.any (·.isFor id) then some ops else none
  | .handedOver _ _ (.error _) | .committed _ _ _ | .returned _ _ _ _ => none

/-- What the transport has accepted from deliveries of control messages for a session, one list for
each call. -/
def acceptedFor (id : String) (tasks : List Task) (log : List Entry) : List (List Shipment) :=
  log.filterMap (Entry.acceptedFor? id tasks)

@[simp] theorem acceptedFor_append (id : String) (tasks : List Task) (a b : List Entry) :
    acceptedFor id tasks (a ++ b) = acceptedFor id tasks a ++ acceptedFor id tasks b :=
  List.filterMap_append

/-- A delivery is for a session when its message is a control message with the id of the session. -/
theorem Task.isFor_delivery {id : String} {k : Consumer} {m : Message}
    {rest : Program (Except DeliveryError Disposition)} :
    (Task.delivery k m rest).isFor id = true ↔ m.isControl = true ∧ m.id = id := by
  simp [isFor, message?]

namespace Watch

variable {x : Watch} {stage : DispatchStage} {w : World}

/-! ### What others do to the record -/

/-- No call makes a look-up or a mark fail. -/
theorem faults_answer {β : Type} {c : Call β} (cancelled : Bool) (h : w.faults = {}) :
    (World.answer cancelled c w).2.faults = {} := by
  -- both use up a fault of their own, and none is armed
  induction c generalizing w with
  | getRecord store id => simp [World.answer, World.getRecord, h]
  | setDispatched store id => simp [World.answer, World.setDispatched, h]
  | unlessCancelled c ih =>
    cases cancelled with
    | true => exact h
    | false => exact ih h
  | _ => exact h

/-- The delivery of another message leaves the record as it is. -/
theorem At.of_lawful {T : Terms} {g : Standing} {k : Consumer} {m : Message} {β : Type} {c : Call β}
    (cancelled : Bool) (hw : x.At stage w) (hstore : x.store = T.store)
    (h : Outbox.Lawful T (.delivery k m) g c w) (hm : ¬ (m.isControl = true ∧ m.id = x.id)) :
    x.At stage (World.answer cancelled c w).2 := by
  refine ⟨?_, faults_answer cancelled hw.faults⟩
  have hrecord := hw.record
  rw [hstore] at hrecord ⊢
  have hstep := storeStep_answer cancelled 0 0 h
  -- what the log would tell of the call does not matter here
  generalize committedChanges _ = changes at hstep
  cases hstep with
  -- nothing happens to the store, another record is marked, or changes are committed
  | kept hsame => exact (hsame.record? x.id).trans hrecord
  | marked id hmay _ hmarked =>
    -- only deliveries of control messages mark records, and only under the ids of their messages
    have hne : id ≠ x.id := by
      rintro rfl
      exact hm hmay
    rw [World.record?, hmarked, Store.record?_setDispatched, if_neg hne]
    exact hrecord
  -- a commit takes no record away
  | committed _ _ happly => exact Store.record?_applyAll_of_some happly hrecord

/-- What happens from outside leaves the record as it is. -/
theorem At.disturb {d : Disturbance} (hw : x.At stage w) (hlook : ∀ reason, d ≠ .failLookUp reason)
    (hmark : ∀ reason, d ≠ .failMark reason) : x.At stage (w.disturb d) := by
  refine ⟨?_, ?_⟩
  -- the record is a matter of the stores, the faults one of the world
  · exact ((System.sameContent_disturb w d x.store).record? x.id).trans hw.record
  · cases d with
    | failLookUp reason => exact absurd rfl (hlook reason)
    | failMark reason => exact absurd rfl (hmark reason)
    | receive queue =>
      simp only [World.disturb]
      split <;> exact hw.faults
    | _ => exact hw.faults

/-- What has been accepted when the record is at a stage. -/
def accepted (x : Watch) : DispatchStage → List (List Shipment)
  | .pending => []
  | .sent | .done => [x.shipments]

/-- The log tells of a dispatch at the moment at which the record comes to its next stage. -/
theorem accepted_after {tasks : List Task} {who n : Nat} {changes : List Change} {β : Type}
    {c : Call β} {reply : β} (h : x.Lawful stage c)
    (hfor : tasks[who]?.any (·.isFor x.id) = true) :
    x.accepted (after stage c reply) =
      x.accepted stage ++ acceptedFor x.id tasks (Task.note who n changes c reply) := by
  -- by the calls that the discipline allows, of which only a dispatch is logged as accepted
  cases c with
  | getRecord store id => exact (List.append_nil _).symm
  | observe outcome => exact (List.append_nil _).symm
  | dispatch ops =>
    obtain ⟨rfl, rfl⟩ := h
    cases reply with
    | error e => simp [after, accepted, acceptedFor, Entry.acceptedFor?, Task.note]
    | ok _ => simp [after, accepted, acceptedFor, Entry.acceptedFor?, Task.note, hfor]
  | setDispatched store id =>
    obtain ⟨rfl, rfl, rfl⟩ := h
    cases reply <;> simp [after, accepted, acceptedFor, Task.note]
  | _ => exact h.elim

end Watch

/-- What the log tells of other participants does not count. -/
theorem acceptedFor_note_of_not {id : String} {tasks : List Task} {who n : Nat}
    {changes : List Change} {β : Type} {c : Call β} {reply : β}
    (hfor : tasks[who]?.any (·.isFor id) = false) :
    acceptedFor id tasks (Task.note who n changes c reply) = [] := by
  refine List.filterMap_eq_nil_iff.2 fun entry hentry => ?_
  rcases mem_note hentry with rfl | ⟨ops, result, rfl⟩
  · rfl
  · cases result with
    | error e => rfl
    | ok _ => simp [Entry.acceptedFor?, hfor]

/-- How the delivery of a control message for the record stands at a stage. When it has come to its
end, the record is marked, or the delivery has failed, if it may. -/
def Task.Follows (x : Watch) (stage : DispatchStage) (w : World) (mayFail : Prop) : Task → Prop
  | delivery _ m (.done result) => m.isControl = true → m.id = x.id →
      (result = .ok .completed ∧ stage = .done) ∨ (∃ e, result = .error e) ∧ mayFail
  | delivery _ m (.call c next) => m.isControl = true → m.id = x.id →
      (Program.call c next).Keeps x.discipline (Watch.Ends .completed) stage w
  | idle _ _ _ | busy _ _ _ _ _ | gone => True

/-- A delivery follows the record when what is left of it keeps the discipline. -/
theorem Task.follows_of_keeps {x : Watch} {stage : DispatchStage} {w : World} {mayFail : Prop}
    {k : Consumer} {m : Message} {rest : Program (Except DeliveryError Disposition)}
    (hw : x.At stage w) (hpending : stage = .pending → mayFail)
    (h : m.isControl = true → m.id = x.id →
      rest.Keeps x.discipline (Watch.Ends .completed) stage w) :
    (Task.delivery k m rest).Follows x stage w mayFail := by
  cases rest with
  | call c next => exact h
  | done result =>
    intro hm hid
    rcases h hm hid w hw with ⟨hok, hdone⟩ | ⟨herror, hstage⟩
    · exact .inl ⟨hok, hdone⟩
    · exact .inr ⟨herror, hpending hstage⟩

/-- The message of a delivery that has ended well. -/
def Task.endedWell? : Task → Option Message
  | delivery _ m (.done (.ok _)) => some m
  | _ => none

/-- A task that has ended well is a delivery. -/
theorem Task.endedWell?_eq_some {t : Task} {m : Message} (h : t.endedWell? = some m) :
    ∃ k d, t = .delivery k m (.done (.ok d)) := by
  unfold endedWell? at h
  split at h
  · next k m' d =>
    obtain rfl := Option.some.inj h
    exact ⟨k, d, rfl⟩
  · cases h

namespace System

variable {T : Terms} {G : Standings} {s : System} {x : Watch} {stage : DispatchStage} {n : Nat}
  {log₀ : List Entry} {fails : Nat → Prop}

/-- A participant has a call to make. -/
def Active (s : System) (i : Nat) : Prop :=
  ∃ t turn, s.tasks[i]? = some t ∧ t.turn? i = some turn

/-- Nobody has a call to make. -/
def AtRest (s : System) : Prop := ∀ i, ¬ s.Active i

/-- Receivers are handed messages one at a time. Everything may fail but look-ups and marks. -/
def OneByOne (store : String) (s : System) : Event → Prop
  | .hand p _ => p.store = store ∧ s.AtRest
  | .call _ _ => True
  | .disturb (.failLookUp _) | .disturb (.failMark _) => False
  | .disturb _ => True
  | .create _ _ _ | .request _ _ | .edit _ _ | .take _ => False

/-- Deliveries one by one on a store are on this store. -/
theorem OneByOne.onStore {store : String} {e : Event} (h : OneByOne store s e) :
    OnStore store s e := by
  cases e with
  | hand p m => exact h.1
  | call who cancelled => trivial
  | disturb d => trivial
  | create | request | edit | take => exact h.elim

/-- The record has come to a stage since the log was `log₀`, when there were `n` tasks and nothing
of it had been dispatched. Deliveries of its control messages that may have failed are in `fails`. -/
structure Progress (x : Watch) (n : Nat) (log₀ : List Entry) (fails : Nat → Prop)
    (stage : DispatchStage) (s : System) : Prop where
  world : x.At stage s.world
  mayFail : stage = .done ∨ ∀ i, fails i
  length : n ≤ s.tasks.length
  log : ∃ new, s.log = log₀ ++ new ∧ acceptedFor x.id s.tasks new = x.accepted stage
  alone : ∀ i j, s.Active i → s.Active j → i = j
  active : ∀ i, s.Active i → n ≤ i
  receiver : ∀ i (t : Task), n ≤ i → s.tasks[i]? = some t → ∃ p m rest,
    t = .delivery (.receiver p) m rest
  follows : ∀ i (t : Task), n ≤ i → s.tasks[i]? = some t →
    t.Follows x stage s.world (fails i)
  -- a batch that has been accepted is marked by the delivery that has handed it over
  sent : stage = .sent → ∃ i t, s.Active i ∧ s.tasks[i]? = some t ∧ t.isFor x.id = true

/-- At rest nothing has been dispatched yet, and every later delivery may fail. -/
theorem Progress.start (hw : x.At .pending s.world) (hrest : s.AtRest) :
    Progress x s.tasks.length s.log (fun _ => True) .pending s where
  world := hw
  mayFail := .inr fun _ => trivial
  length := Nat.le_refl _
  log := ⟨[], (List.append_nil _).symm, rfl⟩
  -- nobody has a call to make, so nobody is between dispatch and mark
  alone i _ hi := absurd hi (hrest i)
  active i hi := absurd hi (hrest i)
  receiver i t hi ht := by
    obtain ⟨hlt, -⟩ := List.getElem?_eq_some_iff.1 ht
    omega
  follows i t hi ht := by
    obtain ⟨hlt, -⟩ := List.getElem?_eq_some_iff.1 ht
    omega
  sent := nofun

/-- While nothing has been dispatched, every delivery may fail. -/
theorem Progress.fails_of_pending (h : Progress x n log₀ fails stage s) (i : Nat)
    (hstage : stage = .pending) : fails i := by
  rcases h.mayFail with hdone | hall
  · exact nomatch hstage.symm.trans hdone
  · exact hall i

/-- The messages of deliveries do not change, so neither does what has been accepted from them. -/
theorem acceptedFor_step {id : String} {log : List Entry} {e : Event}
    (hwho : ∀ entry ∈ log, entry.who < s.tasks.length) :
    acceptedFor id (s.step e).tasks log = acceptedFor id s.tasks log := by
  -- one entry after the other: only what was accepted looks at the tasks
  refine List.filterMap_congr fun entry hentry => ?_
  cases entry with
  | committed who n changes => rfl
  | returned who n what result => rfl
  | handedOver who ops reply =>
    cases reply with
    | error e => rfl
    | ok _ =>
      have hlt : who < s.tasks.length := hwho _ hentry
      have ht := List.getElem?_eq_getElem hlt
      obtain ⟨t', ht', hmessage⟩ := message?_step s e who _ ht
      simp only [Entry.acceptedFor?, ht, ht', Option.any_some, Task.isFor, hmessage]

/-- A message is handed to a receiver. -/
theorem Progress.hand {p : Receiver} {m : Message} (h : Progress x n log₀ fails stage s)
    (hbatch : x.batch ≠ []) (hp : p.store = x.store) (hrest : s.AtRest)
    (hwho : ∀ entry ∈ s.log, entry.who < s.tasks.length) :
    Progress x n log₀ fails stage (s.step (.hand p m)) := by
  -- nobody is between a dispatch and its mark when everybody is at rest
  have hstage : stage ≠ .sent := by
    rintro rfl
    obtain ⟨i, -, hi, -⟩ := h.sent rfl
    exact hrest i hi
  have htask : ∀ i (t : Task), (s.step (.hand p m)).tasks[i]? = some t →
      s.tasks[i]? = some t ∨ i = s.tasks.length ∧ t = .delivery (.receiver p) m (p.receive m) := by
    intro i t ht
    -- a task of the new state is one of the old state, or the one that has just begun
    rcases Nat.lt_or_ge i s.tasks.length with hlt | hge
    · exact .inl ((List.getElem?_append_left hlt).symm.trans ht)
    · obtain ⟨hlt, heq⟩ := List.getElem?_eq_some_iff.1 ht
      simp only [System.step, System.start, List.length_append, List.length_singleton] at hlt
      obtain rfl : i = s.tasks.length := by omega
      refine .inr ⟨rfl, ?_⟩
      rw [← heq]
      simp [System.step, System.start, Consumer.deliver]
  -- all others are at rest
  have hactive : ∀ i, (s.step (.hand p m)).Active i → i = s.tasks.length := by
    rintro i ⟨t, turn, ht, hturn⟩
    rcases htask i t ht with hold | ⟨hi, -⟩
    · exact absurd ⟨t, turn, hold, hturn⟩ (hrest i)
    · exact hi
  obtain ⟨new, hlog, haccepted⟩ := h.log
  refine
    { world := h.world
      mayFail := h.mayFail
      length := ?_
      log := ⟨new, hlog, ?_⟩
      alone := fun i j hi hj => (hactive i hi).trans (hactive j hj).symm
      active := fun i hi => hactive i hi ▸ h.length
      receiver := fun i t hi ht => ?_
      follows := fun i t hi ht => ?_
      sent := fun hsent => absurd hsent hstage }
  · have hlength := h.length
    simp only [System.step, System.start, List.length_append]
    omega
  · rw [← haccepted]
    -- no new entry, so nothing more is accepted
    exact acceptedFor_step fun entry hentry => hwho entry (hlog ▸ List.mem_append_right _ hentry)
  · rcases htask i t ht with hold | ⟨-, rfl⟩
    · exact h.receiver i t hi hold
    · exact ⟨p, m, _, rfl⟩
  · rcases htask i t ht with hold | ⟨-, rfl⟩
    · exact h.follows i t hi hold
    · refine Task.follows_of_keeps h.world (h.fails_of_pending i) fun hm hid => ?_
      exact Watch.keeps_receive hbatch hp hm hid hstage

/-- What happens from outside leaves the progress as it is, as long as look-ups and marks do not
fail. -/
theorem Progress.disturb {d : Disturbance} (h : Progress x n log₀ fails stage s)
    (hlook : ∀ reason, d ≠ .failLookUp reason) (hmark : ∀ reason, d ≠ .failMark reason) :
    Progress x n log₀ fails stage (s.step (.disturb d)) where
  world := h.world.disturb hlook hmark
  mayFail := h.mayFail
  length := h.length
  log := h.log
  alone := h.alone
  active := h.active
  receiver := h.receiver
  follows i t hi ht := by
    have hfollows := h.follows i t hi ht
    cases t with
    | delivery k m rest =>
      cases rest with
      | done result => exact hfollows
      | call c next =>
        exact fun hm hid => (hfollows hm hid).later (h.world.disturb hlook hmark)
    | _ => trivial
  sent := h.sent

/-- A delivery makes its next call. -/
theorem call_delivery {who : Nat} {cancelled : Bool} {k : Consumer} {m : Message} {β : Type}
    {c : Call β} {next : β → Program (Except DeliveryError Disposition)}
    (ht : s.tasks[who]? = some (.delivery k m (.call c next))) :
    s.step (.call who cancelled) =
      { world := (World.answer cancelled c s.world).2
        tasks := s.tasks.set who (.delivery k m (next (World.answer cancelled c s.world).1))
        log := s.log ++ Task.note who 0 [.record (.tombstone m.id)] c
          (World.answer cancelled c s.world).1 } :=
  call_of_turn (Option.bind_eq_some_iff.2 ⟨_, ht, rfl⟩) cancelled

/-- A delivery makes its next call, and with it the record comes to its next stage or stays where it
is. -/
theorem Progress.move {who : Nat} {cancelled : Bool} {k : Consumer} {m : Message} {β : Type}
    {c : Call β} {next : β → Program (Except DeliveryError Disposition)} {stage' : DispatchStage}
    {t' : Task} (h : Progress x n log₀ fails stage s)
    (ht : s.tasks[who]? = some (.delivery k m (.call c next)))
    (ht' : t' = .delivery k m (next (World.answer cancelled c s.world).1))
    (hwho : ∀ entry ∈ s.log, entry.who < s.tasks.length)
    (hworld : x.At stage' (World.answer cancelled c s.world).2)
    (hmayFail : stage' = .done ∨ ∀ i, fails i) (hdone : stage = .done → stage' = .done)
    (haccepted : ∀ tasks : List Task, tasks[who]? = some t' →
      x.accepted stage' = x.accepted stage ++ acceptedFor x.id tasks
        (Task.note who 0 [.record (.tombstone m.id)] c (World.answer cancelled c s.world).1))
    (hfollows : t'.Follows x stage' (World.answer cancelled c s.world).2 (fails who))
    (hsent : stage' = .sent → t'.isFor x.id = true ∧ ∃ turn, t'.turn? who = some turn) :
    Progress x n log₀ fails stage' (s.step (.call who cancelled)) := by
  have hactive : s.Active who := ⟨_, _, ht, rfl⟩
  obtain ⟨hlt, -⟩ := List.getElem?_eq_some_iff.1 ht
  have hs' : s.step (.call who cancelled) =
      { world := (World.answer cancelled c s.world).2
        tasks := s.tasks.set who t'
        log := s.log ++ Task.note who 0 [.record (.tombstone m.id)] c
          (World.answer cancelled c s.world).1 } := by
    rw [ht']
    exact call_delivery ht
  -- seen from the caller and from the others, before anything is said of them
  have hself : (s.step (.call who cancelled)).tasks[who]? = some t' := by
    rw [hs']
    exact List.getElem?_set_self hlt
  have hother : ∀ i, i ≠ who → (s.step (.call who cancelled)).tasks[i]? = s.tasks[i]? := by
    intro i hi
    rw [hs']
    exact List.getElem?_set_ne hi.symm
  -- the caller was the only one with a call to make, and it is the only one that may have another
  have honly : ∀ i, (s.step (.call who cancelled)).Active i → i = who := by
    rintro i ⟨t, turn, hti, hturn⟩
    by_cases hi : i = who
    · exact hi
    · rw [hother i hi] at hti
      exact h.alone i who ⟨t, turn, hti, hturn⟩ hactive
  -- the log has the note of this call behind all that it had
  obtain ⟨new, hlog, hnew⟩ := h.log
  refine
    { world := by rw [hs']; exact hworld
      mayFail := hmayFail
      length := ?_
      log := ⟨new ++ Task.note who 0 [.record (.tombstone m.id)] c
        (World.answer cancelled c s.world).1, ?_, ?_⟩
      alone := fun i j hi hj => (honly i hi).trans (honly j hj).symm
      active := fun i hi => honly i hi ▸ h.active who hactive
      receiver := fun i t hi hti => ?_
      follows := fun i t hi hti => ?_
      sent := fun hstage => ?_ }
  · rw [hs']
    simpa using h.length
  · rw [hs', hlog, List.append_assoc]
  · have hold : ∀ entry ∈ new, entry.who < s.tasks.length :=
      fun entry hentry => hwho entry (hlog ▸ List.mem_append_right _ hentry)
    rw [acceptedFor_append, acceptedFor_step hold, hnew, haccepted _ hself]
  -- it is still a receiver
  · by_cases hiw : i = who
    · subst hiw
      obtain ⟨p, m', rest, heq⟩ := h.receiver i _ hi ht
      obtain ⟨rfl, rfl, -⟩ := Task.delivery.inj heq
      obtain rfl := Option.some.inj (hself.symm.trans hti)
      exact ⟨p, m, _, ht'⟩
    · rw [hother i hiw] at hti
      exact h.receiver i t hi hti
  -- it goes on as it should, and the others stay where they have come to
  · by_cases hiw : i = who
    · subst hiw
      obtain rfl := Option.some.inj (hself.symm.trans hti)
      rw [hs']
      exact hfollows
    · rw [hother i hiw] at hti
      obtain ⟨p, m', rest, rfl⟩ := h.receiver i t hi hti
      -- another delivery is not under way, so it has come to its end
      cases rest with
      | call c' next' => exact absurd (h.alone i who ⟨_, _, hti, rfl⟩ hactive) hiw
      | done result =>
        intro hm hid
        rcases h.follows i _ hi hti hm hid with ⟨hok, hstage⟩ | herror
        · exact .inl ⟨hok, hdone hstage⟩
        · exact .inr herror
  -- between the dispatch and the mark it is the caller that has the turn
  · obtain ⟨hfor, turn, hturn⟩ := hsent hstage
    exact ⟨who, t', ⟨t', turn, hself, hturn⟩, hself, hfor⟩

/-- The delivery of a control message for the record makes its next call. -/
theorem Progress.call_for {who : Nat} {cancelled : Bool} {k : Consumer} {m : Message} {β : Type}
    {c : Call β} {next : β → Program (Except DeliveryError Disposition)}
    (h : Progress x n log₀ fails stage s)
    (ht : s.tasks[who]? = some (.delivery k m (.call c next)))
    (hwho : ∀ entry ∈ s.log, entry.who < s.tasks.length) (hm : m.isControl = true)
    (hid : m.id = x.id) :
    Progress x n log₀ fails (Watch.after stage c (World.answer cancelled c s.world).1)
      (s.step (.call who cancelled)) := by
  have hfollows := h.follows who _ (h.active who ⟨_, _, ht, rfl⟩) ht hm hid
  obtain ⟨hlawful, hnext⟩ := hfollows s.world h.world trivial
  have hworld := h.world.answer cancelled hlawful
  have hkeeps := hnext cancelled
  -- once dispatched always dispatched
  have hmayFail : Watch.after stage c (World.answer cancelled c s.world).1 = .done ∨
      ∀ i, fails i := by
    rcases h.mayFail with rfl | hall
    · exact .inl (Watch.after_of_done hlawful _)
    · exact .inr hall
  refine h.move ht rfl hwho hworld hmayFail ?_ ?_ ?_ ?_
  · rintro rfl
    exact Watch.after_of_done hlawful _
  · intro tasks htask
    refine Watch.accepted_after hlawful ?_
    rw [htask, Option.any_some, Task.isFor_delivery]
    exact ⟨hm, hid⟩
  · refine Task.follows_of_keeps hworld (fun hstage => ?_) fun _ _ => hkeeps
    exact h.fails_of_pending who (Watch.pending_of_after hstage)
  · intro hsent
    refine ⟨Task.isFor_delivery.2 ⟨hm, hid⟩, ?_⟩
    -- a delivery does not end between the dispatch and the mark
    cases hrest : next (World.answer cancelled c s.world).1 with
    | call c' next' => exact ⟨_, rfl⟩
    | done result =>
      rw [hrest] at hkeeps
      rcases hkeeps _ hworld with ⟨-, hstage⟩ | ⟨-, hstage⟩
      · exact nomatch hsent.symm.trans hstage
      · exact nomatch hsent.symm.trans hstage

/-- The delivery of another message makes its next call. -/
theorem Progress.call_other {who : Nat} {cancelled : Bool} {k : Consumer} {m : Message} {β : Type}
    {c : Call β} {next : β → Program (Except DeliveryError Disposition)}
    (h : Progress x n log₀ fails stage s) (hstore : x.store = T.store)
    (ht : s.tasks[who]? = some (.delivery k m (.call c next)))
    (hwho : ∀ entry ∈ s.log, entry.who < s.tasks.length)
    (hlawful : Lawful T (.delivery k m) (G who) c s.world)
    (hm : ¬ (m.isControl = true ∧ m.id = x.id)) :
    Progress x n log₀ fails stage (s.step (.call who cancelled)) := by
  have hnot : ∀ rest, (Task.delivery k m rest).isFor x.id = false :=
    fun rest => Bool.eq_false_iff.2 fun hfor => hm (Task.isFor_delivery.1 hfor)
  -- a delivery of another message leaves the stage where it is
  refine h.move ht rfl hwho (h.world.of_lawful cancelled hstore hlawful hm) h.mayFail id ?_ ?_ ?_
  · intro tasks htask
    have hfor : tasks[who]?.any (·.isFor x.id) = false := by
      rw [htask, Option.any_some]
      exact hnot (next (World.answer cancelled c s.world).1)
    rw [acceptedFor_note_of_not hfor, List.append_nil]
  · cases next (World.answer cancelled c s.world).1 <;>
      exact fun hcontrol hid => absurd ⟨hcontrol, hid⟩ hm
  · intro hsent
    obtain ⟨i, t, hactive, hti, hfor⟩ := h.sent hsent
    obtain rfl := h.alone i who hactive ⟨_, _, ht, rfl⟩
    obtain rfl := Option.some.inj (ht.symm.trans hti)
    exact nomatch hfor.symm.trans (hnot _)

/-- Every event keeps account of what has become of the record, and it stays marked. -/
theorem Progress.step {e : Event} (h : Progress x n log₀ fails stage s) (hbatch : x.batch ≠ [])
    (hinv : Inv (.sharing x.store) G s) (hrequests : Requests G s) (he : OneByOne x.store s e) :
    ∃ stage', (stage = .done → stage' = .done) ∧ Progress x n log₀ fails stage' (s.step e) := by
  -- deliveries, disturbances and calls; nothing else is admitted
  cases e with
  | hand p m => exact ⟨stage, id, h.hand hbatch he.1 he.2 hrequests.who_lt⟩
  | disturb d =>
    refine ⟨stage, id, h.disturb (fun reason => ?_) fun reason => ?_⟩
    · rintro rfl
      exact he
    · rintro rfl
      exact he
  | call who cancelled =>
    by_cases hactive : s.Active who
    · obtain ⟨t, turn, ht, hturn⟩ := hactive
      obtain ⟨p, m, rest, rfl⟩ := h.receiver who t (h.active who ⟨t, turn, ht, hturn⟩) ht
      cases rest with
      | done result => exact nomatch hturn
      | call c next =>
        by_cases hm : m.isControl = true ∧ m.id = x.id
        · refine ⟨_, ?_, h.call_for ht hrequests.who_lt hm.1 hm.2⟩
          rintro rfl
          obtain ⟨hlawful, -⟩ := h.follows who _ (h.active who ⟨_, _, ht, rfl⟩) ht hm.1 hm.2 s.world
            h.world trivial
          exact Watch.after_of_done hlawful _
        · -- what another delivery may do is what the contract says of it
          obtain ⟨-, -, hrest⟩ := hinv.keeps who _ ht
          obtain ⟨hlawful, -⟩ := hrest s.world (.refl hinv.shared)
            (admits_delivery ht fun hreliable => hreliable.elim)
          exact ⟨stage, id, h.call_other rfl ht hrequests.who_lt hlawful hm⟩
    · have hsame : s.step (.call who cancelled) = s := by
        cases hturn : s.tasks[who]?.bind (Task.turn? who) with
        | none => exact call_of_none hturn cancelled
        | some turn =>
          obtain ⟨t, ht, hturn'⟩ := Option.bind_eq_some_iff.1 hturn
          exact absurd ⟨t, turn, ht, hturn'⟩ hactive
      rw [hsame]
      exact ⟨stage, id, h⟩
  | create | request | edit | take => exact he.elim

/-- A run of deliveries one after the other keeps account. -/
theorem Progress.reaches {s₀ s' : System} (hfresh : s₀.Fresh)
    (hbefore : Reaches (OnStore x.store) s₀ s) (h : Progress x n log₀ fails stage s)
    (hbatch : x.batch ≠ []) (hreaches : Reaches (OneByOne x.store) s s') :
    ∃ stage', (stage = .done → stage' = .done) ∧ Progress x n log₀ fails stage' s' := by
  -- one event after the other, and with each the system is still one on the one store
  have hboth : Reaches (OnStore x.store) s₀ s' ∧
      ∃ stage', (stage = .done → stage' = .done) ∧ Progress x n log₀ fails stage' s' := by
    refine hreaches.invariant (I := fun s' => Reaches (OnStore x.store) s₀ s' ∧
      ∃ stage', (stage = .done → stage' = .done) ∧ Progress x n log₀ fails stage' s')
      ⟨hbefore, stage, id, h⟩ ?_
    rintro s' e ⟨hstore, stage₁, hstays, hprogress⟩ he
    obtain ⟨G, hinv, hrequests, -⟩ := hfresh.reaches (T := .sharing x.store) trivial
      (hstore.mono fun _ _ => OnStore.fits)
    obtain ⟨stage₂, hstays', hprogress'⟩ := hprogress.step hbatch hinv hrequests he
    exact ⟨hstore.next he.onStore, stage₂, fun hdone => hstays' (hstays hdone), hprogress'⟩
  exact hboth.2

/-- Deliveries of control messages for a session leave stores and transport alone, and end well.
Those that are under way have started when there were `n` tasks, or later. -/
structure LeftAlone (store id : String) (n : Nat) (s : System) : Prop where
  calls : ∀ i k m rest cancelled, n ≤ i → s.tasks[i]? = some (.delivery k m rest) →
    m.isControl = true → m.id = id →
    (s.step (.call i cancelled)).world.database = s.world.database ∧
      (s.step (.call i cancelled)).world.transport = s.world.transport
  ended : ∀ i k m result, n ≤ i → s.tasks[i]? = some (.delivery k m (.done result)) →
    m.isControl = true → m.id = id → result = .ok .completed
  run : ∀ (p : Receiver) (m : Message) (cancelled : Bool), p.store = store → m.isControl = true →
    m.id = id → (s.world.run cancelled (p.receive m)).1 = .ok .completed ∧
      (s.world.run cancelled (p.receive m)).2.database = s.world.database ∧
      (s.world.run cancelled (p.receive m)).2.transport = s.world.transport

/-- After the dispatch the record is left alone by all deliveries from then on. -/
theorem Progress.leftAlone {since : Nat} (h : Progress x n log₀ (· < since) .done s)
    (hbatch : x.batch ≠ []) (hsince : n ≤ since) : LeftAlone x.store x.id since s where
  calls i k m rest cancelled hi ht hm hid := by
    -- a delivery that is over makes no call
    cases rest with
    | done result =>
      have hsame : s.step (.call i cancelled) = s := call_of_none (by rw [ht]; rfl) cancelled
      rw [hsame]
      exact ⟨rfl, rfl⟩
    | call c next =>
      have hkeeps := h.follows i _ (Nat.le_trans hsince hi) ht hm hid
      obtain ⟨hlawful, -⟩ := hkeeps s.world h.world trivial
      rw [call_delivery ht]
      exact Watch.answer_of_done cancelled h.world hlawful
  ended i k m result hi ht hm hid := by
    rcases h.follows i _ (Nat.le_trans hsince hi) ht hm hid with ⟨hok, -⟩ | ⟨-, hlt⟩
    · exact hok
    · exact absurd hlt (Nat.not_lt.2 hi)
  run p m cancelled hp hm hid := by
    have hkeeps : (p.receive m).Keeps x.discipline (Watch.Ends .completed) .done s.world :=
      Watch.keeps_receive hbatch hp hm hid (by simp)
    obtain ⟨hends, hunchanged⟩ := Watch.run_of_done cancelled hkeeps h.world
    rcases hends with ⟨hok, -⟩ | ⟨-, hstage⟩
    · exact ⟨hok, hunchanged⟩
    · cases hstage

/-- When deliveries follow the commit of a session one after the other: the transport accepts the
batch at most once, as a whole and in one call; nobody else hands over anything of it; and when a
delivery of a control message for the session has ended well, the batch has been accepted, and from
then on such deliveries end well and change neither stores nor transport. -/
theorem dispatched_once {store id : String} {b : Batch} {s₀ s₁ s₂ : System} (hfresh : s₀.Fresh)
    (hbefore : Reaches (OnStore store) s₀ s₁) (hrest : s₁.AtRest) (hfaults : s₁.world.faults = {})
    (hb : b ≠ []) (hr : s₁.world.record? store id = some (.new id b))
    (h : Reaches (OneByOne store) s₁ s₂) :
    ∃ new, s₂.log = s₁.log ++ new ∧
      (acceptedFor id s₂.tasks new = [] ∨
        acceptedFor id s₂.tasks new = [b.map (·.toShipment)]) ∧
      (∀ before who ops reply after, new = before ++ .handedOver who ops reply :: after →
        ∃ t, s₂.tasks[who]? = some t ∧ t.MayHaveHandedOver (s₁.log ++ before) ops) ∧
      ∀ i k m d, s₁.tasks.length ≤ i → s₂.tasks[i]? = some (.delivery k m (.done (.ok d))) →
        m.isControl = true → m.id = id →
        acceptedFor id s₂.tasks new = [b.map (·.toShipment)] ∧
        ∀ s₃, Reaches (OneByOne store) s₂ s₃ → LeftAlone store id s₂.tasks.length s₃ := by
  have hstart := Progress.start (x := ⟨store, id, b⟩) ⟨hr, hfaults⟩ hrest
  obtain ⟨stage, -, hprogress⟩ := hstart.reaches hfresh hbefore hb h
  obtain ⟨new, hlog, haccepted⟩ := hprogress.log
  have hstore : Reaches (OnStore store) s₀ s₂ := hbefore.trans (h.mono fun _ _ => OneByOne.onStore)
  refine ⟨new, hlog, ?_, fun before who ops reply after hnew => ?_, fun i k m d hi ht hm hid => ?_⟩
  -- accepted not at all or once, by the stage that has been reached
  · cases stage with
    | pending => exact .inl haccepted
    | sent => exact .inr haccepted
    | done => exact .inr haccepted
  · refine hfresh.accounted hstore (s₁.log ++ before) _ after ?_ who ops reply rfl
    rw [hlog, hnew, List.append_assoc]
  · have hdone : stage = .done := by
      rcases hprogress.follows i _ hi ht hm hid with ⟨-, hstage⟩ | ⟨⟨e, herror⟩, -⟩
      · exact hstage
      · exact nomatch herror
    subst hdone
    refine ⟨haccepted, fun s₃ hlater => ?_⟩
    -- from here on no delivery that starts may fail
    have hsince : Progress ⟨store, id, b⟩ s₁.tasks.length s₁.log (· < s₂.tasks.length) .done s₂ :=
      { hprogress with
        mayFail := .inl rfl
        follows := fun i t hi ht => by
          obtain ⟨hlt, -⟩ := List.getElem?_eq_some_iff.1 ht
          simpa [hlt] using hprogress.follows i t hi ht }
    obtain ⟨stage', hstays, hprogress'⟩ := hsince.reaches hfresh hstore hb hlater
    obtain rfl := hstays rfl
    exact hprogress'.leftAlone hb hprogress.length

/-- A receiver is handed a control message of the session. -/
def oneHand : List Event :=
  .hand { store := "db", address := "processor" }
    { id := "a", headers := (∅ : Headers).insert Headers.controlMessage "true" } ::
    List.replicate 3 (.call 1 false)

/-- The one message is handed to a receiver, and its delivery makes its calls. -/
theorem reaches_oneHand (hrest : s.AtRest) : Reaches (OneByOne "db") s (s.run oneHand) := by
  have hhand : ∀ m, OneByOne "db" s (.hand { store := "db", address := "processor" } m) :=
    fun _ => ⟨rfl, hrest⟩
  have hcalls : ∀ s', Reaches (OneByOne "db") s' (s'.run (List.replicate 3 (.call 1 false))) := by
    intro s'
    refine reaches_run (P := fun _ => True) _ (fun _ _ e he => ?_) fun _ _ => trivial
    obtain ⟨-, rfl⟩ := List.mem_replicate.1 he
    trivial
  rw [oneHand, System.run, List.foldl_cons]
  exact (Reaches.start.next (hhand _)).trans (hcalls (s.step _))

set_option maxRecDepth 10000 in
/-- A committed session is delivered once: its batch is accepted, in one dispatch. -/
theorem dispatched_once_oneHand : ∃ (b : Batch) (new : List Entry), b ≠ [] ∧
    ((untouched.run oneCommit).run oneHand).log = (untouched.run oneCommit).log ++ new ∧
    acceptedFor "a" ((untouched.run oneCommit).run oneHand).tasks new = [b.map (·.toShipment)] := by
  have hbefore : Reaches (OnStore "db") untouched (untouched.run oneCommit) :=
    reaches_run (P := fun _ => True) oneCommit (fun _ _ _ he => onStore_oneCommit he)
      fun _ _ => trivial
  have hlength : (untouched.run oneCommit).tasks.length = 1 := by decide +kernel
  have hidle : ((untouched.run oneCommit).tasks[0]?.bind (Task.turn? 0)).isNone = true := by
    decide +kernel
  have hfaults : (untouched.run oneCommit).world.faults = {} := by decide +kernel
  have hr : ((untouched.run oneCommit).world.record? "db" "a").any
      (fun r => decide (r = .new "a" r.batch ∧ r.batch ≠ [])) = true := by
    decide +kernel
  have hended : (((untouched.run oneCommit).run oneHand).tasks[1]?.bind Task.endedWell?).any
      (fun m => m.isControl && m.id == "a") = true := by
    decide +kernel
  -- the state is not unfolded any more: all that counts of it has been decided above
  generalize untouched.run oneCommit = s₁ at *
  have hrest : s₁.AtRest := by
    rintro i ⟨t, turn, ht, hturn⟩
    obtain ⟨hlt, -⟩ := List.getElem?_eq_some_iff.1 ht
    obtain rfl : i = 0 := by omega
    simp [ht, hturn] at hidle
  obtain ⟨r, hr, hr'⟩ := (Option.any_eq_true _ _).1 hr
  obtain ⟨hnew, hb⟩ := of_decide_eq_true hr'
  rw [hnew] at hr
  obtain ⟨new, hlog, -, -, hcontrol⟩ :=
    dispatched_once fresh_untouched hbefore hrest hfaults hb hr (reaches_oneHand hrest)
  obtain ⟨m, hm, hcontrols⟩ := (Option.any_eq_true _ _).1 hended
  obtain ⟨t, ht, hwell⟩ := Option.bind_eq_some_iff.1 hm
  obtain ⟨k, d, rfl⟩ := Task.endedWell?_eq_some hwell
  obtain ⟨hcontrol', hid⟩ := Bool.and_eq_true_iff.1 hcontrols
  obtain ⟨haccepted, -⟩ :=
    hcontrol 1 k m d (Nat.le_of_eq hlength) ht hcontrol' (eq_of_beq hid)
  exact ⟨r.batch, new, hb, hlog, haccepted⟩

end System

end Outbox
