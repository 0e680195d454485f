import Outbox.Proofs.Contract.Calls

/-!
# Deliveries keep the contract

One statement for each part of a delivery, from the dispatch of a record up to the whole delivery
by a worker. A delivery of a sound control message that ends well has passed its duty on or has
left a settled record behind; one that fails is forwarded.

* `keeps_receive`  what a delivery leaves behind
* `keeps_deliver`  a delivery never ends with a duty that nobody has
-/

namespace Outbox

open Program

/-- A copy of the record under an id, as it was read: the record itself may be marked by now. -/
structure Copy (store id : String) (r : Record) (w : World) : Prop where
  current : ∃ r', w.record? store id = some r' ∧ r.Becomes r'
  id_eq : r.id = id
  accepted : r.Accepted w

namespace Copy

variable {store id : String} {r : Record} {w w' : World}

/-- A copy stays one while the world grows. -/
theorem grow (h : Copy store id r w) (hw : w.Grows w') : Copy store id r w' where
  current := by
    obtain ⟨r₁, hr₁, h₁⟩ := h.current
    obtain ⟨r₂, hr₂, h₂⟩ := hw.record? hr₁
    exact ⟨r₂, hr₂, h₁.trans h₂⟩
  id_eq := h.id_eq
  accepted := h.accepted.grow hw

/-- When nothing waits in the copy of a record, its session is settled. -/
theorem settled (h : Copy store id r w) (hd : r.isDispatched = true) : Settled store id w := by
  obtain ⟨r', hr', hb⟩ := h.current
  exact ⟨r', hr', hb.isDispatched hd⟩

/-- When what waits in the copy has been accepted, the record can be marked. -/
theorem accepted_current (h : Copy store id r w)
    (hops : ∀ op ∈ r.undispatched, op.toShipment ∈ w.transport.dispatched) {r' : Record}
    (hr' : w.record? store id = some r') : r'.markDispatched.Accepted w := by
  obtain ⟨r₁, hr₁, hb⟩ := h.current
  obtain rfl : r₁ = r' := Option.some.inj (hr₁.symm.trans hr')
  exact hb.accepted (h.accepted.markDispatched hops)

end Copy

/-- What a look-up has found is a copy of what is there. -/
theorem Shared.copy {T : Terms} {id : String} {r : Record} {w : World} (h : Shared T w)
    (hr : w.record? T.store id = some r) : Copy T.store id r w where
  current := ⟨r, hr, .refl r⟩
  id_eq := h.id_eq id r hr
  accepted := h.accepted id r hr

variable {T : Terms} {k : Consumer} {m : Message} {g : Standing} {w : World}

/-- A delivery has no duty, or that for the session of a sound message. -/
def MayOwe (T : Terms) (k : Consumer) (m : Message) (g : Standing) : Prop :=
  g.duty = none ∨ g.duty = some m.id ∧ T.sound m ∧ T.address k.setup.address

/-- What waits in a record is dispatched, and the record is settled. -/
theorem keeps_forwardRecord {p : Receiver} {r : Record} (hp : p.store = T.store)
    (hm : m.isControl = true) (hr : Copy T.store m.id r w) :
    (p.forwardRecord r).Keeps (contract T (.delivery k m))
      (fun _ result w' => result = .ok () → Settled T.store m.id w') g w := by
  unfold Receiver.forwardRecord
  split
  · next hd =>
    -- nothing waited in the record when it was read
    exact keeps_done fun w' hw _ => (hr.settled hd).grow hw.grows
  · next hd =>
    rw [ask_bind]
    refine keeps_dispatch (fun w' hw => ?_) (fun e w' _ _ => ?_) fun w' hw hops => ?_
    -- the record was read earlier, and what it holds has not changed since
    · have hcopy := hr.grow hw.grows
      obtain ⟨r', hr', hb⟩ := hcopy.current
      exact .inr (.inr ⟨hm, r, r', hr', hb, by simpa using hd, rfl⟩)
    -- rejected: the record stays as it is, and the delivery ends with the error
    · exact keeps_done fun _ _ => nofun
    · -- others may have marked the record by now, which does not change what it holds
      have hcopy := hr.grow hw.grows
      dsimp only
      rw [ask_bind, hp, hcopy.id_eq]
      refine keeps_setDispatched ⟨hm, rfl⟩ (fun w₂ r₂ hw₂ hr₂ => ?_) (fun e w₂ _ => ?_)
        -- all that waited has been accepted, so the marks may be set
        fun w₂ hw₂ hmarked => ?_
      · refine (hcopy.grow hw₂.grows).accepted_current (fun op hop => ?_) hr₂
        exact hw₂.grows.mem_dispatched (hops _ (List.mem_map_of_mem hop))
      -- accepted but not marked: the delivery ends with the error again
      · exact keeps_done fun _ _ => nofun
      · refine keeps_done fun w₃ hw₃ _ => ?_
        obtain ⟨r', hr', -⟩ := (hcopy.grow hw₂).current
        exact Settled.grow ⟨r', hr', hmarked r' hr'⟩ hw₃.grows

/-- An empty record settles the session, and it is refused only when there is a record. -/
theorem keeps_writeTombstone {p : Receiver} (hp : p.store = T.store) :
    (p.writeTombstone m.id).Keeps (contract T (.delivery k m))
      (fun _ result w' =>
        (result = .ok () → Settled T.store m.id w') ∧
        (∀ id, result = .error (.conflict id) → ∃ r, w'.record? T.store m.id = some r)) g w := by
  unfold Receiver.writeTombstone
  rw [ask_bind, hp]
  -- a transaction with the empty record in it, and then its commit
  refine keeps_beginTransaction fun tx w₁ _ _ ht₁ => ?_
  dsimp only
  rw [ask_bind]
  refine keeps_addRecord rfl ht₁ rfl (fun reason w₂ _ => ?_) fun w₂ _ ht₂ => ?_
  -- the store has failed, and no record was added
  · exact keeps_done fun _ _ => ⟨by simp, by simp⟩
  · refine keeps_commit rfl ht₂ trivial (fun _ _ => trivial) (fun reason w₃ _ => ?_)
      (fun e w₃ _ hrefused => ?_) fun w₃ _ hrecord => ?_
    · exact keeps_done fun _ _ => ⟨by simp, by simp⟩
    · -- an empty record is refused only when its id is taken
      have hr : ∃ r, w₃.record? T.store m.id = some r := by
        refine Option.ne_none_iff_exists'.1 fun hnone => ?_
        refine hrefused ([Change.record (.tombstone m.id)].foldl Store.apply
          (w₃.database.store T.store)) ?_
        refine Store.applyAll_eq_ok_iff.2 ⟨by simp [Role.contribution], ?_, rfl⟩
        simpa [Role.contribution, World.record?] using hnone
      obtain ⟨r, hr⟩ := hr
      refine keeps_done fun w₄ hw₄ => ⟨by simp, fun _ _ => ?_⟩
      obtain ⟨r', hr', -⟩ := hw₄.grows.record? hr
      exact ⟨r', hr'⟩
    -- the empty record is there, and a record without operations counts as dispatched
    · have hr := hrecord (.tombstone m.id) (by simp [Role.contribution])
      refine keeps_done fun w₄ hw₄ => ⟨fun _ => ?_, by simp⟩
      exact Settled.grow ⟨_, hr, rfl⟩ hw₄.grows

/-- However an id comes to be blocked, the session is settled afterwards. -/
theorem keeps_tombstone {p : Receiver} (hp : p.store = T.store) (hm : m.isControl = true) :
    (p.tombstone m.id).Keeps (contract T (.delivery k m))
      (fun _ result w' => result = .ok () → Settled T.store m.id w') g w := by
  unfold Receiver.tombstone
  refine keeps_bind (keeps_writeTombstone hp) fun g₁ result w₁ ⟨hok, hconflict⟩ => ?_
  cases result with
  | ok _ => exact keeps_done fun _ hw _ => (hok rfl).grow hw.grows
  | error e =>
    cases e with
    | conflict id =>
      -- a session has committed in between: its record is read again and dispatched
      obtain ⟨r, hr⟩ := hconflict id rfl
      dsimp only
      rw [ask_bind, hp]
      refine keeps_getRecord (fun e w₂ _ => ?_) fun w₂ hw₂ => ?_
      · exact keeps_done fun _ _ => nofun
      · obtain ⟨r', hr', -⟩ := hw₂.grows.record? hr
        rw [hr']
        exact keeps_forwardRecord hp hm (hw₂.shared.copy hr')
    | incompatible _ | serialization _ | backend _ => exact keeps_done fun _ _ => nofun

/-- To tell an outcome changes nothing that participants keep. -/
theorem keeps_report {reports : Bool} {outcome : Outcome} {role : Role} :
    (report reports outcome).Keeps (contract T role) (fun g' _ w' => g' = g ∧ w.Grows w') g w := by
  unfold report
  split
  · exact keeps_observe fun w₁ hw₁ => keeps_done fun _ hw₂ => ⟨rfl, hw₁.grows.trans hw₂.grows⟩
  · exact keeps_done fun _ hw => ⟨rfl, hw.grows⟩

/-- A successor of a sound message takes the duty over. -/
theorem duty_after_successor {c : Countdown} {now : Time.Instant} (howes : MayOwe T k m g)
    (hc : tracked m = some c) (hexh : c.isExhausted = false) (hnow : T.time now) :
    (g.after T (.dispatch [c.successor m k.setup.address now]) (.ok ())).duty = none := by
  simp only [Standing.after]
  rcases howes with hnone | ⟨hsome, hsound, haddress⟩
  · simp [hnone]
  · -- the successor goes to the processor queue that the message came from
    refine if_pos ⟨_, List.mem_singleton_self _, _, haddress, rfl, ?_, hsome⟩
    exact T.sound_successor _ hsound hc hexh hnow

/-- A retry passes the duty on, and a delivery goes on only without a countdown. -/
theorem keeps_judge {reports : Bool} {now : Time.Instant} (howes : MayOwe T k m g)
    (hnow : T.time now) :
    (judge k.setup.address reports m (tracked m) now).Keeps (contract T (.delivery k m))
      (fun g' verdict _ =>
        (verdict = .goOn → tracked m = none) ∧ (verdict = .retried → g'.duty = none)) g w := by
  -- by the verdict: none, gave up, or retried
  unfold judge
  split
  -- without a countdown there is nothing to judge
  · next hnone => exact keeps_done fun _ _ => ⟨fun _ => hnone, nofun⟩
  · next c hc =>
    split
    · -- the countdown has run out: no successor, the verdict is to give up
      refine keeps_bind keeps_report fun g₁ _ w₁ _ => ?_
      exact keeps_done fun _ _ => ⟨nofun, nofun⟩
    · next hexh =>
      rw [Bool.not_eq_true] at hexh
      rw [ask_bind]
      refine keeps_dispatch (fun _ _ => .inl ⟨c, now, hc, hexh, hnow, rfl⟩) (fun e w₁ _ _ => ?_)
        fun w₁ _ _ => ?_
      -- the successor was rejected, and the delivery fails with it
      · exact keeps_done fun _ _ => ⟨nofun, nofun⟩
      · refine keeps_bind keeps_report fun g₂ _ w₂ ⟨hg₂, _⟩ => ?_
        refine keeps_done fun _ _ => ⟨nofun, fun _ => ?_⟩
        rw [hg₂]
        exact duty_after_successor howes hc hexh hnow

/-- What a delivery leaves behind: a settled record when it completes a control message, and no
duty when it has scheduled a successor. -/
def LeavesBehind (T : Terms) (m : Message) (g : Standing)
    (result : Except DeliveryError Disposition) (w : World) : Prop :=
  (result = .ok .completed → m.isControl = true → (tracked m).isSome = true →
    Settled T.store m.id w) ∧
  (result = .ok .retryScheduled → g.duty = none)

/-- A delivery that fails promises nothing. -/
theorem leavesBehind_error (e : DeliveryError) : LeavesBehind T m g (.error e) w :=
  ⟨nofun, nofun⟩

/-- What a delivery leaves behind stays while the world grows. -/
theorem LeavesBehind.grow {result : Except DeliveryError Disposition} {w' : World}
    (h : LeavesBehind T m g result w) (hw : w.Grows w') : LeavesBehind T m g result w' :=
  ⟨fun hr hm ht => (h.1 hr hm ht).grow hw, h.2⟩

/-- What is left to do with a message without a countdown. -/
theorem keeps_passOn {p : Receiver} (hnone : tracked m = none) :
    (p.passOn m).Keeps (contract T (.delivery k m)) (LeavesBehind T m) g w := by
  -- without a countdown there is no duty that it could leave behind
  have hcompleted : ∀ g' w', LeavesBehind T m g' (.ok .completed) w' :=
    fun _ _ => ⟨fun _ _ h => by simp [hnone] at h, nofun⟩
  unfold Receiver.passOn
  split
  -- a control message that nobody can judge is taken and forgotten
  · exact keeps_done fun _ _ => hcompleted _ _
  · rw [ask_bind]
    refine keeps_handle fun reply w₁ _ => ?_
    cases reply with
    | error e => exact keeps_done fun _ _ => leavesBehind_error e
    | ok _ => exact keeps_done fun _ _ => hcompleted _ _

/-- A delivery that has found no record. -/
theorem keeps_retry (hstore : k.setup.store = T.store) (howes : MayOwe T k m g) :
    (k.setup.retry m (tracked m)).Keeps (contract T (.delivery k m)) (LeavesBehind T m) g w := by
  unfold Receiver.retry
  rw [ask_bind]
  refine keeps_now fun now w₁ _ hnow => ?_
  refine keeps_bind (keeps_judge howes hnow) fun g₂ verdict w₂ ⟨hgoOn, hretried⟩ => ?_
  cases verdict with
  | goOn => exact keeps_passOn (hgoOn rfl)
  | retried => exact keeps_done fun _ _ => ⟨nofun, fun _ => hretried rfl⟩
  | failed e => exact keeps_done fun _ _ => leavesBehind_error _
  | gaveUp =>
    dsimp only
    split
    · next hm =>
      -- only the delivery of a control message blocks the id of its session
      refine keeps_bind (keeps_tombstone hstore hm) fun g₃ result w₃ hok => ?_
      cases result with
      | error e => exact keeps_done fun _ _ => leavesBehind_error e
      | ok _ =>
        exact keeps_done fun _ hw =>
          ⟨fun _ _ _ => (hok rfl).grow hw.grows, nofun⟩
    · next hm =>
      exact keeps_done fun _ _ => ⟨fun _ h => absurd h hm, nofun⟩

/-- All work of a delivery. -/
theorem keeps_work (hstore : k.setup.store = T.store) (howes : MayOwe T k m g) :
    (k.setup.work m (tracked m)).Keeps (contract T (.delivery k m)) (LeavesBehind T m) g w := by
  unfold Receiver.work
  split
  · next hm =>
    -- a control message: is the record of its session there already?
    rw [ask_bind, hstore]
    refine keeps_getRecord (fun e w₁ _ => ?_) fun w₁ hw₁ => ?_
    -- the look-up has failed
    · exact keeps_done fun _ _ => leavesBehind_error _
    · cases hr : w₁.record? T.store m.id with
      | none => exact keeps_retry hstore howes
      | some r =>
        dsimp only
        refine keeps_bind (keeps_forwardRecord hstore hm (hw₁.shared.copy hr))
          fun g₂ result w₂ hok => ?_
        cases result with
        | error e => exact keeps_done fun _ _ => leavesBehind_error e
        | ok _ =>
          exact keeps_done fun _ hw =>
            ⟨fun _ _ _ => (hok rfl).grow hw.grows, nofun⟩
  -- a message that is no control message looks nothing up
  · exact keeps_retry hstore howes

/-- A whole receive. -/
theorem keeps_receive (hstore : k.setup.store = T.store) (howes : MayOwe T k m g) :
    (k.setup.receive m).Keeps (contract T (.delivery k m)) (LeavesBehind T m) g w := by
  unfold Receiver.receive withOutcome
  dsimp only
  refine keeps_bind (keeps_work hstore howes) fun g₁ result w₁ hleft => ?_
  split
  · refine keeps_bind keeps_report fun g₂ _ w₂ ⟨hg₂, hw₂⟩ => ?_
    subst hg₂
    exact keeps_done fun _ hw => (hleft.grow hw₂).grow hw.grows
  · exact keeps_done fun _ hw => hleft.grow hw.grows

/-- A worker has put the message aside, in its error queue. -/
def PutAside (worker : Worker) (m : Message) (w : World) : Prop :=
  ∃ e, worker.forwarded m e ∈ w.transport.dispatched

/-- What was put aside stays in the log of the transport. -/
theorem PutAside.grow {worker : Worker} {w' : World} (h : PutAside worker m w) (hw : w.Grows w') :
    PutAside worker m w' := by
  obtain ⟨e, he⟩ := h
  exact ⟨e, hw.mem_dispatched he⟩

/-- What is known when a delivery has ended: its duty is passed on, its session settled, or its
message put aside. A message that a receiver on its own has failed to deliver is up to its
caller. -/
def AfterDelivery (T : Terms) (m : Message) (g : Standing) (w : World) : Consumer → Prop
  | .worker worker =>
    T.sound m → g.duty = none ∨ Settled T.store m.id w ∨ PutAside worker m w
  | .receiver _ => True

/-- A delivery by a worker leaves no duty behind: the session is settled, its successor is under
way, or its message has been put aside. -/
theorem keeps_deliverByWorker {worker : Worker} (hstore : worker.receiver.store = T.store)
    (howes : MayOwe T (.worker worker) m g) :
    (worker.deliver m).Keeps (contract T (.delivery (.worker worker) m))
      (fun g' _ w' => AfterDelivery T m g' w' (.worker worker)) g w := by
  unfold Worker.deliver
  refine keeps_bind (keeps_receive (k := .worker worker) hstore howes) fun g₁ result w₁ hleft => ?_
  cases result with
  | error e =>
    -- the duty stays with the worker until the copy is in the error queue
    dsimp only
    rw [ask_bind]
    refine keeps_dispatch (fun _ _ => .inr (.inl ⟨e, rfl⟩)) (fun e₂ w₂ hw₂ hno => ?_)
      fun w₂ hw₂ hops => ?_
    · refine keeps_done fun w₃ hw₃ hm => ?_
      -- on terms with sound messages the copy is not rejected
      exact (hno (T.reliable_of_sound hm) ⟨e, rfl⟩).elim
    · refine keeps_done fun w₃ hw₃ _ => .inr (.inr ?_)
      exact PutAside.grow ⟨e, hops _ (List.mem_singleton_self _)⟩ hw₃.grows
  | ok disposition =>
    -- nothing is forwarded: there is a successor, or the session is settled
    refine keeps_done fun w₂ hw₂ hm => ?_
    cases disposition with
    | retryScheduled => exact .inl (hleft.2 rfl)
    | completed =>
      have hsettled := hleft.1 rfl (T.isControl_of_sound hm) (T.tracked_of_sound hm)
      exact .inr (.inl (hsettled.grow hw₂.grows))

/-- A whole delivery. -/
theorem keeps_deliver (hstore : k.setup.store = T.store) (howes : MayOwe T k m g) :
    (k.deliver m).Keeps (contract T (.delivery k m)) (fun g' _ w' => AfterDelivery T m g' w' k)
      g w := by
  cases k with
  | worker worker => exact keeps_deliverByWorker hstore howes
  | receiver p =>
    exact (keeps_receive (k := .receiver p) hstore howes).weaken fun _ _ _ _ => trivial

end Outbox
