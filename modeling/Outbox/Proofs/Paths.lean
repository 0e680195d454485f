import Outbox.Binary
import Outbox.Proofs.InMemory
import Outbox.Proofs.Opened

/-!
# Three ways for a message

A router sends messages one by one, a session without an outbox dispatches what it has collected
when it is committed, and a session with an outbox leaves that to the processor. From the same ids
and readings of the clock the three hand the same operations to the transport, in the same order.

What a router makes of a posting depends on nothing but the ids and readings that it is given, its
`stamps`. So the postings are followed in step, one by one on the one side and collected on the
other.

* `stamped_unique`             equal stamps make equal operations
* `Session.collected_of_sent`  what is collected is what is sent one by one
* `Session.paths_agree`        the three ways hand over the same
-/

namespace Outbox

open Program

/-! ### Stamps -/

/-- What a message is given from outside: a new id, or the time at which it is made. -/
inductive Stamp where
  | id (text : String)
  | reading (time : Time.Instant)
deriving DecidableEq

/-- The stamp that an exchange has got. -/
def Exchange.stamp? : Exchange → Option Stamp
  | ⟨.freshId, text⟩ => some (.id text)
  | ⟨.now, time⟩ => some (.reading time)
  | _ => none

/-- All stamps, in the order in which they were got. -/
def stamps (calls : List Exchange) : List Stamp := calls.filterMap Exchange.stamp?

@[simp] theorem stamps_append (calls rest : List Exchange) :
    stamps (calls ++ rest) = stamps calls ++ stamps rest := List.filterMap_append

/-- Whether a call asks for a stamp. -/
def Call.AsksStamp {β : Type} : Call β → Prop
  | .freshId | .now => True
  | _ => False

section

variable {α : Type} {may may' : {β : Type} → Call β → β → Prop} {calls calls' : List Exchange}
  {a a' : α}

/-- A program that asks for nothing but stamps takes as many and has the same result, wherever it
gets the same ones. -/
theorem stamped_unique {p : Program α} (hp : p.Obeys Call.AsksStamp fun _ => True)
    (h : p.Runs may calls a) (h' : p.Runs may' calls' a') {rest rest' : List Stamp}
    (heq : stamps calls ++ rest = stamps calls' ++ rest') : a = a' ∧ rest = rest' := by
  -- by induction on the first run: each stamp that it takes is the next of the other one, too
  induction h generalizing calls' rest rest' with
  | done a =>
    obtain ⟨rfl, rfl⟩ := runs_done.1 h'
    exact ⟨rfl, heq⟩
  | @call β c next reply calls a _ hrest ih =>
    obtain ⟨reply', later, -, hlater, rfl⟩ := runs_call.1 h'
    obtain ⟨hasks, hnext⟩ := hp
    -- an id and a reading are taken from the same list of stamps
    match c, hasks with
    | .freshId, _ =>
      obtain ⟨hstamp, hrest⟩ := List.cons.inj (show Stamp.id reply :: (stamps calls ++ rest) =
        .id reply' :: (stamps later ++ rest') from heq)
      obtain rfl := Stamp.id.inj hstamp
      exact ih (hnext reply) hlater hrest
    | .now, _ =>
      obtain ⟨hstamp, hrest⟩ := List.cons.inj (show Stamp.reading reply :: (stamps calls ++ rest) =
        .reading reply' :: (stamps later ++ rest') from heq)
      obtain rfl := Stamp.reading.inj hstamp
      exact ih (hnext reply) hlater hrest

end

namespace Router

variable {r : Router} {may may' : {β : Type} → Call β → β → Prop} {calls : List Exchange}

/-- To prepare an operation asks for an id and the time at most. -/
theorem stamped_prepare (r : Router) (p : Posting) :
    (r.prepare p).Obeys Call.AsksStamp fun _ => True := by
  have hidentify : ∀ m id extra intent,
      (r.identify m id extra intent).Obeys Call.AsksStamp fun _ => True := by
    intro m id extra intent
    unfold identify
    -- the id is made when the options give none
    cases id with
    | none => exact ⟨trivial, fun id => ⟨trivial, fun now => trivial⟩⟩
    | some id => exact ⟨trivial, fun now => trivial⟩
  cases p with
  | send m how =>
    show (r.operationToSend m how).Obeys _ _
    unfold operationToSend
    split
    · exact trivial
    · exact Obeys.bind (hidentify ..) fun _ _ => trivial
  | publish m how =>
    have hop : (r.operationToPublish m how).Obeys Call.AsksStamp fun _ => True :=
      Obeys.bind (hidentify ..) fun _ _ => trivial
    exact Obeys.bind hop fun _ _ => trivial

/-- Sends or publishes a message outside of any session. -/
def post (r : Router) : Posting → Program (Except CallError Unit)
  | .send m how => r.send m how
  | .publish m how => r.publish m how

/-- Sends and publishes messages one by one, whatever becomes of each. -/
def postEach (r : Router) : List Posting → Program Unit
  | [] => return ()
  | p :: rest => do
    let _ ← r.post p
    r.postEach rest

/-- To send or publish outside of a session is to prepare and to dispatch. -/
theorem post_eq (r : Router) (p : Posting) :
    r.post p = r.prepare p >>= fun made => match made with
      | .error e => done (.error (.misuse e))
      | .ok op => dispatchNow op := by
  cases p with
  | send m how => rfl
  | publish m how =>
    show _ = r.operationToPublish m how >>= (fun op => done (Except.ok op)) >>= _
    rw [bind_assoc]
    rfl

/-- To prepare an operation dispatches nothing. -/
theorem dispatches_prepare {p : Posting} {made : Except Misuse Operation}
    (h : (r.prepare p).Runs may calls made) : dispatches calls = [] :=
  dispatches_of_outward_eq_nil ((quiet_prepare r p).outward_eq_nil h)

/-- What was prepared is dispatched on its own. -/
theorem runs_post {p : Posting} {outcome : Except CallError Unit}
    (h : (r.post p).Runs may calls outcome) : ∃ prepared made,
      (r.prepare p).Runs may prepared made ∧ stamps calls = stamps prepared ∧
      ((∃ e, made = .error e) ∧ dispatches calls = [] ∨
        ∃ op, made = .ok op ∧ dispatches calls = [[op.toShipment]]) := by
  rw [post_eq] at h
  obtain ⟨first, second, made, hfirst, hsecond, rfl⟩ := runs_bind.1 h
  refine ⟨first, made, hfirst, ?_⟩
  rw [stamps_append, dispatches_append, dispatches_prepare hfirst]
  -- nothing could be prepared, or the one operation is dispatched
  cases made with
  | error e =>
    obtain ⟨rfl, -⟩ := runs_done.1 hsecond
    exact ⟨List.append_nil _, .inl ⟨⟨e, rfl⟩, rfl⟩⟩
  | ok op =>
    obtain ⟨reply, last, -, hlast, rfl⟩ := runs_call.1 hsecond
    obtain rfl : last = [] := by cases reply <;> exact (runs_done.1 hlast).1
    exact ⟨List.append_nil _, .inr ⟨op, rfl, rfl⟩⟩

/-- What is sent one by one is dispatched one by one, as part of whatever is being received. -/
theorem dispatches_postEach {posts : List Posting} (h : (r.postEach posts).Runs may calls ()) :
    ∃ ops : List Shipment, dispatches calls = ops.map ([·]) ∧ ∀ op ∈ ops, op.isolated = false := by
  induction posts generalizing calls with
  | nil =>
    obtain ⟨rfl, -⟩ := runs_done.1 h
    exact ⟨[], rfl, nofun⟩
  | cons p posts ih =>
    obtain ⟨first, second, outcome, hfirst, hsecond, rfl⟩ := runs_bind.1 h
    obtain ⟨ops, hops, hdefault⟩ := ih hsecond
    rw [dispatches_append, hops]
    obtain ⟨prepared, made, -, -, ⟨-, hnone⟩ | ⟨op, -, hone⟩⟩ := runs_post hfirst
    · exact ⟨ops, by rw [hnone]; rfl, hdefault⟩
    · exact ⟨op.toShipment :: ops, by rw [hone]; rfl, List.forall_mem_cons.2 ⟨rfl, hdefault⟩⟩

end Router

/-! ### Collecting and sending in step -/

/-- Operations are handed over in one call, if there are any. -/
def atOnce (ops : List Shipment) : List (List Shipment) := if ops = [] then [] else [ops]

/-- A caller who has not cancelled never hears otherwise. -/
theorem World.live_trace {α : Type} (p : Program α) (w : World) :
    ⟨.isCancelled, true⟩ ∉ p.trace (answer false) w := by
  induction p generalizing w with
  | done a => exact nofun
  | call c next ih =>
    intro h
    obtain heq | hrest := List.mem_cons.1 h
    · generalize hreply : (answer false c w).1 = reply at heq
      cases heq
      exact nomatch hreply
    · exact ih _ _ hrest

namespace Session

/-- A session is used to collect postings, with tokens that are not cancelled and with the stamps
that they got when they were sent. -/
structure Repeats (posts : List Posting) (sent : List Exchange) (uses : List Use) : Prop where
  requests : uses.map (·.what) = posts.map (·.request)
  live : ∀ use ∈ uses, ⟨.isCancelled, true⟩ ∉ use.calls
  stamps : uses.flatMap (fun use => Outbox.stamps use.calls) = Outbox.stamps sent

variable {may may' : {β : Type} → Call β → β → Prop} {sent : List Exchange} {posts : List Posting}
  {uses : List Use} {s s' : Session} {r : Router}

/-- A posting that is sent and collected with the same stamps is refused on both sides, or makes the
same operation. -/
theorem collected_of_post {p : Posting} {calls first : List Exchange} {rest rest' : List Stamp}
    {outcome result : Except CallError Unit} (hpost : (r.post p).Runs may first outcome)
    (hrun : (s.perform p.request).Runs may' calls (some s', result)) (hopen : s.phase = .opened)
    (hrouter : s.router = r) (hlive : ⟨.isCancelled, true⟩ ∉ calls)
    (heq : stamps calls ++ rest = stamps first ++ rest') : rest = rest' ∧ ∃ ops : Batch,
      dispatches first = ops.map (fun op => [op.toShipment]) ∧
        s' = s.withBatch (s.batch ++ ops) := by
  obtain ⟨prepared, made, hprepare, hstamps, hdispatches⟩ := Router.runs_post hpost
  rw [perform_posting] at hrun
  obtain ⟨e, he, -⟩ | ⟨-, rfl, -⟩ | ⟨-, later, rfl, hlater⟩ := runs_gate hrun
  -- an open session permits it, and nobody has cancelled
  · rw [hopen] at he
    exact nomatch he
  · exact absurd List.mem_cons_self hlive
  · have heq : stamps later ++ rest = stamps prepared ++ rest' := hstamps ▸ heq
    -- from here on both sides have gone through the same preparation
    -- it has collected the operation, or it could not prepare it; the other path has done the same
    obtain ⟨e, hcollect, hleft, -⟩ | ⟨op, hcollect, hleft, -⟩ := runs_collect hlater
    · obtain ⟨rfl, hrest⟩ :=
        stamped_unique (r.stamped_prepare p) (hrouter ▸ hcollect) hprepare heq
      obtain ⟨-, hnone⟩ | ⟨op, hop, -⟩ := hdispatches
      · exact ⟨hrest, [], hnone, by simpa using Option.some.inj hleft⟩
      · exact nomatch hop
    · obtain ⟨rfl, hrest⟩ :=
        stamped_unique (r.stamped_prepare p) (hrouter ▸ hcollect) hprepare heq
      obtain ⟨⟨e, he⟩, -⟩ | ⟨op', hop, hone⟩ := hdispatches
      · exact nomatch he
      · obtain rfl := Except.ok.inj hop
        exact ⟨hrest, [op], hone, (Option.some.inj hleft).trans (add_eq_withBatch s op)⟩

/-- By induction on the postings: what is collected is what is sent one by one. -/
theorem collected_of_sent (hsent : (r.postEach posts).Runs may sent ())
    (hused : Used may' s uses s') (hrepeats : Repeats posts sent uses) (hopen : s.phase = .opened)
    (hrouter : s.router = r) : ∃ ops : Batch,
      dispatches sent = ops.map (fun op => [op.toShipment]) ∧
        s' = s.withBatch (s.batch ++ ops) := by
  induction posts generalizing sent uses s with
  | nil =>
    obtain ⟨rfl, -⟩ := runs_done.1 hsent
    obtain rfl := List.map_eq_nil_iff.1 hrepeats.requests
    cases hused
    exact ⟨[], rfl, by simp⟩
  | cons p posts ih =>
    obtain ⟨first, second, outcome, hfirst, hsecond, rfl⟩ := runs_bind.1 hsent
    obtain ⟨⟨what, calls, result⟩, uses, rfl, hwhat, hrequests⟩ :=
      List.map_eq_cons_iff.1 hrepeats.requests
    obtain rfl : what = p.request := hwhat
    cases hused with
    | @next _ t _ _ _ hrun hused =>
      -- the stamps of the first posting are the same on both sides, and so are those of the rest
      have hstamps := hrepeats.stamps
      rw [List.flatMap_cons, stamps_append] at hstamps
      obtain ⟨hrest, ops, hops, rfl⟩ := collected_of_post hfirst hrun hopen hrouter
        (hrepeats.live _ List.mem_cons_self) hstamps
      obtain ⟨later, hlater, rfl⟩ := ih hsecond hused
        ⟨hrequests, fun use huse => hrepeats.live use (List.mem_cons_of_mem _ huse), hrest⟩
        ((phase_withBatch ..).trans hopen) ((router_withBatch ..).trans hrouter)
      refine ⟨ops ++ later, ?_, ?_⟩
      · rw [dispatches_append, hops, hlater, List.map_append]
      · rw [withBatch_withBatch, batch_withBatch, List.append_assoc]

/-! ### From the session to the transport -/

/-- To let go is no dispatch. -/
theorem Direct.only_release (s : Direct) : s.release.Only (· ≠ .dispatch) := by
  unfold release
  split
  · exact trivial
  · exact ⟨nofun, fun _ => trivial⟩

/-- And to finish dispatches nothing either. -/
theorem Direct.dispatches_finish {s : Direct} {phase : Phase} {outcome : Except CallError Unit}
    {result : Direct × Except CallError Unit} {calls : List Exchange}
    (h : (s.finish phase outcome).Runs may calls result) : dispatches calls = [] := by
  have hfinish : (s.finish phase outcome).Only (· ≠ .dispatch) :=
    Only.bind s.only_release fun _ => trivial
  exact dispatches_of_only hfinish h

/-- A commit that goes well hands over the batch. -/
theorem Direct.dispatches_commit {s s' : Direct} {calls : List Exchange}
    (h : s.commit.Runs may calls (s', .ok ())) :
    dispatches calls = atOnce (s.batch.map (·.toShipment)) := by
  obtain ⟨e, -, -, heq⟩ | ⟨-, -, heq⟩ | ⟨-, later, rfl, hlater⟩ := runs_gate h
  · exact nomatch (Prod.mk.inj heq).2
  · exact nomatch (Prod.mk.inj heq).2
  · rw [ask_bind] at hlater
    obtain ⟨completed, rest, -, hrest, rfl⟩ := runs_call.1 hlater
    -- it goes well, so the staging has been completed
    cases completed with
    | error e => exact nomatch result_finish hrest
    | ok _ =>
      obtain ⟨first, second, dispatched, hfirst, hsecond, rfl⟩ := runs_bind.1 hrest
      have hsecond : dispatches second = [] := by
        cases dispatched <;> exact dispatches_finish hsecond
      show dispatches (first ++ second) = _
      rw [dispatches_append, hsecond, List.append_nil]
      unfold dispatchBatch at hfirst
      -- an empty batch is not dispatched, and that is what is handed over then
      split at hfirst
      · next hempty =>
        obtain ⟨rfl, -⟩ := runs_done.1 hfirst
        rw [List.isEmpty_iff.1 hempty]
        rfl
      · next hsome =>
        obtain ⟨reply, last, -, hlast, rfl⟩ := runs_call.1 hfirst
        obtain ⟨rfl, -⟩ := runs_done.1 hlast
        exact (if_neg fun hnil => hsome (List.isEmpty_iff.2 (List.map_eq_nil_iff.1 hnil))).symm

end Session

namespace Receiver

variable {may : {β : Type} → Call β → β → Prop} {p : Receiver} {m : Message} {record : Record}

/-- To tell an outcome is no dispatch. -/
theorem only_report (reports : Bool) (o : Outcome) :
    (report reports o).Only (· ≠ .dispatch) := by
  unfold report
  cases reports
  · exact trivial
  · exact ⟨nofun, fun _ => trivial⟩

/-- What waits in a record is handed over at once. -/
theorem dispatches_forwardRecord {calls : List Exchange} {result : Except DeliveryError Unit}
    (h : (p.forwardRecord record).Runs may calls result) :
    dispatches calls = atOnce (record.undispatched.map (·.toShipment)) := by
  unfold forwardRecord at h
  split at h
  -- nothing waits in a record that is dispatched
  · next hdone =>
    obtain ⟨rfl, -⟩ := runs_done.1 h
    rw [(record.undispatched_eq_nil_iff).2 hdone]
    rfl
  · next hwaits =>
    rw [ask_bind] at h
    obtain ⟨reply, rest, -, hrest, rfl⟩ := runs_call.1 h
    have hrest : dispatches rest = [] := by
      refine dispatches_of_only ?_ hrest
      cases reply with
      | error e => exact trivial
      -- after the hand-over there is only the mark
      | ok _ =>
        refine ⟨nofun, fun marked => ?_⟩
        cases marked <;> exact trivial
    show record.undispatched.map (·.toShipment) :: dispatches rest = _
    rw [hrest, atOnce, if_neg]
    exact fun hnil => hwaits ((record.undispatched_eq_nil_iff).1 (List.map_eq_nil_iff.1 hnil))

/-- A delivery of a control message that finds a record hands over what waits in it. -/
theorem dispatches_of_found {rest : List Exchange} {result : Except DeliveryError Disposition}
    (hcontrol : m.isControl = true)
    (h : (p.receive m).Runs may (⟨.getRecord p.store m.id, .ok (some record)⟩ :: rest) result) :
    dispatches rest = atOnce (record.undispatched.map (·.toShipment)) := by
  unfold receive withOutcome at h
  obtain ⟨first, last, worked, hfirst, hlast, heq⟩ := runs_bind.1 h
  unfold work at hfirst
  rw [if_pos hcontrol, ask_bind] at hfirst
  obtain ⟨reply, later, -, hlater, rfl⟩ := runs_call.1 hfirst
  -- the look-up is the first call on both sides
  obtain ⟨hhead, rfl⟩ := List.cons.inj heq
  cases hhead
  obtain ⟨forwarded, second, outcome, hforwarded, hsecond, rfl⟩ := runs_bind.1 hlater
  have hsecond : dispatches second = [] := by
    cases outcome <;> (rw [(runs_done.1 hsecond).1]; rfl)
  -- at the end the outcome may be told
  have hlast : dispatches last = [] := by
    dsimp only at hlast
    split at hlast
    · obtain ⟨told, final, _, htold, hfinal, rfl⟩ := runs_bind.1 hlast
      obtain ⟨rfl, -⟩ := runs_done.1 hfinal
      rw [List.append_nil]
      exact dispatches_of_only (only_report _ _) htold
    · rw [(runs_done.1 hlast).1]
      rfl
  show dispatches ((forwarded ++ second) ++ last) = _
  rw [dispatches_append, dispatches_append, hsecond, hlast, dispatches_forwardRecord hforwarded,
    List.append_nil, List.append_nil]

/-- The same in a world. -/
theorem dispatches_receive {w : World} {cancelled : Bool} (hcontrol : m.isControl = true)
    (hfound : (w.getRecord p.store m.id).1 = .ok (some record)) :
    dispatches ((p.receive m).trace (World.answer cancelled) w) =
      atOnce (record.undispatched.map (·.toShipment)) := by
  have hrun : (p.receive m).Runs (fun _ _ => True) ((p.receive m).trace (World.answer cancelled) w)
      ((p.receive m).run (World.answer cancelled) w).1 := runs_trace (fun _ _ => trivial) _ _
  have hfirst : ∃ rest, (p.receive m).trace (World.answer cancelled) w =
      ⟨.getRecord p.store m.id, (w.getRecord p.store m.id).1⟩ :: rest := by
    simp only [receive, withOutcome, work, hcontrol, if_true]
    exact ⟨_, rfl⟩
  obtain ⟨rest, htrace⟩ := hfirst
  rw [hfound] at htrace
  rw [htrace] at hrun ⊢
  show dispatches rest = _
  exact dispatches_of_found hcontrol hrun

end Receiver

namespace Session

variable {may may' : {β : Type} → Call β → β → Prop} {sent : List Exchange} {posts : List Posting}
  {uses : List Use} {r : Router}

/-- Operations that were handed over one by one are known from that. -/
theorem eq_of_oneByOne {ops : List Shipment} {batch : Batch}
    (h : ops.map ([·]) = batch.map fun op => [op.toShipment]) : ops = batch.map (·.toShipment) := by
  refine (List.map_inj_right fun _ _ => List.singleton_inj.1).1 (h.trans ?_)
  rw [List.map_map]
  rfl

/-- A session without an outbox hands over, when it is committed, what was sent. -/
theorem Direct.dispatches_of_sent {opening : Opening} {opened calls : List Exchange}
    {s₀ s₁ s s' : Direct} {ops : List Shipment}
    (hsent : (s₀.router.postEach posts).Runs may sent ())
    (hops : dispatches sent = ops.map ([·])) (hnew : s₀.batch = [])
    (hopen : (s₀.openWith opening).Runs may' opened (s₁, .ok ()))
    (hused : Used may' (.direct s₁) uses (.direct s)) (hrepeats : Repeats posts sent uses)
    (hcommit : s.commit.Runs may' calls (s', .ok ())) : dispatches calls = atOnce ops := by
  obtain ⟨id, rfl⟩ := runs_open hopen
  obtain ⟨batch, hbatch, hs⟩ := collected_of_sent hsent hused hrepeats rfl rfl
  obtain rfl := Session.direct.inj hs
  obtain rfl := eq_of_oneByOne (hops.symm.trans hbatch)
  rw [dispatches_commit hcommit]
  simp [Session.batch, hnew]

/-- One with an outbox announces itself, when it is committed, and the delivery of its control
message hands over what was sent. -/
theorem Outboxed.dispatches_of_sent {opening : Opening} {cancelled : Bool} {s₀ s₁ s : Outboxed}
    {w w₁ w₂ : World} {ops : List Shipment} (hsent : (s₀.router.postEach posts).Runs may sent ())
    (hops : dispatches sent = ops.map ([·])) (hnew : s₀.batch = [])
    (hopen : w.run cancelled (s₀.openWith opening) = ((s₁, .ok ()), w₁))
    (hused : Used may' (.outboxed s₁) uses (.outboxed s)) (hrepeats : Repeats posts sent uses)
    (hkept : ∀ tx, s₁.transaction? = some tx →
      w₂.database.transactions[tx]? = w₁.database.transactions[tx]?)
    (hcommit : (w₂.run cancelled s.commit).1.2 = .ok ()) :
    ∃ op, dispatches (s.commit.trace (World.answer cancelled) w₂) = [[op]] ∧
      op.IsAnnouncement s₀.processorAddress ∧ s₁.sessionId? = some op.message.id ∧
      ∃ record, ((w₂.run cancelled s.commit).2.database.store s₀.store).record? op.message.id =
          some record ∧ record.undispatched.map (·.toShipment) = ops := by
  have hopened : (s₀.openWith opening).Runs (fun _ _ => True)
      ((s₀.openWith opening).trace (World.answer cancelled) w) (s₁, .ok ()) := by
    have hresult := congrArg Prod.fst hopen
    dsimp only at hresult
    rw [← hresult]
    exact runs_trace (fun _ _ => trivial) _ _
  have hcommitted : s.commit.Runs (fun _ _ => True) (s.commit.trace (World.answer cancelled) w₂)
      (w₂.run cancelled s.commit).1 := runs_trace (fun _ _ => trivial) _ _
  -- what the open has left is what the commit starts from, with more in the batch
  have hbegun : ∀ tx, s₁.transaction? = some tx →
      w₁.database.transactions[tx]? = some { store := s₀.store } :=
    fun tx htx => transaction_of_run_openWith hopen htx
  obtain ⟨id, countdown, tx, -, hcountdown, rfl⟩ := runs_open hopened
  obtain ⟨batch, hbatch, hs⟩ := collected_of_sent hsent hused hrepeats rfl rfl
  obtain rfl := Session.outboxed.inj hs
  obtain rfl := eq_of_oneByOne (hops.symm.trans hbatch)
  obtain ⟨hid, -, -⟩ := Countdown.nanos_initial hcountdown
  -- the transaction is the one that the open has begun, and nobody has committed it since
  have hrecord := record_of_run_commit rfl rfl
    (fun t ht => by rw [hkept tx rfl, hbegun tx rfl] at ht; rw [← Option.some.inj ht]) hcommit
  -- a commit that goes well was not refused
  obtain ⟨⟨e, he⟩, -⟩ | ⟨-, now, -, hdispatches⟩ := runs_commit rfl hcommitted
  · exact nomatch hcommit.symm.trans he
  · refine ⟨_, hdispatches, isAnnouncement _ _ _, congrArg some hid.symm,
      .new id (s₀.batch ++ batch), (congrArg (Store.record? _) hid).trans hrecord, ?_⟩
    rw [Record.undispatched_new, hnew, List.nil_append]

/-- What is sent one by one is what a session without an outbox hands over at once when it is
committed. One with an outbox hands over only its announcement then, and the delivery of that hands
over the same at once, from a record that has been written as bytes and read back. -/
theorem paths_agree (hsent : (r.postEach posts).Runs may sent ())
    {encode : Record → List UInt8} {decode : List UInt8 → Option Record}
    (hcodec : ∀ record, decode (encode record) = some record) :
    ∃ ops : List Shipment, dispatches sent = ops.map ([·]) ∧ (∀ op ∈ ops, op.isolated = false) ∧
      (∀ {staging : StagingId} {opening : Opening} {opened calls : List Exchange}
        {uses : List Use} {s₁ s s' : Direct},
        (Direct.openWith { staging, router := r } opening).Runs may' opened (s₁, .ok ()) →
        Used may' (.direct s₁) uses (.direct s) → Repeats posts sent uses →
        s.commit.Runs may' calls (s', .ok ()) → dispatches calls = atOnce ops) ∧
      (∀ {store processor : String} {staging : StagingId} {opening : Opening} {cancelled : Bool}
        {uses : List Use} {s₁ s : Outboxed} {w w₁ w₂ : World},
        w.run cancelled (Outboxed.openWith
          { store, staging, router := r, processorAddress := processor } opening) =
            ((s₁, .ok ()), w₁) →
        Used may' (.outboxed s₁) uses (.outboxed s) → Repeats posts sent uses →
        (∀ tx, s₁.transaction? = some tx →
          w₂.database.transactions[tx]? = w₁.database.transactions[tx]?) →
        (w₂.run cancelled s.commit).1.2 = .ok () →
        ∃ op, dispatches (s.commit.trace (World.answer cancelled) w₂) = [[op]] ∧
          op.IsAnnouncement processor ∧ s₁.sessionId? = some op.message.id ∧
          ∀ {p : Receiver} {w₃ : World}, p.store = store → w₃.faults = {} →
            (w₃.database.store store).record? op.message.id =
              (((w₂.run cancelled s.commit).2.database.store store).record? op.message.id).bind
                (fun record => decode (encode record)) →
            dispatches ((p.receive op.message).trace (World.answer false) w₃) = atOnce ops) := by
  obtain ⟨ops, hops, hdefault⟩ := Router.dispatches_postEach hsent
  -- the operations are those that were sent one by one
  refine ⟨ops, hops, hdefault, ?_, ?_⟩
  · intro staging opening opened calls uses s₁ s s' hopen hused hrepeats hcommit
    -- without an outbox they are handed over by the commit
    exact Direct.dispatches_of_sent hsent hops rfl hopen hused hrepeats hcommit
  · intro store processor staging opening cancelled uses s₁ s w w₁ w₂ hopen hused hrepeats hkept
      hcommit
    -- with an outbox they wait in the record until its announcement is delivered
    obtain ⟨op, hannounced, hop, hid, record, hrecord, hwaits⟩ :=
      Outboxed.dispatches_of_sent hsent hops rfl hopen hused hrepeats hkept hcommit
    refine ⟨op, hannounced, hop, hid, ?_⟩
    intro p w₃ hstore hfaults hfound
    subst hstore
    rw [hrecord, Option.bind_some, hcodec] at hfound
    have hlooked : (w₃.getRecord p.store op.message.id).1 = .ok (some record) := by
      rw [World.getRecord, hfaults]
      exact congrArg Except.ok hfound
    rw [Receiver.dispatches_receive hop.isControl hlooked, hwaits]

/-! ### Two messages -/

/-- The request of a posting, with a token that is not cancelled. -/
def Request.calm (p : Posting) : Request × Bool := (p.request, false)

/-- Where no token is cancelled, no use finds it cancelled. -/
theorem live_usesIn (s : Session) (w : World) (posts : List Posting) :
    ∀ use ∈ (s.usesIn w (posts.map Request.calm)).1, ⟨.isCancelled, true⟩ ∉ use.calls := by
  induction posts generalizing s w with
  | nil => exact List.forall_mem_nil _
  | cons p posts ih =>
    simp only [List.map_cons, Request.calm, usesIn]
    split
    · next t result w' heq =>
      exact List.forall_mem_cons.2 ⟨World.live_trace _ w, ih t w'⟩
    · exact List.forall_mem_nil _

/-- A world in which nothing has happened yet. -/
def postOffice : World :=
  { clock := { start := .epoch }, database := (Database.newStaging {} "db").2 }

/-- A router with a queue for greetings. -/
def postman : Router := { routes := .ofList [("greeting", "inbox")], localAddress := some "post" }

/-- A delayed greeting, and the news of it. -/
def letters : List Posting :=
  [.send { messageType := "greeting" } { delay := some 5 },
    .publish { messageType := "greeted" } {}]

/-- They are sent one by one. -/
def sentLetters : List Exchange :=
  (postman.postEach letters).trace (World.answer false) postOffice

/-- Or a session without an outbox is opened. -/
def directOpened : (Direct × Except CallError Unit) × World :=
  postOffice.run false
    (Direct.openWith { staging := 0, router := postman } { sessionId := some "session" })

/-- It collects them. -/
def directUses : List Use × Session × World :=
  (Session.direct directOpened.1.1).usesIn directOpened.2 (letters.map Request.calm)

/-- It is then this one. -/
def directLetters : Direct := { directOpened.1.1 with batch := directUses.2.1.batch }

/-- Or one with an outbox is opened. -/
def outboxedOpened : (Outboxed × Except CallError Unit) × World :=
  postOffice.run false (Outboxed.openWith
    { store := "db", staging := 0, router := postman, processorAddress := "processor" }
    { sessionId := some "session" })

/-- It collects them. -/
def outboxedUses : List Use × Session × World :=
  (Session.outboxed outboxedOpened.1.1).usesIn outboxedOpened.2 (letters.map Request.calm)

/-- It is then this one. -/
def outboxedLetters : Outboxed := { outboxedOpened.1.1 with batch := outboxedUses.2.1.batch }

/-- The world after its commit. -/
def lettersCommitted : World := (outboxedUses.2.2.run false outboxedLetters.commit).2

/-- Two letters, one of them delayed, reach the transport in the same way on all three paths. -/
theorem paths_agree_twoMessages :
    (postman.postEach letters).Runs (fun _ _ => True) sentLetters () ∧
    (∀ record : Record, Binary.decode (Binary.encode record) = some record) ∧
    ∃ ops : List Shipment,
      ops.map (fun op => (op.destination, op.delay)) =
        [(.queue "inbox", some 5), (.topic "greeted", none)] ∧
      dispatches sentLetters = ops.map ([·]) ∧
      dispatches (directLetters.commit.trace (World.answer false) directUses.2.2) = [ops] ∧
      ∃ op, dispatches (outboxedLetters.commit.trace (World.answer false) outboxedUses.2.2) =
          [[op]] ∧ op.destination = .queue "processor" ∧
        dispatches ((Receiver.receive { store := "db", address := "processor" } op.message).trace
          (World.answer false) lettersCommitted) = [ops] := by
  have hsent : (postman.postEach letters).Runs (fun _ _ => True) sentLetters () :=
    runs_trace (fun _ _ => trivial) _ _
  have hcodec : ∀ record : Record, Binary.decode (Binary.encode record) = some record :=
    Binary.decode_encode
  obtain ⟨ops, hops, -, hdirect, houtboxed⟩ := paths_agree hsent hcodec
  have hwhat : ops.map (fun op => (op.destination, op.delay)) =
      [(.queue "inbox", some 5), (.topic "greeted", none)] := by
    have hflat : (dispatches sentLetters).flatten = ops := by
      rw [hops, ← List.flatMap_def, List.flatMap_singleton']
    rw [← hflat]
    decide +kernel
  -- there is something to hand over, so it is handed over in one call
  have honce : atOnce ops = [ops] := if_neg fun hnil => by rw [hnil] at hwhat; exact nomatch hwhat
  rw [honce] at hdirect houtboxed
  refine ⟨hsent, hcodec, ops, hwhat, hops, ?_, ?_⟩
  · have hopen : (Direct.openWith { staging := 0, router := postman }
        { sessionId := some "session" }).Runs (fun _ _ => True)
        (trace (World.answer false) _ postOffice) (directOpened.1.1, .ok ()) :=
      runs_trace (fun _ _ => trivial) _ _
    have hused : Used (fun _ _ => True) (.direct directOpened.1.1) directUses.1
        (.direct directLetters) := used_usesIn ..
    have hlive := live_usesIn (.direct directOpened.1.1) directOpened.2 letters
    have hrepeats : Repeats letters sentLetters directUses.1 := ⟨rfl, hlive, by decide +kernel⟩
    have hcommit : directLetters.commit.Runs (fun _ _ => True)
        (directLetters.commit.trace (World.answer false) directUses.2.2)
        ((directUses.2.2.run false directLetters.commit).1.1, .ok ()) :=
      runs_trace (fun _ _ => trivial) _ _
    exact hdirect hopen hused hrepeats hcommit
  · have hlive := live_usesIn (.outboxed outboxedOpened.1.1) outboxedOpened.2 letters
    have hrepeats : Repeats letters sentLetters outboxedUses.1 := ⟨rfl, hlive, by decide +kernel⟩
    have hopen : postOffice.run false (Outboxed.openWith
        { store := "db", staging := 0, router := postman, processorAddress := "processor" }
        { sessionId := some "session" }) = ((outboxedOpened.1.1, .ok ()), outboxedOpened.2) := rfl
    have hused : Used (fun _ _ => True) (.outboxed outboxedOpened.1.1) outboxedUses.1
        (.outboxed outboxedLetters) := used_usesIn ..
    have hkept : outboxedUses.2.2.database = outboxedOpened.2.database := rfl
    have hcommit : (outboxedUses.2.2.run false outboxedLetters.commit).1.2 = .ok () := rfl
    obtain ⟨op, hannounced, hop, -, hdelivered⟩ :=
      houtboxed hopen hused hrepeats (fun tx _ => by rw [hkept]) hcommit
    refine ⟨op, hannounced, hop.destination, hdelivered rfl rfl ?_⟩
    simp only [hcodec]
    exact (Option.bind_fun_some _).symm

end Session

end Outbox
