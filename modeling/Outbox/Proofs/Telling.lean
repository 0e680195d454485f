import Outbox.Proofs.Interleaving
import Outbox.Proofs.Retry.Chain

/-!
# What one delivery tells and sends

A delivery tells nothing but outcomes of its own countdown. When its message announces a session and
no call fails, other than with a conflict, there are three ways in which it can go: it has sent a
successor and tells that; it has found a record and tells that it is completed; or the budget is
used up, and it tells that it gives up, and at its end that it is completed. The last telling is
always its last call.

* `Permits.obeys_deliver`   which outcomes deliveries tell, whatever the replies
* `Consumer.runs_deliver`   how a delivery goes when no call fails
* `Concludes.told_so_far`   what it has told before its last call
-/

namespace Outbox

open Program Time

/-! ### Outcomes and isolated messages in a run -/

/-- The outcomes that a call tells. -/
def Call.told : {β : Type} → Call β → β → List Outcome
  | _, .observe o, _ => [o]
  | _, .unlessCancelled c, reply =>
    match reply with
    | some reply => c.told reply
    | none => []
  | _, _, _ => []

/-- The messages that leave on their own with a call. -/
def Call.sent : {β : Type} → Call β → β → List Message
  | _, .dispatch ops, reply =>
    match reply with
    | .ok () => (ops.filter (·.isolated)).map (·.message)
    | .error _ => []
  | _, .unlessCancelled c, reply =>
    match reply with
    | some reply => c.sent reply
    | none => []
  | _, _, _ => []

/-- Only an observation tells an outcome. -/
theorem Call.told_eq_nil {β : Type} {c : Call β} (h : c.kind ≠ .observe) (reply : β) :
    c.told reply = [] := by
  induction c with
  | observe o => exact absurd rfl h
  | unlessCancelled c ih =>
    cases reply with
    | none => rfl
    | some reply => exact ih h reply
  | _ => rfl

/-- The outcomes that were told in a run. -/
def told (calls : List Exchange) : List Outcome := calls.flatMap fun e => e.call.told e.reply

/-- The messages that have left on their own in a run. -/
def sent (calls : List Exchange) : List Message := calls.flatMap fun e => e.call.sent e.reply

@[simp] theorem told_append (calls rest : List Exchange) :
    told (calls ++ rest) = told calls ++ told rest := List.flatMap_append

@[simp] theorem sent_append (calls rest : List Exchange) :
    sent (calls ++ rest) = sent calls ++ sent rest := List.flatMap_append

/-! ### Outcomes of the countdown -/

/-- A successor is scheduled only as long as the countdown has not run out. -/
def Message.EndsOf (m : Message) (result : Except DeliveryError Disposition) : Prop :=
  result = .ok .retryScheduled → ∀ c, tracked m = some c → c.isExhausted = false

/-- `P` holds of every call that deliveries of the message may make, as far as outcomes go: those of
its countdown are told, and a session is given up only when the countdown has run out. -/
structure Message.Permits (m : Message) (P : {β : Type} → Call β → Prop) : Prop where
  silent : ∀ {β : Type} (c : Call β), c.kind ≠ .observe → P c
  telling : ∀ (c : Countdown) (kind : OutcomeKind), tracked m = some c →
    (kind = .gaveUp → c.isExhausted = true) → P (.observe (c.outcome kind))

section

variable {k : Consumer} {p : Receiver} {m : Message} {P : {β : Type} → Call β → Prop}

/-- A delivery that fails has scheduled nothing. -/
theorem endsOf_error (e : DeliveryError) : m.EndsOf (.error e) := nofun

/-- A delivery that completes has scheduled nothing either. -/
theorem endsOf_completed : m.EndsOf (.ok .completed) := nofun

/-- To report an outcome is the one call that may be refused, and it is made only if wanted. -/
theorem obeys_report {reports : Bool} {o : Outcome} (h : P (.observe o)) :
    (report reports o).Obeys P fun _ => True := by
  unfold report
  split
  · exact ⟨h, fun _ => trivial⟩
  · exact trivial

/-- Forwarding a record tells nothing, so any message permits it. -/
theorem obeys_forwardRecord (h : m.Permits P) (r : Record) :
    (p.forwardRecord r).Obeys P fun _ => True := by
  unfold Receiver.forwardRecord
  split
  · exact trivial
  · refine ⟨h.silent _ nofun, fun dispatched => ?_⟩
    cases dispatched with
    | error e => exact trivial
    | ok _ =>
      refine ⟨h.silent _ nofun, fun marked => ?_⟩
      cases marked <;> exact trivial

/-- Writing the empty record tells nothing. -/
theorem obeys_writeTombstone (h : m.Permits P) (id : String) :
    (p.writeTombstone id).Obeys P fun _ => True := by
  refine ⟨h.silent _ nofun, fun begun => ?_⟩
  cases begun with
  | error e => exact trivial
  | ok tx =>
    refine ⟨h.silent _ nofun, fun added => ?_⟩
    cases added with
    | error e => exact trivial
    | ok _ => exact ⟨h.silent _ nofun, fun _ => trivial⟩

/-- Blocking an id tells nothing, whichever of its ways it takes. -/
theorem obeys_tombstone (h : m.Permits P) (id : String) :
    (p.tombstone id).Obeys P fun _ => True := by
  refine (obeys_writeTombstone h id).bind fun written _ => ?_
  -- only a conflict goes on, with a look at the record that was in the way
  match written with
  | .ok _ => exact trivial
  | .error (.incompatible _) | .error (.serialization _) | .error (.backend _) => exact trivial
  | .error (.conflict _) =>
    refine ⟨h.silent _ nofun, fun found => ?_⟩
    match found with
    | .error e => exact trivial
    | .ok none => exact trivial
    | .ok (some r) => exact obeys_forwardRecord h r

/-- Handing a message to its handler schedules no successor. -/
theorem obeys_passOn (h : m.Permits P) : (p.passOn m).Obeys P m.EndsOf := by
  unfold Receiver.passOn
  split
  · exact endsOf_completed
  · refine ⟨h.silent _ nofun, fun handled => ?_⟩
    cases handled with
    | error e => exact endsOf_error e
    | ok _ => exact endsOf_completed

/-- The coordinator gives up when the countdown has run out, and retries when it has not. -/
theorem obeys_judge (h : m.Permits P) {queue : String} {reports : Bool} {now : Instant} :
    (judge queue reports m (tracked m) now).Obeys P
      fun verdict => verdict = .retried → ∀ c, tracked m = some c → c.isExhausted = false := by
  unfold judge
  split
  -- without a countdown the coordinator has nothing to say
  · exact nofun
  · next c hc =>
    split
    -- the outcome that is told here is allowed because the budget is used up
    · next hexhausted =>
      exact (obeys_report (h.telling c .gaveUp hc fun _ => hexhausted)).bind fun _ _ => nofun
    · next hleft =>
      -- and this one because a successor may always be told
      refine ⟨h.silent _ nofun, fun dispatched => ?_⟩
      cases dispatched with
      | error e => exact nofun
      | ok _ =>
        refine (obeys_report (h.telling c .retried hc nofun)).bind fun _ _ _ c' hc' => ?_
        obtain rfl := Option.some.inj (hc.symm.trans hc')
        exact Bool.eq_false_iff.2 hleft

/-- A delivery schedules a successor only by way of the verdict, which knows the countdown. -/
theorem obeys_retry (h : m.Permits P) : (p.retry m (tracked m)).Obeys P m.EndsOf := by
  refine ⟨h.silent _ nofun, fun now => ?_⟩
  refine (obeys_judge h).bind fun verdict hverdict => ?_
  cases verdict with
  | goOn => exact obeys_passOn h
  | retried => exact fun _ => hverdict rfl
  | failed e => exact endsOf_error _
  | gaveUp =>
    -- the verdict has been told; what is left is to block the id of a control message
    dsimp only
    split
    · refine (obeys_tombstone h m.id).bind fun written _ => ?_
      cases written with
      | error e => exact endsOf_error e
      | ok _ => exact endsOf_completed
    · exact endsOf_completed

/-- Neither the record that is found nor the handler schedules a successor. -/
theorem obeys_work (h : m.Permits P) : (p.work m (tracked m)).Obeys P m.EndsOf := by
  unfold Receiver.work
  split
  · refine ⟨h.silent _ nofun, fun found => ?_⟩
    match found with
    | .error e => exact endsOf_error _
    | .ok none => exact obeys_retry h
    | .ok (some r) =>
      refine (obeys_forwardRecord h r).bind fun forwarded _ => ?_
      cases forwarded with
      | error e => exact endsOf_error e
      | ok _ => exact endsOf_completed
  · exact obeys_retry h

/-- A receive says of its result what its work says of it. -/
theorem obeys_receive (h : m.Permits P) : (p.receive m).Obeys P m.EndsOf := by
  unfold Receiver.receive withOutcome
  refine (obeys_work h).bind fun result hresult => ?_
  dsimp only
  split
  · next c hc =>
    exact (obeys_report (h.telling c .completed hc nofun)).bind fun _ _ => hresult
  · exact hresult

/-- Whoever delivers a message, a successor is scheduled only while its countdown has not run
out. -/
theorem Message.Permits.obeys_deliver (h : m.Permits P) (k : Consumer) :
    (k.deliver m).Obeys P m.EndsOf := by
  cases k with
  | receiver p => exact obeys_receive h
  | worker worker =>
    refine (obeys_receive h).bind fun result hresult => ?_
    cases result with
    | ok disposition => exact hresult
    | error e => exact ⟨h.silent _ nofun, fun _ => endsOf_error e⟩

end

/-! ### Deliveries in which no call fails -/

/-- Whether a store has refused because there is a record already. -/
def StoreError.isConflict : StoreError → Bool
  | .conflict _ => true
  | .incompatible _ | .serialization _ | .backend _ => false

/-- Whether a call has failed, other than with a conflict where a record is stored. -/
def Call.failed : {β : Type} → Call β → β → Bool
  | _, .beginTransaction _ _, reply => !reply.isOk
  | _, .attach _ _ _, reply => !reply.isOk
  | _, .openStaging _ _, reply => !reply.isOk
  | _, .complete _, reply => !reply.isOk
  | _, .addRecord _ _ _, reply =>
    match reply with
    | .ok () => false
    | .error e => !e.isConflict
  | _, .commit _, reply =>
    match reply with
    | .ok () => false
    | .error e => !e.isConflict
  | _, .getRecord _ _, reply => !reply.isOk
  | _, .setDispatched _ _, reply => !reply.isOk
  | _, .dispatch _, reply => !reply.isOk
  | _, .handle _, reply => !reply.isOk
  | _, .unlessCancelled c, reply =>
    match reply with
    | some reply => c.failed reply
    | none => false
  | _, _, _ => false

/-- The replies of collaborators that do not fail, as long as the clock reads from `least` on. -/
def Call.Served (least : Int) : {β : Type} → Call β → β → Prop
  | _, .now, reading => reading.InWindow least
  | _, c, reply => c.failed reply = false

/-- A reply that did not fail carries a value. -/
theorem exists_eq_ok {ε α : Type} {reply : Except ε α} (h : (!reply.isOk) = false) :
    ∃ a, reply = .ok a := by
  cases reply with
  | ok a => exact ⟨a, rfl⟩
  | error e => exact nomatch h

/-- A clock within the window leaves every call a reply with which it does not fail. -/
theorem Call.exists_served {least : Int} {now : Instant} (hnow : now.InWindow least) {β : Type}
    (c : Call β) : ∃ reply, c.Served least reply := by
  refine ⟨c.goodReply now, ?_⟩
  cases c with
  | now => exact hnow
  | _ => rfl

/-- How a delivery of `m` goes from start to end when its message carries the countdown `c` and no
call fails. Each way ends with the telling of an outcome. -/
inductive Message.Concludes (m : Message) (c : Countdown) (queue : String) (least : Int) :
    List Exchange → Except DeliveryError Disposition → Prop
  | retried (front : List Exchange) (now : Instant) : now.InWindow least →
      c.isExhausted = false → told front = [] →
      sent front = [(c.successor m queue now).message] →
      Concludes m c queue least (front ++ [⟨.observe (c.outcome .retried), ()⟩])
        (.ok .retryScheduled)
  | completed (front : List Exchange) : told front = [] → sent front = [] →
      Concludes m c queue least (front ++ [⟨.observe (c.outcome .completed), ()⟩])
        (.ok .completed)
  | gaveUp (front : List Exchange) : c.isExhausted = true → told front = [c.outcome .gaveUp] →
      sent front = [] →
      Concludes m c queue least (front ++ [⟨.observe (c.outcome .completed), ()⟩])
        (.ok .completed)

section

variable {p : Receiver} {m : Message} {c : Countdown} {least : Int} {calls : List Exchange}
  {result : Except DeliveryError Disposition}

/-- Nothing is told and nothing leaves on its own. -/
def Tacit (calls : List Exchange) : Prop := told calls = [] ∧ sent calls = []

/-- Nothing called is nothing told. -/
theorem tacit_nil : Tacit [] := ⟨rfl, rfl⟩

/-- Two stretches of a delivery that tell nothing make one. -/
theorem Tacit.append {rest : List Exchange} (h : Tacit calls) (hrest : Tacit rest) :
    Tacit (calls ++ rest) := by
  refine ⟨?_, ?_⟩
  · rw [told_append, h.1, hrest.1, List.append_nil]
  · rw [sent_append, h.2, hrest.2, List.append_nil]

/-- A call that tells nothing may stand before them. -/
theorem Tacit.cons {rest : List Exchange} {β : Type} {call : Call β} {reply : β}
    (hrest : Tacit rest) (htold : call.told reply = []) (hsent : call.sent reply = []) :
    Tacit (⟨call, reply⟩ :: rest) := by
  have hone : Tacit [⟨call, reply⟩] := ⟨by simp [told, htold], by simp [sent, hsent]⟩
  exact hone.append hrest

/-- Where outcomes are reported, a report is one observation. -/
theorem runs_report_of_reports {o : Outcome} {may : {β : Type} → Call β → β → Prop}
    (h : (report true o).Runs may calls ()) : calls = [⟨.observe o, ()⟩] := by
  obtain ⟨reply, rest, -, hrest, rfl⟩ := runs_call.1 h
  obtain ⟨rfl, -⟩ := runs_done.1 hrest
  rfl

/-- What waits in a record does not leave on its own. -/
theorem sent_dispatch_batch (ops : Batch) (reply : Except DispatchError Unit) :
    (Call.dispatch (ops.map (·.toShipment))).sent reply = [] := by
  -- a batch is made of plain operations, which do not leave isolated
  have hnone : (ops.map (·.toShipment)).filter (·.isolated) = [] := by
    refine List.filter_eq_nil_iff.2 fun op hop => ?_
    obtain ⟨op', -, rfl⟩ := List.mem_map.1 hop
    exact Bool.false_ne_true
  cases reply with
  | error e => rfl
  | ok _ =>
    show ((ops.map (·.toShipment)).filter (·.isolated)).map (·.message) = []
    rw [hnone, List.map_nil]

/-- Where nothing fails, forwarding goes well and tells nothing. -/
theorem runs_forwardRecord {r : Record} {forwarded : Except DeliveryError Unit}
    (h : (p.forwardRecord r).Runs (Call.Served least) calls forwarded) :
    forwarded = .ok () ∧ Tacit calls := by
  unfold Receiver.forwardRecord at h
  -- a record that has been dispatched before makes no call at all
  split at h
  · obtain ⟨rfl, rfl⟩ := runs_done.1 h
    exact ⟨rfl, tacit_nil⟩
  · rw [ask_bind] at h
    obtain ⟨dispatched, rest, hdispatched, hrest, rfl⟩ := runs_call.1 h
    obtain ⟨_, rfl⟩ := exists_eq_ok hdispatched
    obtain ⟨marked, last, hmarked, hlast, rfl⟩ := runs_call.1 hrest
    obtain ⟨_, rfl⟩ := exists_eq_ok hmarked
    obtain ⟨rfl, rfl⟩ := runs_done.1 hlast
    exact ⟨rfl, (tacit_nil.cons rfl rfl).cons rfl (sent_dispatch_batch r.undispatched (.ok ()))⟩

/-- A store that refuses a record because of a conflict has not failed. -/
theorem ok_or_conflict {reply : Except StoreError Unit}
    (h : (match reply with | .ok () => false | .error e => !e.isConflict) = false) :
    reply = .ok () ∨ ∃ id, reply = .error (.conflict id) := by
  match reply with
  | .ok () => exact .inl rfl
  | .error (.conflict id) => exact .inr ⟨id, rfl⟩
  | .error (.incompatible _) | .error (.serialization _) | .error (.backend _) => exact nomatch h

/-- The empty record is written, or something with its id was there before; nothing is told. -/
theorem runs_writeTombstone {id : String} {written : Except StoreError Unit}
    (h : (p.writeTombstone id).Runs (Call.Served least) calls written) :
    (written = .ok () ∨ ∃ id, written = .error (.conflict id)) ∧ Tacit calls := by
  unfold Receiver.writeTombstone at h
  rw [ask_bind] at h
  obtain ⟨begun, rest, hbegun, hrest, rfl⟩ := runs_call.1 h
  obtain ⟨tx, rfl⟩ := exists_eq_ok hbegun
  obtain ⟨added, last, hadded, hlast, rfl⟩ := runs_call.1 hrest
  -- the id may be taken when the record is stored or when the transaction is committed
  obtain rfl | ⟨id', rfl⟩ := ok_or_conflict hadded
  · obtain ⟨committed, none, hcommitted, hnone, rfl⟩ := runs_call.1 hlast
    obtain ⟨rfl, rfl⟩ := runs_done.1 hnone
    exact ⟨ok_or_conflict hcommitted, ((tacit_nil.cons rfl rfl).cons rfl rfl).cons rfl rfl⟩
  · obtain ⟨rfl, rfl⟩ := runs_done.1 hlast
    exact ⟨.inr ⟨id', rfl⟩, (tacit_nil.cons rfl rfl).cons rfl rfl⟩

/-- To block an id goes well, also when the session has come first. -/
theorem runs_tombstone {id : String} {blocked : Except DeliveryError Unit}
    (h : (p.tombstone id).Runs (Call.Served least) calls blocked) :
    blocked = .ok () ∧ Tacit calls := by
  obtain ⟨first, second, written, hfirst, hsecond, rfl⟩ := runs_bind.1 h
  obtain ⟨hwritten, htacit⟩ := runs_writeTombstone hfirst
  -- either the empty record stands, or the record in the way is looked up and forwarded
  obtain rfl | ⟨id', rfl⟩ := hwritten
  · obtain ⟨rfl, rfl⟩ := runs_done.1 hsecond
    exact ⟨rfl, htacit.append tacit_nil⟩
  · obtain ⟨found, rest, hfound, hrest, rfl⟩ := runs_call.1 hsecond
    obtain ⟨r, rfl⟩ := exists_eq_ok hfound
    cases r with
    | none =>
      obtain ⟨rfl, rfl⟩ := runs_done.1 hrest
      exact ⟨rfl, htacit.append (tacit_nil.cons rfl rfl)⟩
    | some r =>
      obtain ⟨hforwarded, hlast⟩ := runs_forwardRecord hrest
      exact ⟨hforwarded, htacit.append (hlast.cons rfl rfl)⟩

/-- A delivery whose budget is used up tells that it gives up, and blocks the id. -/
theorem runs_retry_of_exhausted (hcontrol : m.isControl = true) (hreports : p.reports = true)
    (hexhausted : c.isExhausted = true)
    (h : (p.retry m (some c)).Runs (Call.Served least) calls result) :
    result = .ok .completed ∧ told calls = [c.outcome .gaveUp] ∧ sent calls = [] := by
  unfold Receiver.retry at h
  rw [ask_bind, hreports] at h
  obtain ⟨now, rest, -, hrest, rfl⟩ := runs_call.1 h
  -- the verdict is told first, and the empty record is written after that
  obtain ⟨first, second, verdict, hfirst, hsecond, rfl⟩ := runs_bind.1 hrest
  rw [judge_of_exhausted hexhausted] at hfirst
  obtain ⟨telling, last, _, htelling, hlast, rfl⟩ := runs_bind.1 hfirst
  obtain rfl := runs_report_of_reports htelling
  obtain ⟨rfl, rfl⟩ := runs_done.1 hlast
  dsimp only at hsecond
  rw [if_pos hcontrol] at hsecond
  obtain ⟨blocking, last, blocked, hblocking, hlast, rfl⟩ := runs_bind.1 hsecond
  obtain ⟨rfl, htacit⟩ := runs_tombstone hblocking
  obtain ⟨rfl, rfl⟩ := runs_done.1 hlast
  -- what blocking the id called is tacit, so the report of the verdict is all that was told
  refine ⟨rfl, ?_, ?_⟩
  · show [c.outcome .gaveUp] ++ told (blocking ++ []) = _
    rw [told_append, htacit.1]
    rfl
  · show sent (blocking ++ []) = []
    rw [sent_append, htacit.2]
    rfl

/-- With budget left it sends a successor, and tells that at its end. -/
theorem runs_retry_of_left (hreports : p.reports = true) (hleft : c.isExhausted = false)
    (h : (p.retry m (some c)).Runs (Call.Served least) calls result) :
    result = .ok .retryScheduled ∧ ∃ front now, now.InWindow least ∧
      calls = front ++ [⟨.observe (c.outcome .retried), ()⟩] ∧ told front = [] ∧
      sent front = [(c.successor m p.address now).message] := by
  unfold Receiver.retry at h
  rw [ask_bind, hreports] at h
  obtain ⟨now, rest, hnow, hrest, rfl⟩ := runs_call.1 h
  obtain ⟨first, second, verdict, hfirst, hsecond, rfl⟩ := runs_bind.1 hrest
  rw [judge_of_left hleft] at hfirst
  -- a successor that is not taken would be an error, and nothing would be told of it
  obtain ⟨dispatched, last, hdispatched, hlast, rfl⟩ := runs_call.1 hfirst
  obtain ⟨_, rfl⟩ := exists_eq_ok hdispatched
  obtain ⟨telling, none, _, htelling, hnone, rfl⟩ := runs_bind.1 hlast
  obtain rfl := runs_report_of_reports htelling
  obtain ⟨rfl, rfl⟩ := runs_done.1 hnone
  obtain ⟨rfl, rfl⟩ := runs_done.1 hsecond
  exact ⟨rfl, [⟨.now, now⟩, ⟨.dispatch [c.successor m p.address now], .ok ()⟩], now, hnow, rfl,
    rfl, rfl⟩

/-- How the delivery of a message that announces a session goes. -/
theorem runs_receive (hcontrol : m.isControl = true) (hc : tracked m = some c)
    (hreports : p.reports = true) (h : (p.receive m).Runs (Call.Served least) calls result) :
    m.Concludes c p.address least calls result := by
  unfold Receiver.receive withOutcome at h
  rw [hc, hreports] at h
  obtain ⟨working, telling, worked, hworking, htelling, rfl⟩ := runs_bind.1 h
  -- what completes is told in the end
  have htold : worked = .ok .completed → result = .ok .completed ∧
      telling = [⟨.observe (c.outcome .completed), ()⟩] := by
    rintro rfl
    obtain ⟨first, second, _, hfirst, hsecond, rfl⟩ := runs_bind.1 htelling
    obtain ⟨rfl, rfl⟩ := runs_done.1 hsecond
    rw [runs_report_of_reports hfirst]
    exact ⟨rfl, rfl⟩
  unfold Receiver.work at hworking
  rw [if_pos hcontrol, ask_bind] at hworking
  obtain ⟨found, rest, hfound, hrest, rfl⟩ := runs_call.1 hworking
  obtain ⟨r, rfl⟩ := exists_eq_ok hfound
  -- by what the lookup has found: a record to forward, or none, and then by the budget
  cases r with
  | some r =>
    obtain ⟨first, second, forwarded, hfirst, hsecond, rfl⟩ := runs_bind.1 hrest
    obtain ⟨rfl, htacit⟩ := runs_forwardRecord hfirst
    obtain ⟨rfl, rfl⟩ := runs_done.1 hsecond
    obtain ⟨rfl, rfl⟩ := htold rfl
    have hall : Tacit (⟨.getRecord p.store m.id, .ok (some r)⟩ :: (first ++ [])) :=
      (htacit.append tacit_nil).cons rfl rfl
    exact .completed _ hall.1 hall.2
  | none =>
    -- nothing is found, and the budget decides between a farewell and a successor
    cases hexhausted : c.isExhausted with
    | true =>
      obtain ⟨rfl, hgave, hsent⟩ := runs_retry_of_exhausted hcontrol hreports hexhausted hrest
      obtain ⟨rfl, rfl⟩ := htold rfl
      exact .gaveUp _ hexhausted hgave hsent
    | false =>
      obtain ⟨rfl, front, now, hnow, rfl, hnone, hsent⟩ :=
        runs_retry_of_left hreports hexhausted hrest
      obtain ⟨rfl, rfl⟩ := runs_done.1 htelling
      rw [List.append_nil, ← List.cons_append]
      exact .retried _ now hnow hexhausted hnone hsent

/-- A worker does nothing more about a delivery that has not failed. -/
theorem Consumer.runs_deliver {k : Consumer} (hcontrol : m.isControl = true)
    (hc : tracked m = some c) (hreports : k.setup.reports = true)
    (h : (k.deliver m).Runs (Call.Served least) calls result) :
    m.Concludes c k.setup.address least calls result := by
  cases k with
  | receiver p => exact runs_receive hcontrol hc hreports h
  | worker w =>
    obtain ⟨first, second, received, hfirst, hsecond, rfl⟩ := runs_bind.1 h
    have hconcludes := runs_receive hcontrol hc hreports hfirst
    -- where no call fails the receive does not, so nothing goes to the error queue
    cases received with
    | error e => exact nomatch hconcludes
    | ok disposition =>
      obtain ⟨rfl, rfl⟩ := runs_done.1 hsecond
      rw [List.append_nil]
      exact hconcludes

/-- Before its last call a delivery has told nothing, unless it is giving up. -/
theorem Message.Concludes.told_so_far {queue : String} {later : List Exchange}
    (h : m.Concludes c queue least (calls ++ later) result) (hlater : later ≠ []) :
    told calls = [] ∨ c.isExhausted = true ∧ told calls = [c.outcome .gaveUp] := by
  obtain ⟨rest, last, heq⟩ := (List.eq_nil_or_concat later).resolve_left hlater
  rw [heq, List.concat_eq_append] at h
  -- what has been called so far comes before the last call
  have hfront : ∀ {front : List Exchange} {e : Exchange}, calls ++ (rest ++ [last]) = front ++ [e] →
      told calls ++ told rest = told front := by
    intro front e heq
    rw [← List.append_assoc] at heq
    rw [← told_append, (List.append_inj' heq rfl).1]
  obtain ⟨all, hall⟩ : ∃ all, calls ++ (rest ++ [last]) = all := ⟨_, rfl⟩
  rw [hall] at h
  -- only one way tells something before its last call
  cases h with
  | retried front now _ _ hnone _ | completed front hnone _ =>
    have htold := hfront hall
    rw [hnone] at htold
    exact .inl (List.append_eq_nil_iff.1 htold).1
  | gaveUp front hexhausted hgave _ =>
    have htold := hfront hall
    rw [hgave] at htold
    obtain ⟨hnone, -⟩ | ⟨hone, -⟩ := List.append_eq_singleton_iff.1 htold
    · exact .inl hnone
    · exact .inr ⟨hexhausted, hone⟩

end

end Outbox
