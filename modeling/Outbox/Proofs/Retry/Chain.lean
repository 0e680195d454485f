import Outbox.Processing.Receiver
import Outbox.Proofs.Contract.Timely
import Outbox.Proofs.Retry.Successor
import Outbox.Proofs.Runs

/-!
# Chains of deliveries

A control message for which there is no record is delivered, then its successor, then the successor
of that, each at a reading of the clock of its own and each read out of the headers that the one
before has written. Such a chain ends with the delivery that gives up.

* `Receiver.schedules_iff`, `Receiver.givesUp_iff`  what one delivery without a record does
* `Receiver.Chain.carries`                          what the messages of a chain carry
-/

namespace Outbox

open Program Time

/-! ### A delivery without a record -/

/-- The replies that a delivery may get at a reading of the clock when there is no record of the
session and the transport takes what it is given. -/
def Call.Unrecorded (now : Instant) : {β : Type} → Call β → β → Prop
  | _, .now, reply => reply = now
  | _, .getRecord _ _, reply => reply = .ok none
  | _, .dispatch _, reply => reply = .ok ()
  | _, _, _ => True

/-- The reply of collaborators with whom all goes well, at a reading of the clock and as long as
there is no record. -/
def Call.goodReply (now : Instant) : {β : Type} → Call β → β
  | _, .now => now
  | _, .freshId => ""
  | _, .isCancelled => false
  | _, .beginTransaction _ _ => .ok 0
  | _, .attach _ _ _ => .ok true
  | _, .getRecord _ _ => .ok none
  | _, .openStaging _ _ | _, .complete _ | _, .addRecord _ _ _ | _, .commit _
  | _, .setDispatched _ _ | _, .dispatch _ | _, .handle _ => .ok ()
  | _, .closeStaging _ | _, .rollback _ | _, .observe _ => ()
  | _, .unlessCancelled _ => none

/-- Every call has an answer in a world where no session has a record and nothing fails. -/
theorem Call.exists_unrecorded (now : Instant) {β : Type} (c : Call β) :
    ∃ reply, c.Unrecorded now reply := by
  refine ⟨c.goodReply now, ?_⟩
  cases c <;> first | rfl | trivial

/-- What the transport has taken in an exchange. -/
def Exchange.accepted : Exchange → List Shipment
  | ⟨.dispatch ops, .ok _⟩ => ops
  | _ => []

/-- What the transport has taken in all. -/
def handedOver (calls : List Exchange) : List Shipment := calls.flatMap Exchange.accepted

/-- Whether a transaction was asked for. In a delivery this is the one of an empty record. -/
def begins (calls : List Exchange) : Bool := calls.any (·.kind == .beginTransaction)

@[simp] theorem handedOver_append (calls rest : List Exchange) :
    handedOver (calls ++ rest) = handedOver calls ++ handedOver rest := List.flatMap_append

@[simp] theorem begins_append (calls rest : List Exchange) :
    begins (calls ++ rest) = (begins calls || begins rest) := List.any_append

/-- Without a dispatch nothing is handed over. -/
theorem handedOver_eq_nil {calls : List Exchange} (h : ∀ e ∈ calls, e.kind ≠ .dispatch) :
    handedOver calls = [] := by
  refine List.flatMap_eq_nil_iff.2 fun e he => ?_
  have hkind := h e he
  unfold Exchange.accepted
  split
  · exact absurd rfl hkind
  · rfl

/-- Without a call that begins one there is no transaction. -/
theorem begins_eq_false {calls : List Exchange} (h : ∀ e ∈ calls, e.kind ≠ .beginTransaction) :
    begins calls = false := by
  refine List.any_eq_false.2 fun e he => ?_
  rw [beq_iff_eq]
  exact h e he

namespace Receiver

variable {p : Receiver} {m : Message} {now : Instant} {op : Shipment} {calls : List Exchange}

/-- At a reading of the clock a delivery without a record hands over one operation. -/
def Schedules (p : Receiver) (m : Message) (now : Instant) (op : Shipment) : Prop :=
  ∃ calls result, (p.receive m).Runs (Call.Unrecorded now) calls result ∧ handedOver calls = [op]

/-- At a reading of the clock a delivery without a record sets about blocking the session's id. -/
def GivesUp (p : Receiver) (m : Message) (now : Instant) : Prop :=
  ∃ calls result, (p.receive m).Runs (Call.Unrecorded now) calls result ∧ begins calls = true

/-- To tell an outcome hands nothing over and begins no transaction. -/
theorem runs_report {reports : Bool} {o : Outcome}
    (h : (report reports o).Runs (Call.Unrecorded now) calls ()) :
    handedOver calls = [] ∧ begins calls = false := by
  have honly : (report reports o).Only (· = .observe) := by
    unfold report
    cases reports
    · exact trivial
    · exact ⟨rfl, fun _ => trivial⟩
  -- an observation is neither a dispatch nor the beginning of a transaction
  have hkind := honly.of_runs h
  exact ⟨handedOver_eq_nil fun e he => by rw [hkind e he]; decide,
    begins_eq_false fun e he => by rw [hkind e he]; decide⟩

/-- To write an empty record takes a transaction, and nothing is sent. -/
theorem runs_tombstone {id : String} {result : Except DeliveryError Unit}
    (h : (p.tombstone id).Runs (Call.Unrecorded now) calls result) :
    handedOver calls = [] ∧ begins calls = true := by
  -- first the record is written, and then a conflict may have to be looked at
  obtain ⟨first, second, written, hfirst, hsecond, rfl⟩ := runs_bind.1 h
  have honly : (p.writeTombstone id).Only (· ≠ .dispatch) := by
    -- none of the three calls is a dispatch, whatever their answers
    refine ⟨nofun, fun begun => ?_⟩
    cases begun with
    | error e => exact trivial
    | ok tx =>
      refine ⟨nofun, fun added => ?_⟩
      cases added with
      | error e => exact trivial
      | ok _ => exact ⟨nofun, fun _ => trivial⟩
  have hbegins : begins first = true := by
    obtain ⟨reply, rest, -, -, rfl⟩ := runs_call.1 hfirst
    rfl
  -- a record that has come up in the meantime is looked up, and there is none
  have hrest : handedOver second = [] := by
    match written with
    | .ok _ =>
      obtain ⟨rfl, -⟩ := runs_done.1 hsecond
      rfl
    | .error (.conflict _) =>
      obtain ⟨reply, rest, hreply, hdone, rfl⟩ := runs_call.1 hsecond
      obtain rfl : reply = .ok none := hreply
      obtain ⟨rfl, -⟩ := runs_done.1 hdone
      rfl
    | .error (.incompatible _) | .error (.serialization _) | .error (.backend _) =>
      obtain ⟨rfl, -⟩ := runs_done.1 hsecond
      rfl
  rw [handedOver_append, handedOver_eq_nil (honly.of_runs hfirst), hrest, begins_append, hbegins]
  exact ⟨rfl, rfl⟩

/-- What a delivery without a record sends. -/
def sendsOn (p : Receiver) (m : Message) (now : Instant) : Option Countdown → List Shipment
  | none => []
  | some c => if c.isExhausted then [] else [c.successor m p.address now]

/-- Without a record a control message is passed on or given up, as its countdown says. -/
theorem runs_retry {c : Option Countdown} {result : Except DeliveryError Disposition}
    (hcontrol : m.isControl = true) (h : (p.retry m c).Runs (Call.Unrecorded now) calls result) :
    handedOver calls = p.sendsOn m now c ∧ begins calls = c.any Countdown.isExhausted := by
  -- the clock is read first, and then the verdict decides
  unfold retry at h
  rw [ask_bind] at h
  obtain ⟨reading, rest, hreading, hrest, rfl⟩ := runs_call.1 h
  obtain rfl : reading = now := hreading
  obtain ⟨judged, last, verdict, hjudged, hlast, rfl⟩ := runs_bind.1 hrest
  cases c with
  -- without a countdown the message is taken and forgotten
  | none =>
    obtain ⟨rfl, rfl⟩ := runs_done.1 hjudged
    have hpass : p.passOn m = done (.ok .completed) := if_pos (by rw [hcontrol, Bool.true_or])
    dsimp only at hlast
    rw [hpass] at hlast
    obtain ⟨rfl, -⟩ := runs_done.1 hlast
    exact ⟨rfl, rfl⟩
  | some c =>
    rw [sendsOn, Option.any_some]
    cases hleft : c.isExhausted with
    -- exhausted: the outcome is told and the id is blocked, for which a transaction is begun
    | true =>
      rw [judge_of_exhausted hleft] at hjudged
      obtain ⟨told, second, _, htold, hsecond, rfl⟩ := runs_bind.1 hjudged
      obtain ⟨rfl, rfl⟩ := runs_done.1 hsecond
      dsimp only at hlast
      rw [if_pos hcontrol] at hlast
      obtain ⟨blocked, third, written, hblocked, hthird, rfl⟩ := runs_bind.1 hlast
      obtain rfl : third = [] := by
        cases written <;> exact (runs_done.1 hthird).1
      obtain ⟨hsent, hbegins⟩ := runs_tombstone hblocked
      obtain ⟨htoldSent, htoldBegins⟩ := runs_report htold
      constructor
      · show handedOver (told ++ [] ++ (blocked ++ [])) = []
        simp [htoldSent, hsent]
      · show begins (told ++ [] ++ (blocked ++ [])) = true
        simp [hbegins]
    | false =>
      -- not exhausted: the successor is sent and the retry is told
      rw [judge_of_left hleft] at hjudged
      obtain ⟨reply, second, hreply, hsecond, rfl⟩ := runs_call.1 hjudged
      obtain rfl : reply = .ok () := hreply
      obtain ⟨told, third, _, htold, hthird, rfl⟩ := runs_bind.1 hsecond
      obtain ⟨rfl, rfl⟩ := runs_done.1 hthird
      obtain ⟨rfl, -⟩ := runs_done.1 hlast
      obtain ⟨htoldSent, htoldBegins⟩ := runs_report htold
      constructor
      · show [c.successor m p.address reading] ++ handedOver (told ++ [] ++ []) = _
        simp [htoldSent]
      · show begins (told ++ [] ++ []) = false
        simp [htoldBegins]

/-- A delivery of a control message without a record does what its countdown says. -/
theorem runs_receive {result : Except DeliveryError Disposition} (hcontrol : m.isControl = true)
    (h : (p.receive m).Runs (Call.Unrecorded now) calls result) :
    handedOver calls = p.sendsOn m now (tracked m) ∧
      begins calls = (tracked m).any Countdown.isExhausted := by
  unfold receive withOutcome at h
  obtain ⟨first, second, worked, hfirst, hsecond, rfl⟩ := runs_bind.1 h
  unfold work at hfirst
  rw [if_pos hcontrol, ask_bind] at hfirst
  obtain ⟨reply, rest, hreply, hrest, rfl⟩ := runs_call.1 hfirst
  obtain rfl : reply = .ok none := hreply
  -- the lookup has found nothing, so the coordinator decides
  obtain ⟨hsent, hbegins⟩ := runs_retry hcontrol hrest
  -- at the end the outcome may be told
  have hsecond : handedOver second = [] ∧ begins second = false := by
    dsimp only at hsecond
    split at hsecond
    · obtain ⟨told, last, _, htold, hlast, rfl⟩ := runs_bind.1 hsecond
      obtain ⟨rfl, -⟩ := runs_done.1 hlast
      rw [List.append_nil]
      exact runs_report htold
    · obtain ⟨rfl, -⟩ := runs_done.1 hsecond
      exact ⟨rfl, rfl⟩
  rw [handedOver_append, begins_append, hsecond.1, hsecond.2, List.append_nil, Bool.or_false]
  exact ⟨hsent, hbegins⟩

/-- A delivery schedules the successor of a message whose budget is not used up. -/
theorem schedules_iff (hcontrol : m.isControl = true) : p.Schedules m now op ↔
    ∃ c, tracked m = some c ∧ c.isExhausted = false ∧ op = c.successor m p.address now := by
  constructor
  · rintro ⟨calls, result, hrun, hops⟩
    rw [(runs_receive hcontrol hrun).1] at hops
    -- what is sent without a record is the successor or nothing
    cases hc : tracked m with
    | none => exact nomatch hc ▸ hops
    | some c =>
      rw [hc, sendsOn] at hops
      split at hops
      · exact nomatch hops
      · next hleft => exact ⟨c, rfl, Bool.eq_false_iff.2 hleft, (List.singleton_inj.1 hops).symm⟩
  -- a delivery that meets no record can always be played to its end
  · rintro ⟨c, hc, hleft, rfl⟩
    obtain ⟨calls, result, hrun⟩ := exists_runs (Call.exists_unrecorded now) (p.receive m)
    refine ⟨calls, result, hrun, ?_⟩
    rw [(runs_receive hcontrol hrun).1, hc, sendsOn, if_neg (Bool.eq_false_iff.1 hleft)]

/-- A delivery gives up when the budget is used up. -/
theorem givesUp_iff (hcontrol : m.isControl = true) :
    p.GivesUp m now ↔ ∃ c, tracked m = some c ∧ c.isExhausted = true := by
  rw [← Option.any_eq_true]
  constructor
  · rintro ⟨calls, result, hrun, hbegins⟩
    rw [← (runs_receive hcontrol hrun).2]
    exact hbegins
  · intro hexhausted
    obtain ⟨calls, result, hrun⟩ := exists_runs (Call.exists_unrecorded now) (p.receive m)
    exact ⟨calls, result, hrun, (runs_receive hcontrol hrun).2.trans hexhausted⟩

end Receiver

/-! ### What passes from one message to the next -/

namespace Time.Instant

/-- Not within a leap second. -/
def Regular (t : Instant) : Prop := t.nanos < nanosPerSecond

instance (t : Instant) : Decidable t.Regular :=
  inferInstanceAs (Decidable (t.nanos < nanosPerSecond))

/-- A reading without its part below a microsecond is as regular as the reading. -/
theorem Regular.toMicros {t : Instant} (h : t.Regular) : t.toMicros.Regular := by
  simp only [Regular, Instant.toMicros] at h ⊢
  omega

end Time.Instant

namespace Countdown

variable {c : Countdown} {m : Message} {now : Instant} {least : Int}

/-- The message announces a session with this countdown, and it was not sent long before the
readings of the clock from `least` on. -/
structure Carried (least : Int) (m : Message) (c : Countdown) : Prop where
  isControl : m.isControl = true
  read : Countdown.read m = .ok (some c)
  -- what a header says about the time sent has lost what there was beyond microseconds
  recent : ∀ t, c.timeSent = some t → least - 1000 < t.toNanos

namespace Carried

/-- A message that carries a countdown is tracked with it. -/
theorem tracked_eq (h : Carried least m c) : tracked m = some c := by
  rw [tracked, h.read]

/-- A countdown that is carried has a positive delay. -/
theorem positive (h : Carried least m c) : 0 < c.increment.nanos := (of_read h.read).positive

/-- No more time passes than a header can hold. -/
theorem elapsed_le (h : Carried least m c) (hnow : now.InWindow least) :
    0 ≤ c.elapsed now ∧ c.elapsed now ≤ 9223372036854775807 := by
  -- without a time sent it is the delay that has passed, and that fits in a header
  have hincrement := (of_read h.read).increment
  have hpositive := h.positive
  rw [Duration.inReach_iff] at hincrement
  unfold elapsed
  cases hsent : c.timeSent with
  | none => exact ⟨Int.le_of_lt hpositive, hincrement.2⟩
  | some t =>
    have hrecent := h.recent t hsent
    have hle := hnow.le
    have hleap := Instant.leapBetween_le now t
    simp only [Instant.since, nanosPerSecond] at hle ⊢
    omega

/-- The budget of the next countdown is what is left of this one. -/
theorem remaining_passOn (h : Carried least m c) (now : Instant) (hleft : c.isExhausted = false) :
    (c.passOn now).remaining.nanos = c.remaining.nanos - c.elapsed now :=
  nanos_nextRemaining_of_left h.positive hleft now

/-- The delay of the next countdown is twice this one, or all that there is. -/
theorem increment_passOn (h : Carried least m c) (now : Instant) :
    (c.passOn now).increment.nanos = min (2 * c.increment.nanos) c.remaining.nanos :=
  nanos_increment_next c now (Int.le_of_lt h.positive)

/-- A delivery that schedules a successor passes the countdown on. -/
theorem step {p : Receiver} {op : Shipment} (h : Carried least m c) (hnow : now.InWindow least)
    (hs : p.Schedules m now op) :
    c.isExhausted = false ∧ Carried least op.message (c.passOn now) ∧
      op.delay = some (c.passOn now).delay := by
  -- the successor is that of the countdown which the message carries
  obtain ⟨c', hc', hleft, rfl⟩ := (Receiver.schedules_iff h.isControl).1 hs
  obtain rfl : c = c' := Option.some.inj (h.tracked_eq.symm.trans hc')
  have hbudget := c.isExhausted_eq_false_iff.1 hleft
  have hle := (h.elapsed_le hnow).2
  refine ⟨hleft, ⟨(isControl_write m (c.next now)).trans h.isControl,
    read_successor_of_le p.address h.read hleft hnow.year (by omega), fun t ht => ?_⟩, rfl⟩
  obtain rfl := Option.some.inj ht
  have hmicros := Instant.toNanos_toMicros now
  have hge := hnow.ge
  omega

/-- The control message of a session carries its first countdown. -/
theorem announcement {s : Session.Outboxed} {o : Session.Opened} (hopening : o.opening.Fits64)
    (hvalid : o.opening.validate = .ok ())
    (hcountdown : initial o.sessionId o.opening.commitBudget o.opening.firstDelay none =
      .ok o.countdown)
    (hnow : now.InWindow least) : Carried least (s.announcement o now).message
      { o.countdown with timeSent := some now.toMicros } where
  isControl := (isControl_write _ _).trans (isControl_marked _ _)
  read := read_write _ (o.writable hopening hvalid hcountdown hnow.year)
    { id := o.countdown.sessionId }
  recent t ht := by
    obtain rfl := Option.some.inj ht
    have hmicros := Instant.toNanos_toMicros now
    have hge := hnow.ge
    omega

end Carried

/-- What has passed since a time sent, for readings without leap seconds. -/
theorem elapsed_of_timeSent {t : Instant} (hsent : c.timeSent = some t) (ht : t.Regular)
    (hnow : now.Regular) : c.elapsed now = max (now.toNanos - t.toNanos) 0 := by
  have hsince := Instant.since_of_lt hnow ht
  simp only [elapsed, hsent, hsince]

/-- The countdown after some deliveries at readings of the clock. -/
def along (c : Countdown) (reading : Nat → Instant) : Nat → Countdown
  | 0 => c
  | j + 1 => (c.along reading j).passOn (reading j)

end Countdown

namespace Receiver

/-- Deliveries in a row, each of which schedules the next message. -/
def Chain (p : Receiver) (sent : Nat → Shipment) (reading : Nat → Instant) (k : Nat) : Prop :=
  ∀ j < k, p.Schedules (sent j).message (reading j) (sent (j + 1))

variable {p : Receiver} {sent : Nat → Shipment} {reading : Nat → Instant} {k : Nat}
  {c : Countdown} {least : Int}

/-- By induction on the deliveries: every message of a chain carries what the countdown has come
to. -/
theorem Chain.carried (h : p.Chain sent reading k) (hc : Countdown.Carried least (sent 0).message c)
    (hreading : ∀ j < k, (reading j).InWindow least) (j : Nat) (hj : j ≤ k) :
    Countdown.Carried least (sent j).message (c.along reading j) := by
  induction j with
  | zero => exact hc
  | succ j ih => exact ((ih (by omega)).step (hreading j (by omega)) (h j (by omega))).2.1

/-- There is budget left for every successor, and it is delayed as its countdown says. -/
theorem Chain.scheduled (h : p.Chain sent reading k)
    (hc : Countdown.Carried least (sent 0).message c)
    (hreading : ∀ j < k, (reading j).InWindow least) (j : Nat) (hj : j < k) :
    (c.along reading j).isExhausted = false ∧
      ((sent (j + 1)).delay.getD 0 : Int) = (c.along reading (j + 1)).increment.nanos := by
  have hcarried := h.carried hc hreading (j + 1) hj
  obtain ⟨hleft, -, hdelay⟩ := (h.carried hc hreading j (by omega)).step (hreading j hj) (h j hj)
  have hpositive := hcarried.positive
  refine ⟨hleft, ?_⟩
  rw [hdelay, Option.getD_some]
  exact Int.toNat_of_nonneg (Int.le_of_lt hpositive)

/-- The messages of the chain that begins with one operation. -/
def trail (p : Receiver) (first : Shipment) (reading : Nat → Instant) : Nat → Shipment
  | 0 => first
  | j + 1 => ((tracked (p.trail first reading j).message).map fun c =>
      c.successor (p.trail first reading j).message p.address (reading j)).getD first

/-- The trail of a first message is a chain, as long as none of its messages is exhausted. -/
theorem chain_trail {first : Shipment} (h : ∀ j < k, (p.trail first reading j).message.isControl ∧
    (tracked (p.trail first reading j).message).any (!·.isExhausted)) :
    p.Chain (p.trail first reading) reading k := by
  intro j hj
  obtain ⟨hcontrol, hany⟩ := h j hj
  obtain ⟨c, hc, hleft⟩ := (Option.any_eq_true ..).1 hany
  refine (schedules_iff hcontrol).2 ⟨c, hc, by simpa using hleft, ?_⟩
  simp only [trail, hc, Option.map_some, Option.getD_some]

end Receiver

end Outbox
