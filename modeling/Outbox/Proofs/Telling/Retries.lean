import Outbox.Proofs.Amid
import Outbox.Proofs.Cancellation
import Outbox.Proofs.Telling

/-!
# What a delivery tells of retries

Whatever the collaborators reply, and whether they fail or not, a delivery tells of a retry exactly
when it ends with one. Its program is walked through with the outcomes that it has told so far. The
same walk shows that none of its calls looks at a token: that its caller gives up makes no
difference to a delivery that has begun.

* `Tells.of_amid`   from the program to its runs amid others
* `tells_judge`     the coordinator tells of a retry when it has sent a successor
* `tells_deliver`   the whole delivery
-/

namespace Outbox

open Program

/-- The outcomes that an act has told. -/
def Act.told (a : Act) : List Outcome := a.call.told (World.answer false a.call a.world).1

/-- A call that does not look at the token is answered as if there were none. -/
theorem World.answer_of_heedless {β : Type} {c : Call β} (hc : c.heedsToken = false)
    (cancelled : Bool) (w : World) : answer cancelled c w = answer false c w := by
  cases c with
  | isCancelled | unlessCancelled c => exact nomatch hc
  | _ => rfl

namespace Program

variable {α β : Type} {Q : List Outcome → α → Prop} {told : List Outcome}

/-- No call looks at the token, and whatever the collaborators reply, `Q` holds in the end of the
outcomes that were told, together with those told before, and of the result. -/
def Tells (Q : List Outcome → α → Prop) : Program α → List Outcome → Prop
  | done a, told => Q told a
  | call c next, told =>
    c.heedsToken = false ∧ ∀ reply, (next reply).Tells Q (told ++ c.told reply)

/-- Programs in a row tell one after the other. -/
theorem Tells.bind {R : List Outcome → β → Prop} {p : Program α} {f : α → Program β}
    (hp : p.Tells Q told) (hf : ∀ told a, Q told a → (f a).Tells R told) :
    (p >>= f).Tells R told := by
  induction p generalizing told with
  | done a => exact hf told a hp
  | call c next ih => exact ⟨hp.1, fun reply => ih reply (hp.2 reply)⟩

/-- A program of which something is told looks at no token. -/
theorem Tells.heedless {p : Program α} (hp : p.Tells Q told) :
    p.Obeys (fun c => c.heedsToken = false) fun _ => True := by
  induction p generalizing told with
  | done a => exact trivial
  | call c next ih => exact ⟨hp.1, fun reply => ih reply (hp.2 reply)⟩

/-- Such a program runs as if there were no token. -/
theorem Tells.run_eq {p : Program α} (hp : p.Tells Q told) (cancelled : Bool) (w : World) :
    w.run cancelled p = w.run false p := by
  -- call by call: the world is the same with the token and without it
  induction p generalizing told w with
  | done a => rfl
  | call c next ih =>
    show (World.answer cancelled c w).2.run cancelled _ = (World.answer false c w).2.run false _
    rw [World.answer_of_heedless hp.1]
    exact ih _ (hp.2 _) _

/-- Only to observe tells anything. -/
theorem tells_call {c : Call β} {next : β → Program α} (hkind : c.kind ≠ .observe)
    (hheeds : c.heedsToken = false) (hnext : ∀ reply, (next reply).Tells Q told) :
    (call c next).Tells Q told := by
  refine ⟨hheeds, fun reply => ?_⟩
  rw [Call.told_eq_nil hkind, List.append_nil]
  exact hnext reply

/-- A program that neither tells anything nor looks at the token. -/
def Plain (p : Program α) : Prop :=
  p.Obeys (fun c => c.kind ≠ .observe ∧ c.heedsToken = false) fun _ => True

/-- What was told before such a program is all that has been told after it. -/
theorem Plain.tells {p : Program α} (hp : p.Plain) : p.Tells (fun now _ => now = told) told := by
  induction p with
  | done a => exact rfl
  | call c next ih =>
    obtain ⟨⟨hkind, hheeds⟩, hnext⟩ := hp
    exact tells_call hkind hheeds fun reply => ih reply (hnext reply)

end Program

section

variable {p : Receiver} {m : Message} {told : List Outcome}

/-- Forwarding a record is plain. -/
theorem plain_forwardRecord (r : Record) : (p.forwardRecord r).Plain := by
  unfold Receiver.forwardRecord
  -- nothing waits in the record, or it is dispatched and then marked
  split
  · exact trivial
  · refine ⟨⟨nofun, rfl⟩, fun dispatched => ?_⟩
    cases dispatched with
    | error e => exact trivial
    | ok _ =>
      refine ⟨⟨nofun, rfl⟩, fun marked => ?_⟩
      cases marked <;> exact trivial

/-- Writing the empty record is plain. -/
theorem plain_writeTombstone (id : String) : (p.writeTombstone id).Plain := by
  refine ⟨⟨nofun, rfl⟩, fun begun => ?_⟩
  cases begun with
  | error e => exact trivial
  | ok tx =>
    refine ⟨⟨nofun, rfl⟩, fun added => ?_⟩
    cases added with
    | error e => exact trivial
    | ok _ => exact ⟨⟨nofun, rfl⟩, fun _ => trivial⟩

/-- Blocking an id is plain. -/
theorem plain_tombstone (id : String) : (p.tombstone id).Plain := by
  refine (plain_writeTombstone id).bind fun written _ => ?_
  match written with
  -- with a free id that is all, and with a taken one the record there is forwarded
  | .ok _ => exact trivial
  | .error (.incompatible _) | .error (.serialization _) | .error (.backend _) => exact trivial
  | .error (.conflict _) =>
    refine ⟨⟨nofun, rfl⟩, fun found => ?_⟩
    match found with
    | .error e => exact trivial
    | .ok none => exact trivial
    | .ok (some r) => exact plain_forwardRecord r

/-- A report adds its outcome exactly if reports are wanted. -/
theorem tells_report {reports : Bool} {o : Outcome} :
    (report reports o).Tells (fun now _ => now = told ++ if reports then [o] else []) told := by
  cases reports with
  | false => exact (List.append_nil told).symm
  | true => exact ⟨rfl, fun _ => rfl⟩

/-- Whether it has been told that a delivery was replaced. -/
def retryTold (told : List Outcome) : Bool := told.any (·.kind == .retried)

@[simp] theorem retryTold_append (told later : List Outcome) :
    retryTold (told ++ later) = (retryTold told || retryTold later) := List.any_append

/-- A retry has been told exactly if outcomes are told at all and this is the result. -/
def Retold {α : Type} (reports : Bool) (retried : α) (told : List Outcome) (a : α) : Prop :=
  retryTold told = true ↔ reports = true ∧ a = retried

/-- Where no retry was told, any result but the retry is right. -/
theorem Retold.of_ne {α : Type} {reports : Bool} {retried a : α} (htold : retryTold told = false)
    (ha : a ≠ retried) : Retold reports retried told a := by
  simp [Retold, htold, ha]

/-- A result other than the retry shows that no retry was told. -/
theorem Retold.eq_false {α : Type} {reports : Bool} {retried a : α}
    (h : Retold reports retried told a) (ha : a ≠ retried) : retryTold told = false := by
  simpa [Retold, ha] using h

/-- Handing the message to its handler tells nothing, and its result is no retry. -/
theorem tells_passOn (htold : retryTold told = false) :
    (p.passOn m).Tells (Retold p.reports (.ok .retryScheduled)) told := by
  unfold Receiver.passOn
  split
  · exact .of_ne htold nofun
  · refine tells_call nofun rfl fun handled => ?_
    cases handled <;> exact Retold.of_ne htold nofun

/-- The coordinator tells of a retry when it has sent a successor, and only then. -/
theorem tells_judge (queue : String) (reports : Bool) (countdown : Option Countdown)
    (now : Time.Instant) :
    (judge queue reports m countdown now).Tells (Retold reports .retried) [] := by
  unfold judge
  split
  -- no countdown and no budget both end without a retry, the latter after telling another outcome
  · exact .of_ne rfl nofun
  · split
    · refine tells_report.bind fun told _ htold => ?_
      rw [htold]
      cases reports <;> exact Retold.of_ne rfl nofun
    -- the successor is sent first, and only if it was taken is the retry told
    · refine tells_call nofun rfl fun dispatched => ?_
      cases dispatched with
      | error e => exact Retold.of_ne rfl nofun
      | ok _ =>
        refine tells_report.bind fun told _ htold => ?_
        rw [htold]
        cases reports with
        | false => exact ⟨nofun, fun h => nomatch h.1⟩
        | true => exact ⟨fun _ => ⟨rfl, rfl⟩, fun _ => rfl⟩

/-- The result of a delivery says whether a retry has been told. -/
theorem tells_retry (countdown : Option Countdown) :
    (p.retry m countdown).Tells (Retold p.reports (.ok .retryScheduled)) [] := by
  unfold Receiver.retry
  refine tells_call nofun rfl fun now => (tells_judge p.address p.reports countdown now).bind ?_
  intro told verdict hverdict
  -- what was told is settled with the verdict: nothing below tells of a retry
  cases verdict with
  | goOn => exact tells_passOn (hverdict.eq_false nofun)
  | failed e => exact Retold.of_ne (hverdict.eq_false nofun) nofun
  | retried =>
    refine hverdict.trans ?_
    simp only [and_true]
  | gaveUp =>
    have htold := hverdict.eq_false nofun
    dsimp only
    -- a control message has its id blocked, which is plain
    split
    · refine (plain_tombstone m.id).tells.bind fun now written hnow => ?_
      rw [hnow]
      cases written <;> exact Retold.of_ne htold nofun
    · exact Retold.of_ne htold nofun

/-- A lookup and the forwarding of a record add nothing to that. -/
theorem tells_work (countdown : Option Countdown) :
    (p.work m countdown).Tells (Retold p.reports (.ok .retryScheduled)) [] := by
  unfold Receiver.work
  -- only a control message has its record looked up
  split
  · refine tells_call nofun rfl fun found => ?_
    match found with
    | .error e => exact Retold.of_ne rfl nofun
    | .ok none => exact tells_retry countdown
    | .ok (some r) =>
      refine (plain_forwardRecord r).tells.bind fun now forwarded hnow => ?_
      rw [hnow]
      cases forwarded <;> exact Retold.of_ne rfl nofun
  · exact tells_retry countdown

/-- What completes is told in the end, and that is no retry. -/
theorem tells_receive : (p.receive m).Tells (Retold p.reports (.ok .retryScheduled)) [] := by
  unfold Receiver.receive withOutcome
  refine (tells_work (tracked m)).bind fun told result hresult => ?_
  dsimp only
  split
  · refine tells_report.bind fun now _ hnow => ?_
    rw [hnow]
    refine Retold.of_ne ?_ nofun
    rw [retryTold_append, hresult.eq_false nofun]
    cases p.reports <;> rfl
  · exact hresult

/-- A delivery tells of a retry exactly when it ends with one, if it tells anything. -/
theorem tells_deliver (w : Worker) :
    (w.deliver m).Tells (Retold w.receiver.reports (.ok .retryScheduled)) [] := by
  unfold Worker.deliver
  refine tells_receive.bind fun told result hresult => ?_
  -- a delivery that failed is forwarded to the error queue, which tells nothing
  cases result with
  | ok disposition => exact hresult
  | error e => exact tells_call nofun rfl fun _ => hresult

end

end Outbox
