import Outbox.Proofs.Uses

/-!
# While a session is open

An open session is what it was when it was opened, but for what it has collected since. It stays so
until it is committed or disposed, and then it is over for good.

* `Session.Used.since`            open sessions only collect
* `Session.Outboxed.runs_open`    what an open that goes well makes of a session
* `Session.Outboxed.runs_commit`  a commit that is not refused announces the session, on its own
-/

namespace Outbox

open Program

/-- The operations that a call hands to the transport. -/
def Call.shipments? {β : Type} : Call β → Option (List Shipment)
  | .dispatch ops => some ops
  | .unlessCancelled c => c.shipments?
  | _ => none

/-- Only a dispatch bears shipments. -/
theorem Call.shipments?_eq_none {β : Type} {c : Call β} (h : c.kind ≠ .dispatch) :
    c.shipments? = none := by
  induction c with
  | dispatch ops => exact absurd rfl h
  | unlessCancelled c ih => exact ih h
  | _ => rfl

/-- What was handed to the transport, dispatch by dispatch, whether it was taken or not. -/
def dispatches (calls : List Exchange) : List (List Shipment) :=
  calls.filterMap (·.call.shipments?)

@[simp] theorem dispatches_append (calls rest : List Exchange) :
    dispatches (calls ++ rest) = dispatches calls ++ dispatches rest := List.filterMap_append

/-- Without a call of that kind nothing is dispatched. -/
theorem dispatches_eq_nil {calls : List Exchange} (h : ∀ e ∈ calls, e.kind ≠ .dispatch) :
    dispatches calls = [] :=
  List.filterMap_eq_nil_iff.2 fun e he => Call.shipments?_eq_none (h e he)

/-- A dispatch is an outward call. -/
theorem dispatches_of_outward_eq_nil {calls : List Exchange} (h : outward calls = []) :
    dispatches calls = [] := by
  refine dispatches_eq_nil fun e he hkind => ?_
  exact nomatch (outward_eq_nil_iff.1 h e he).symm.trans hkind

/-- A program that dispatches nothing. -/
theorem dispatches_of_only {α : Type} {a : α} {p : Program α} (hp : p.Only (· ≠ .dispatch))
    {may : {β : Type} → Call β → β → Prop} {calls : List Exchange} (h : p.Runs may calls a) :
    dispatches calls = [] :=
  dispatches_eq_nil (hp.of_runs h)

namespace Session

/-- The session with another batch. -/
def withBatch (batch : Batch) : Session → Session
  | outboxed s => outboxed { s with batch }
  | direct s => direct { s with batch }

/-- A session is over, and refuses whatever takes a token. -/
def IsOver (s : Session) : Prop := ∃ e, s.phase.refusal? = some e

/-- A session that was open as `s₁` has only collected since, or it is over. -/
def Since (s₁ s : Session) : Prop := (∃ batch, s = s₁.withBatch batch) ∨ s.IsOver

/-- The batch does not show in the phase. -/
@[simp] theorem phase_withBatch (s : Session) (batch : Batch) :
    (s.withBatch batch).phase = s.phase := by
  cases s <;> rfl

/-- The batch is the one that was put in. -/
@[simp] theorem batch_withBatch (s : Session) (batch : Batch) :
    (s.withBatch batch).batch = batch := by
  cases s <;> rfl

/-- The router stays. -/
@[simp] theorem router_withBatch (s : Session) (batch : Batch) :
    (s.withBatch batch).router = s.router := by
  cases s <;> rfl

/-- Of two batches that are put in the later one counts. -/
@[simp] theorem withBatch_withBatch (s : Session) (batch other : Batch) :
    (s.withBatch batch).withBatch other = s.withBatch other := by
  cases s <;> rfl

/-- To put in the batch that is there changes nothing. -/
@[simp] theorem withBatch_self (s : Session) : s.withBatch s.batch = s := by
  cases s <;> rfl

/-- To add an operation is to put in a longer batch. -/
theorem add_eq_withBatch (s : Session) (op : Operation) :
    s.add op = s.withBatch (s.batch ++ [op]) := by
  cases s <;> rfl

/-- A session has only collected, when nothing has happened. -/
theorem since_self (s : Session) : s.Since s := .inl ⟨s.batch, s.withBatch_self.symm⟩

section

variable {may : {β : Type} → Call β → β → Prop} {calls : List Exchange} {s₁ s s' : Session}
  {result : Except CallError Unit}

/-- A session with an outbox is over when it is finished in a phase that refuses. -/
theorem Outboxed.isOver_finish (s : Outboxed) {phase : Phase} (result : Except CallError Unit)
    (h : ∃ e, phase.refusal? = some e) :
    (s.finish phase result).Obeys (fun _ => True) fun r => (outboxed r.1).IsOver :=
  (obeys_true s.release).bind fun _ _ => h

/-- A session without an outbox is over then as well. -/
theorem Direct.isOver_finish (s : Direct) {phase : Phase} (result : Except CallError Unit)
    (h : ∃ e, phase.refusal? = some e) :
    (s.finish phase result).Obeys (fun _ => True) fun r => (direct r.1).IsOver :=
  (obeys_true s.release).bind fun _ _ => h

/-- A commit leaves a session alone, or over. -/
theorem Outboxed.since_commit {s : Outboxed} {r : Outboxed × Except CallError Unit}
    (h : s.commit.Runs may calls r) : r.1 = s ∨ (outboxed r.1).IsOver := by
  obtain ⟨e, -, -, rfl⟩ | ⟨-, -, rfl⟩ | ⟨-, later, -, hlater⟩ := runs_gate h
  · exact .inl rfl
  · exact .inl rfl
  -- behind the gate every way through a commit finishes the session
  · refine .inr (Obeys.of_runs (P := fun _ => True) (Q := fun r => (outboxed r.1).IsOver)
      ?_ hlater).2
    split
    · exact isOver_finish s _ ⟨_, rfl⟩
    · next o _ =>
      refine (obeys_true (s.announce o)).bind fun announced _ => ?_
      cases announced with
      | error e => exact isOver_finish s _ ⟨_, rfl⟩
      | ok _ =>
        dsimp only
        split
        · exact isOver_finish s _ ⟨_, rfl⟩
        · next tx _ =>
          refine (obeys_true (s.makeDurable o.sessionId tx)).bind fun durable _ => ?_
          cases durable <;> exact isOver_finish _ _ ⟨_, rfl⟩

/-- A commit leaves a session without an outbox alone, or over. -/
theorem Direct.since_commit {s : Direct} {r : Direct × Except CallError Unit}
    (h : s.commit.Runs may calls r) : r.1 = s ∨ (direct r.1).IsOver := by
  obtain ⟨e, -, -, rfl⟩ | ⟨-, -, rfl⟩ | ⟨-, later, -, hlater⟩ := runs_gate h
  · exact .inl rfl
  · exact .inl rfl
  -- whether the staging is completed or the batch accepted, the session is finished
  · refine .inr (Obeys.of_runs (P := fun _ => True) (Q := fun r => (direct r.1).IsOver)
      ?_ hlater).2
    refine ⟨trivial, fun completed => ?_⟩
    match completed with
    | .error e => exact isOver_finish s _ ⟨_, rfl⟩
    | .ok _ =>
      refine (obeys_true s.dispatchBatch).bind fun dispatched _ => ?_
      cases dispatched <;> exact isOver_finish s _ ⟨_, rfl⟩

/-- A session that is disposed of is over. -/
theorem isOver_dispose (s : Session) : s.dispose.Obeys (fun _ => True) IsOver := by
  cases s with
  | outboxed s =>
    refine Obeys.bind (Q := fun s' => (outboxed s').IsOver) ?_ fun _ hs' => hs'
    -- a session that was disposed of before is over, and any other is released
    unfold Outboxed.dispose
    split
    · next hphase => exact ⟨.disposed, congrArg Phase.refusal? hphase⟩
    · exact (obeys_true s.release).bind fun _ _ => ⟨_, rfl⟩
  | direct s =>
    refine Obeys.bind (Q := fun s' => (direct s').IsOver) ?_ fun _ hs' => hs'
    exact (obeys_true s.release).bind fun _ _ => ⟨_, rfl⟩

/-- What takes no token ends a session. -/
theorem isOver_perform {what : Request} (htoken : what.takesToken = false)
    (hrun : (s.perform what).Runs may calls (some s', result)) : s'.IsOver := by
  cases what with
  -- only two requests take no token, and after one of them there is no session
  | openWith _ | send _ _ | publish _ _ | commit => exact nomatch htoken
  | dispose =>
    have hover : (s.perform .dispose).Obeys (fun _ => True) fun r => ∀ t, r.1 = some t → t.IsOver :=
      Obeys.bind (isOver_dispose s) fun t ht t' ht' => Option.some.inj ht' ▸ ht
    exact (hover.of_runs hrun).2 s' rfl
  | drop =>
    obtain ⟨_, _, _, _, hlast, _⟩ := runs_bind.1 hrun
    exact nomatch (Prod.mk.inj (runs_done.1 hlast).2).1

/-- A commit leaves any session alone, or over. -/
theorem since_commit (hrun : (s.perform .commit).Runs may calls (some s', result)) :
    s' = s ∨ s'.IsOver := by
  -- both sessions in the same way, and what is left is wrapped again
  cases s with
  | outboxed s =>
    obtain ⟨r, hr, hleft, -⟩ := runs_wrapped hrun
    obtain rfl := Option.some.inj hleft
    exact (Outboxed.since_commit hr).imp (congrArg outboxed) id
  | direct s =>
    obtain ⟨r, hr, hleft, -⟩ := runs_wrapped hrun
    obtain rfl := Option.some.inj hleft
    exact (Direct.since_commit hr).imp (congrArg direct) id

/-- What is requested of an open session has it collect, or ends it, or changes nothing. -/
theorem perform_of_opened {what : Request} (hopen : s.phase = .opened)
    (hrun : (s.perform what).Runs may calls (some s', result)) :
    s' = s ∨ (∃ op, s' = s.add op) ∨ s'.IsOver := by
  -- a posting collects or changes nothing; an open session cannot be opened again; the rest ends it
  obtain ⟨p, rfl⟩ | hwhat := what.posting_or
  · obtain ⟨-, -, -, hleft⟩ | ⟨op, -, -, -, -, hleft⟩ := runs_posting hrun
    · exact .inl (Option.some.inj hleft)
    · exact .inr (.inl ⟨op, Option.some.inj hleft⟩)
  · cases what with
    | openWith opening =>
      have hrefused : s.phase.permits (.openWith opening) = .error .alreadyOpen := by
        rw [hopen]
        rfl
      exact .inl (Option.some.inj (runs_refused rfl hrefused hrun).2.1)
    | send m how => exact absurd rfl (hwhat (.send m how))
    | publish m how => exact absurd rfl (hwhat (.publish m how))
    | commit => exact (since_commit hrun).imp_right .inr
    | dispose | drop => exact .inr (.inr (isOver_perform rfl hrun))

/-- Whatever is requested, an open session only collects until it is over. -/
theorem since_perform {what : Request} (hopen : s₁.phase = .opened) (h : s₁.Since s)
    (hrun : (s.perform what).Runs may calls (some s', result)) : s₁.Since s' := by
  -- it has only collected so far, or it is over and refuses what takes the token
  obtain ⟨batch, rfl⟩ | ⟨e, he⟩ := h
  · obtain rfl | ⟨op, rfl⟩ | hover :=
      perform_of_opened ((phase_withBatch s₁ batch).trans hopen) hrun
    · exact .inl ⟨batch, rfl⟩
    · exact .inl ⟨_, by rw [add_eq_withBatch, withBatch_withBatch]⟩
    · exact .inr hover
  · by_cases htoken : what.takesToken = true
    · have hsame := (runs_refused htoken (Phase.permits_of_refusal he what) hrun).2.1
      obtain rfl := Option.some.inj hsame
      exact .inr ⟨e, he⟩
    · exact .inr (isOver_perform (Bool.eq_false_iff.2 htoken) hrun)

/-- What holds after one request holds after many. -/
theorem Used.since {uses : List Use} (h : Used may s uses s') (hopen : s₁.phase = .opened)
    (hs : s₁.Since s) : s₁.Since s' := by
  induction h with
  | none s => exact hs
  | next hrun _ ih => exact ih (since_perform hopen hs hrun)

/-! ### Opening -/

/-- A session that has started well is open with the transaction that it has begun. -/
theorem Outboxed.isOpen_start (s : Outboxed) (opening : Opening) (id : String)
    (countdown : Countdown) :
    (s.start opening id countdown).Obeys (fun _ => True) fun r => r.2 = .ok () → ∃ tx,
      r.1 = { s with
        phase := .opened
        opened := some { sessionId := id, countdown, opening, transaction := some tx } } := by
  -- a session that gives up returns the error that it was given
  have habandon : ∀ {X : Outboxed × Except CallError Unit → Prop} (tx : TransactionId)
      (e : CallError), (s.abandon tx e).Obeys (fun _ => True) fun r => r.2 = .ok () → X r :=
    fun tx e => (obeys_true s.release).bind fun _ _ => ⟨trivial, fun _ => nofun⟩
  refine ⟨trivial, fun begun => ?_⟩
  -- no other reply than these lets the open go well
  match begun with
  | none => exact nofun
  | some (.error e) => exact nofun
  | some (.ok tx) =>
    refine ⟨trivial, fun joined => ?_⟩
    match joined with
    | none => exact habandon tx _
    | some (.error e) => exact habandon tx _
    | some (.ok false) => exact habandon tx _
    | some (.ok true) => exact fun _ => ⟨tx, rfl⟩

/-- What an open that goes well makes of a session with an outbox. -/
theorem Outboxed.runs_open {s s₁ : Outboxed} {opening : Opening}
    (h : (s.openWith opening).Runs may calls (s₁, .ok ())) :
    ∃ id countdown tx, opening.validate = .ok () ∧
      Countdown.initial id opening.commitBudget opening.firstDelay none = .ok countdown ∧
      s₁ = { s with
        phase := .opened
        opened := some { sessionId := id, countdown, opening, transaction := some tx } } := by
  obtain ⟨e, -, -, heq⟩ | ⟨-, -, heq⟩ | ⟨-, later, -, hlater⟩ := runs_gate h
  · exact nomatch (Prod.mk.inj heq).2
  · exact nomatch (Prod.mk.inj heq).2
  -- each of the checks before the start ends the open with an error
  · split at hlater
    · exact nomatch (Prod.mk.inj (runs_done.1 hlater).2).2
    · next hvalid =>
      obtain ⟨first, second, choice, -, hsecond, -⟩ := runs_bind.1 hlater
      cases choice with
      | error e => exact nomatch (Prod.mk.inj (runs_done.1 hsecond).2).2
      | ok id =>
        dsimp only at hsecond
        split at hsecond
        · exact nomatch (Prod.mk.inj (runs_done.1 hsecond).2).2
        · next countdown hcountdown =>
          obtain ⟨tx, hs₁⟩ := ((isOpen_start s opening id countdown).of_runs hsecond).2 rfl
          exact ⟨id, countdown, tx, hvalid, hcountdown, hs₁⟩

/-- A session without an outbox reports what it was finished with. -/
theorem Direct.result_finish {s : Direct} {phase : Phase} {outcome : Except CallError Unit}
    {r : Direct × Except CallError Unit} (h : (s.finish phase outcome).Runs may calls r) :
    r.2 = outcome := by
  obtain ⟨_, _, _, _, hlast, _⟩ := runs_bind.1 h
  rw [(runs_done.1 hlast).2]

/-- What an open that goes well makes of a session without one. -/
theorem Direct.runs_open {s s₁ : Direct} {opening : Opening}
    (h : (s.openWith opening).Runs may calls (s₁, .ok ())) :
    ∃ id, s₁ = { s with phase := .opened, opened := some (id, opening) } := by
  -- refused, cancelled, or opened with an id
  obtain ⟨e, -, -, heq⟩ | ⟨-, -, heq⟩ | ⟨-, later, -, hlater⟩ := runs_gate h
  · exact nomatch (Prod.mk.inj heq).2
  · exact nomatch (Prod.mk.inj heq).2
  · obtain ⟨first, second, choice, -, hsecond, -⟩ := runs_bind.1 hlater
    cases choice with
    | error e => exact nomatch (Prod.mk.inj (runs_done.1 hsecond).2).2
    | ok id =>
      -- the second call opens the staging, and its reply decides
      obtain ⟨reply, last, -, hlast, -⟩ := runs_call.1 hsecond
      match reply with
      | none => exact nomatch result_finish hlast
      | some (.error e) => exact nomatch result_finish hlast
      | some (.ok _) => exact ⟨id, (Prod.mk.inj (runs_done.1 hlast).2).1⟩

/-! ### Committing -/

/-- To let go is no dispatch. -/
theorem Outboxed.only_release (s : Outboxed) : s.release.Only (· ≠ .dispatch) :=
  (obeys_release (fun _ => nofun) nofun).only

/-- To finish is none. -/
theorem Outboxed.only_finish (s : Outboxed) (phase : Phase) (result : Except CallError Unit) :
    (s.finish phase result).Only (· ≠ .dispatch) :=
  s.only_release.bind fun _ => trivial

/-- And to make a batch durable is none either. -/
theorem Outboxed.only_makeDurable (s : Outboxed) (id : String) (tx : TransactionId) :
    (s.makeDurable id tx).Only (· ≠ .dispatch) :=
  (obeys_makeDurable nofun nofun nofun nofun).only

/-- A commit hands one operation to the transport, which announces the session at a reading of the
clock, unless the session refuses it or the caller has cancelled. -/
theorem Outboxed.runs_commit {s : Outboxed} {o : Opened} {r : Outboxed × Except CallError Unit}
    (ho : s.opened = some o) (h : s.commit.Runs may calls r) :
    ((∃ e, r.2 = .error e) ∧ ⟨.isCancelled, false⟩ ∉ calls ∧ dispatches calls = []) ∨
    (s.phase = .opened ∧ ∃ now, ⟨.now, now⟩ ∈ calls ∧
      dispatches calls = [[s.announcement o now]]) := by
  -- refused and cancelled end alike, and behind the gate there is the announcement
  obtain ⟨e, -, rfl, rfl⟩ | ⟨-, rfl, rfl⟩ | ⟨hallowed, later, rfl, hlater⟩ := runs_gate h
  · exact .inl ⟨⟨_, rfl⟩, nofun, rfl⟩
  · exact .inl ⟨⟨_, rfl⟩, by simp, rfl⟩
  · rw [ho] at hlater
    -- the clock is read, the announcement is handed over, and the rest dispatches nothing
    obtain ⟨first, second, announced, hfirst, hsecond, rfl⟩ := runs_bind.1 hlater
    obtain ⟨now, rest, -, hrest, rfl⟩ := runs_call.1 hfirst
    obtain ⟨reply, last, -, hlast, rfl⟩ := runs_call.1 hrest
    refine .inr ⟨(Phase.requireOpen_eq_ok_iff _).1 hallowed, now, ?_, ?_⟩
    · exact List.mem_cons_of_mem _ (List.mem_append_left _ List.mem_cons_self)
    · have hsecond : dispatches second = [] := by
        refine dispatches_of_only ?_ hsecond
        cases announced with
        | error e => exact s.only_finish _ _
        | ok _ =>
          dsimp only
          split
          · exact s.only_finish _ _
          · exact (s.only_makeDurable _ _).bind fun durable => Outboxed.only_finish _ _ _
      have hlast : dispatches last = [] := by
        match reply with
        | none => rw [(runs_done.1 hlast).1]; rfl
        | some (.error e) => rw [(runs_done.1 hlast).1]; rfl
        | some (.ok _) => rw [(runs_done.1 hlast).1]; rfl
      show [s.announcement o now] :: dispatches (last ++ second) = _
      rw [dispatches_append, hlast, hsecond]
      rfl

end

end Session

end Outbox
