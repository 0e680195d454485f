import Mathlib.Data.List.Forall2
import Outbox.Proofs.Uses

/-!
# What a session collects, and what failures leave alone

The batch of a session is made of what the sends and publishes have prepared that went well, and
of nothing else. A request that the session refuses, or whose token is cancelled when it is made,
has no effect. The one record that a session adds to its transaction is that of its batch.

Behind the gate, programs are followed by what all their calls and results have in common
(`Program.Obeys`); what is refused before any collaborator is called is told apart (`Session.Ends`).

* `Session.ends_perform`     how a request ends that collects nothing
* `Session.batch_perform`    what a use does to the batch
* `Session.orderly_perform`  what a request that fails leaves alone, and what is stored
* `Session.batch_exact`      both, for every new session and all of its uses
-/

namespace Outbox

open Program

/-- The record that a call adds to a transaction. -/
def Call.record? {β : Type} : Call β → Option Record
  | .addRecord _ record _ => some record
  | .unlessCancelled c => c.record?
  | _ => none

/-- Only one kind of call adds a record. -/
theorem Call.record?_eq_none {β : Type} {c : Call β} (h : c.kind ≠ .addRecord) :
    c.record? = none := by
  -- a call that waits for a cancellation adds what the call in it adds
  induction c with
  | addRecord store record tx => exact absurd rfl h
  | unlessCancelled c ih => exact ih h
  | _ => rfl

/-- A call that no collaborator gets leaves stores and transport alone. -/
theorem World.answer_inward (cancelled : Bool) {β : Type} {c : Call β} (h : c.kind = .inward)
    (w : World) : (World.answer cancelled c w).2.database = w.database ∧
      (World.answer cancelled c w).2.transport = w.transport := by
  induction c with
  | now | freshId | isCancelled => exact ⟨rfl, rfl⟩
  -- a call that is not made changes nothing at all
  | unlessCancelled c ih =>
    cases cancelled with
    | true => exact ⟨rfl, rfl⟩
    | false => exact ih h
  | _ => exact nomatch h

/-- A program that calls no collaborator leaves stores and transport alone. -/
theorem World.run_of_outward_eq_nil (cancelled : Bool) {α : Type} (p : Program α) (w : World)
    (h : outward (p.trace (World.answer cancelled) w) = []) :
    (w.run cancelled p).2.database = w.database ∧
      (w.run cancelled p).2.transport = w.transport := by
  -- on the program; an outward call would stand in the trace
  induction p generalizing w with
  | done a => exact ⟨rfl, rfl⟩
  | call c next ih =>
    obtain ⟨hfirst, hrest⟩ := List.forall_mem_cons.1 (outward_eq_nil_iff.1 h)
    obtain ⟨hdatabase, htransport⟩ := World.answer_inward cancelled hfirst w
    -- the first call keeps both, and the rest goes on from the world that it leaves
    have hrest := ih (World.answer cancelled c w).1 (World.answer cancelled c w).2
      (outward_eq_nil_iff.2 hrest)
    exact ⟨hrest.1.trans hdatabase, hrest.2.trans htransport⟩

namespace Session

/-- A record that a call adds is the one of the session: under its id, with its batch, and nothing
of it dispatched. -/
def Stores (s : Session) {β : Type} (c : Call β) : Prop :=
  ∀ record, c.record? = some record →
    s.sessionId? = some record.id ∧ record.operations = s.batch.map (⟨·, false⟩)

/-- The batch of a session, and where its messages go, are as they were. -/
def Preserves (s s' : Session) : Prop := s'.batch = s.batch ∧ s'.router = s.router

/-- A result that does not blame the caller. -/
def Fair (result : Except CallError Unit) : Prop := ∀ e, result ≠ .error (.misuse e)

/-- A failure of the store is not the fault of the caller. -/
theorem fair_store (e : StoreError) : Fair (.error (.ofStore e)) := by
  cases e <;> exact nofun

section

variable {P : {β : Type} → Call β → Prop}

namespace Outboxed

variable (hP : ∀ {β : Type} (c : Call β), c.record? = none → P c) (s : Outboxed)

include hP

/-- To release a session takes nothing out of its batch. -/
theorem preserves_release :
    s.release.Obeys P fun s' => Preserves (.outboxed s) (.outboxed s') := by
  refine (obeys_release (fun _ => hP _ rfl) (hP _ rfl)).mono fun s' hs' => ?_
  rw [hs']
  exact ⟨rfl, rfl⟩

/-- Nor does the end of a commit, and what is reported there is what it was given. -/
theorem obeys_finish (phase : Phase) {result : Except CallError Unit} (h : Fair result) :
    (s.finish phase result).Obeys P fun r => Preserves (.outboxed s) (.outboxed r.1) ∧ Fair r.2 :=
  (preserves_release hP s).bind fun _ hs' => ⟨hs', h⟩

/-- Nor does giving an opening up. -/
theorem obeys_abandon (tx : TransactionId) {e : CallError} (h : Fair (.error e)) :
    (s.abandon tx e).Obeys P fun r => Preserves (.outboxed s) (.outboxed r.1) ∧ Fair r.2 :=
  (preserves_release hP s).bind fun _ hs' => ⟨hP _ rfl, fun _ => ⟨hs', h⟩⟩

/-- An opening that starts collects nothing, and what goes wrong is not the fault of the caller. -/
theorem obeys_start (opening : Opening) (id : String) (countdown : Countdown) :
    (s.start opening id countdown).Obeys P
      fun r => Preserves (.outboxed s) (.outboxed r.1) ∧ Fair r.2 := by
  refine ⟨hP _ rfl, fun begun => ?_⟩
  -- each reply that lets the opening fail has the session released, if it has anything
  match begun with
  | none => exact ⟨⟨rfl, rfl⟩, nofun⟩
  | some (.error e) => exact ⟨⟨rfl, rfl⟩, fair_store e⟩
  | some (.ok tx) =>
    refine ⟨hP _ rfl, fun joined => ?_⟩
    match joined with
    | none => exact obeys_abandon hP s tx nofun
    | some (.error e) => exact obeys_abandon hP s tx (fair_store e)
    | some (.ok false) => exact obeys_abandon hP s tx nofun
    | some (.ok true) => exact ⟨⟨rfl, rfl⟩, nofun⟩

/-- To dispose of a session takes nothing out of its batch. -/
theorem obeys_dispose :
    s.dispose.Obeys P fun s' => Preserves (.outboxed s) (.outboxed s') := by
  unfold dispose
  split
  · exact ⟨rfl, rfl⟩
  · exact (preserves_release hP s).bind fun _ hs' => hs'

/-- An announcement fails because of the transport, or because the caller has cancelled. -/
theorem obeys_announce (o : Opened) : (s.announce o).Obeys P Fair := by
  refine ⟨hP _ rfl, fun now => ⟨hP _ rfl, fun reply => ?_⟩⟩
  match reply with
  | none => exact nofun
  | some (.error e) => exact nofun
  | some (.ok _) => exact nofun

omit hP in
/-- The one record that is added is that of the session. -/
theorem stores_makeDurable (s : Outboxed) {id : String} (tx : TransactionId)
    (hid : s.sessionId? = some id) :
    (s.makeDurable id tx).Obeys (Session.outboxed s).Stores Fair := by
  have hrecord : (Session.outboxed s).Stores (.addRecord s.store (.new id s.batch) tx) := by
    intro record hrecord
    obtain rfl := Option.some.inj hrecord
    exact ⟨hid, rfl⟩
  refine (obeys_makeDurable nofun hrecord nofun nofun).mono fun durable hfailed e he => ?_
  -- a failure of the three calls is one of the store
  obtain ⟨e', he'⟩ := hfailed _ he
  exact fair_store e' e (congrArg Except.error he'.symm)

end Outboxed

namespace Direct

variable (hP : ∀ {β : Type} (c : Call β), c.record? = none → P c) (s : Direct)

include hP

/-- To release a session without an outbox takes nothing out of its batch. -/
theorem preserves_release : s.release.Obeys P fun s' => Preserves (.direct s) (.direct s') := by
  unfold release
  split
  · exact ⟨rfl, rfl⟩
  · exact ⟨hP _ rfl, fun _ => ⟨rfl, rfl⟩⟩

/-- Nor does the end of its commit. -/
theorem obeys_finish (phase : Phase) {result : Except CallError Unit} (h : Fair result) :
    (s.finish phase result).Obeys P fun r => Preserves (.direct s) (.direct r.1) ∧ Fair r.2 :=
  (preserves_release hP s).bind fun _ hs' => ⟨hs', h⟩

/-- Nor does disposing of it. -/
theorem obeys_dispose : s.dispose.Obeys P fun s' => Preserves (.direct s) (.direct s') :=
  (preserves_release hP s).bind fun _ hs' => hs'

/-- The batch is handed over in one call, and no record is added. -/
theorem obeys_dispatchBatch : s.dispatchBatch.Obeys P fun _ => True := by
  unfold dispatchBatch
  split
  · exact trivial
  · exact ⟨hP _ rfl, fun _ => trivial⟩

end Direct

end

/-! ### How requests end -/

/-- A request is refused as misuse before any collaborator is called, or it does its work and does
not blame the caller. -/
def Ends (s : Session) (calls : List Exchange) (left : Option Session)
    (result : Except CallError Unit) : Prop :=
  (∃ e, result = .error (.misuse e) ∧ outward calls = [] ∧ left = some s) ∨
  (Fair result ∧ (∀ s', left = some s' → Preserves s s') ∧ ∀ e ∈ calls, s.Stores e.call)

section

variable {may : {β : Type} → Call β → β → Prop} {calls : List Exchange}

/-- To go through the gate is to be refused, to be cancelled, or to do what is behind it. -/
theorem ends_gate {σ : Type} {s : σ} {wrap : σ → Session} {allowed : Except Misuse Unit}
    {rest : Program (σ × Except CallError Unit)} {r : σ × Except CallError Unit}
    (h : (gate allowed (fun e => (s, .error e)) rest).Runs may calls r)
    (hrest : ∀ later, allowed = .ok () → rest.Runs may later r →
      Ends (wrap s) later (some (wrap r.1)) r.2) :
    Ends (wrap s) calls (some (wrap r.1)) r.2 := by
  -- only who is let through reaches what is behind the gate
  obtain ⟨e, -, rfl, rfl⟩ | ⟨-, rfl, rfl⟩ | ⟨hallowed, later, rfl, hlater⟩ := runs_gate h
  · exact .inl ⟨e, rfl, rfl, rfl⟩
  · refine .inr ⟨nofun, fun s' hs' => ?_, fun e he => ?_⟩
    · obtain rfl := Option.some.inj hs'
      exact ⟨rfl, rfl⟩
    · obtain rfl := List.mem_singleton.1 he
      exact nofun
  · obtain ⟨e, hresult, hout, hself⟩ | ⟨hfair, hpreserves, hstores⟩ := hrest later hallowed hlater
    · exact .inl ⟨e, hresult, hout, hself⟩
    · exact .inr ⟨hfair, hpreserves, List.forall_mem_cons.2 ⟨nofun, hstores⟩⟩

/-- What does not blame the caller ends as it should. -/
theorem ends_of_obeys {σ : Type} {s : σ} {wrap : σ → Session}
    {p : Program (σ × Except CallError Unit)} {r : σ × Except CallError Unit}
    (hp : p.Obeys (wrap s).Stores fun r => Preserves (wrap s) (wrap r.1) ∧ Fair r.2)
    (h : p.Runs may calls r) : Ends (wrap s) calls (some (wrap r.1)) r.2 := by
  obtain ⟨hcalls, hpreserves, hfair⟩ := hp.of_runs h
  refine .inr ⟨hfair, fun s' hs' => ?_, hcalls⟩
  obtain rfl := Option.some.inj hs'
  exact hpreserves

/-- A call without a record is none that stores a wrong one. -/
theorem stores_of_none (s : Session) {β : Type} (c : Call β) (h : c.record? = none) :
    s.Stores c := by
  intro record hrecord
  exact nomatch h.symm.trans hrecord

/-- A call that no collaborator gets adds no record. -/
theorem stores_of_outward_eq_nil (s : Session) (h : outward calls = []) :
    ∀ e ∈ calls, s.Stores e.call := by
  intro e he
  have hinward := outward_eq_nil_iff.1 h e he
  exact stores_of_none s _ (Call.record?_eq_none fun hkind => nomatch hinward.symm.trans hkind)

/-- Calls that no collaborator gets come before what is done. -/
theorem Ends.cons_quiet {s : Session} {left : Option Session} {result : Except CallError Unit}
    {first second : List Exchange} (hfirst : outward first = [])
    (h : Ends s second left result) : Ends s (first ++ second) left result := by
  obtain ⟨e, hresult, hout, hself⟩ | ⟨hfair, hpreserves, hstores⟩ := h
  · refine .inl ⟨e, hresult, ?_, hself⟩
    rw [outward_append, hfirst, hout, List.nil_append]
  · exact .inr ⟨hfair, hpreserves,
      List.forall_mem_append.2 ⟨stores_of_outward_eq_nil s hfirst, hstores⟩⟩

/-- An open is refused before any collaborator is called, or it starts. -/
theorem Outboxed.ends_openWith {s : Outboxed} {opening : Opening}
    {r : Outboxed × Except CallError Unit} (h : (s.openWith opening).Runs may calls r) :
    Ends (.outboxed s) calls (some (.outboxed r.1)) r.2 := by
  refine ends_gate h fun later _ hrest => ?_
  -- behind the gate it may still be refused: for its delay, for its id, or for a long budget
  split at hrest
  · obtain ⟨rfl, rfl⟩ := runs_done.1 hrest
    exact .inl ⟨_, rfl, rfl, rfl⟩
  -- to choose an id calls nobody, so a refusal for its sake is as quiet as one at the gate
  · obtain ⟨first, second, choice, hfirst, hsecond, rfl⟩ := runs_bind.1 hrest
    refine Ends.cons_quiet ((quiet_chooseId _).outward_eq_nil hfirst) ?_
    cases choice with
    | error e =>
      obtain ⟨rfl, rfl⟩ := runs_done.1 hsecond
      exact .inl ⟨_, rfl, rfl, rfl⟩
    | ok id =>
      dsimp only at hsecond
      split at hsecond
      · obtain ⟨rfl, rfl⟩ := runs_done.1 hsecond
        exact .inl ⟨_, rfl, rfl, rfl⟩
      · exact ends_of_obeys (obeys_start (stores_of_none _) s _ _ _) hsecond

/-- An open without an outbox is refused for its id alone. -/
theorem Direct.ends_openWith {s : Direct} {opening : Opening}
    {r : Direct × Except CallError Unit} (h : (s.openWith opening).Runs may calls r) :
    Ends (.direct s) calls (some (.direct r.1)) r.2 := by
  refine ends_gate h fun later _ hrest => ?_
  -- the id is chosen before anything is called, as with an outbox
  obtain ⟨first, second, choice, hfirst, hsecond, rfl⟩ := runs_bind.1 hrest
  refine Ends.cons_quiet ((quiet_chooseId _).outward_eq_nil hfirst) ?_
  cases choice with
  | error e =>
    obtain ⟨rfl, rfl⟩ := runs_done.1 hsecond
    exact .inl ⟨_, rfl, rfl, rfl⟩
  | ok id =>
    refine ends_of_obeys ?_ hsecond
    -- what comes behind the checks is one call, and its reply decides
    refine ⟨stores_of_none _ _ rfl, fun reply => ?_⟩
    match reply with
    | none => exact obeys_finish (stores_of_none _) s _ nofun
    | some (.error e) => exact obeys_finish (stores_of_none _) s _ (fair_store e)
    | some (.ok _) => exact ⟨⟨rfl, rfl⟩, nofun⟩

/-- An open session has a transaction, so its commit never finds it closed. -/
theorem Outboxed.ends_commit {s : Outboxed} (htidy : s.Tidy)
    {r : Outboxed × Except CallError Unit} (h : s.commit.Runs may calls r) :
    Ends (.outboxed s) calls (some (.outboxed r.1)) r.2 := by
  refine ends_gate h fun later hallowed hrest => ?_
  have hphase := (Phase.requireOpen_eq_ok_iff _).1 hallowed
  -- an open session that is in order holds its opening and a transaction
  obtain ⟨-, o, tx, ho, htx, -⟩ := htidy.opened hphase
  rw [ho] at hrest
  refine ends_of_obeys ?_ hrest
  refine (obeys_announce (stores_of_none _) s o).bind fun announced hfair => ?_
  cases announced with
  | error e => exact obeys_finish (stores_of_none _) s _ hfair
  | ok _ =>
    dsimp only
    rw [htx]
    refine (stores_makeDurable s tx ?_).bind fun durable hdurable => ?_
    · show s.opened.map _ = _
      rw [ho]
      rfl
    · exact obeys_finish (stores_of_none _) s.withoutTransaction _ hdurable

/-- A commit without an outbox calls the collaborators or is refused at the gate. -/
theorem Direct.ends_commit {s : Direct} {r : Direct × Except CallError Unit}
    (h : s.commit.Runs may calls r) : Ends (.direct s) calls (some (.direct r.1)) r.2 := by
  refine ends_gate h fun later _ hrest => ?_
  refine ends_of_obeys ?_ hrest
  -- the changes are handed over first; only then is the batch looked at
  refine ⟨stores_of_none _ _ rfl, fun completed => ?_⟩
  match completed with
  | .error e => exact obeys_finish (stores_of_none _) s _ (fair_store e)
  | .ok _ =>
    refine (obeys_dispatchBatch (stores_of_none _) s).bind fun dispatched _ => ?_
    cases dispatched with
    | error e => exact obeys_finish (stores_of_none _) s _ nofun
    | ok _ => exact obeys_finish (stores_of_none _) s _ nofun

/-! ### Requests on a session of either kind -/

/-- What holds of a session between two requests. -/
def Tidy : Session → Prop
  | outboxed s => s.Tidy
  | direct _ => True

/-- A new session is in order, whichever its kind. -/
theorem New.tidy {s : Session} (h : s.New) : s.Tidy := by
  cases h with
  | outboxed => exact Outboxed.tidy_of_unopened rfl rfl rfl
  | direct => exact trivial

variable {s s' : Session} {left : Option Session} {result : Except CallError Unit}
  {what : Request}

/-- Requests keep a session in order. -/
theorem tidy_perform (h : s.Tidy)
    (hrun : (s.perform what).Runs may calls (some s', result)) : s'.Tidy := by
  -- with an outbox this is what follows from the course that the session takes
  cases s with
  | outboxed s =>
    obtain ⟨hleft, -⟩ | ⟨t, hleft, hadvances⟩ := follows_perform h hrun
    · exact nomatch hleft
    · obtain rfl := Option.some.inj hleft
      exact hadvances.tidy
  | direct s =>
    -- there is nothing to keep, only to see that what is left is a session without an outbox
    cases what with
    | openWith opening | send m how | publish m how | commit =>
      obtain ⟨r, -, hleft, -⟩ := runs_wrapped hrun
      obtain rfl := Option.some.inj hleft
      exact trivial
    | dispose =>
      obtain ⟨first, second, t, hfirst, hsecond, -⟩ := runs_bind.1 hrun
      obtain ⟨-, heq⟩ := runs_done.1 hsecond
      obtain rfl := Option.some.inj (Prod.mk.inj heq).1
      obtain ⟨-, last, d, -, hlast, -⟩ := runs_bind.1 hfirst
      obtain ⟨-, rfl⟩ := runs_done.1 hlast
      exact trivial
    | drop =>
      obtain ⟨first, second, t, -, hsecond, -⟩ := runs_bind.1 hrun
      obtain ⟨-, heq⟩ := runs_done.1 hsecond
      exact nomatch (Prod.mk.inj heq).1

/-- To dispose of a session of either kind leaves its batch alone. -/
theorem obeys_dispose (s : Session) : s.dispose.Obeys s.Stores (Preserves s) := by
  cases s with
  | outboxed s =>
    exact Obeys.bind (Outboxed.obeys_dispose (stores_of_none _) s) fun _ hs' => hs'
  | direct s =>
    exact Obeys.bind (Direct.obeys_dispose (stores_of_none _) s) fun _ hs' => hs'

/-- To drop one adds no record. -/
theorem obeys_drop (s : Session) : s.drop.Obeys s.Stores fun _ => True := by
  cases s with
  | outboxed s =>
    exact Obeys.bind (Outboxed.preserves_release (stores_of_none _) s) fun _ _ => trivial
  | direct s => exact Obeys.bind (Direct.preserves_release (stores_of_none _) s) fun _ _ => trivial

/-- Whatever is requested but to collect a message. -/
theorem ends_perform (h : s.Tidy) (hwhat : ∀ p : Posting, what ≠ p.request)
    (hrun : (s.perform what).Runs may calls (left, result)) : Ends s calls left result := by
  -- one case for each request; a posting has been excluded
  cases what with
  | openWith opening =>
    cases s with
    | outboxed s =>
      obtain ⟨r, hr, rfl, rfl⟩ := runs_wrapped hrun
      exact Outboxed.ends_openWith hr
    | direct s =>
      obtain ⟨r, hr, rfl, rfl⟩ := runs_wrapped hrun
      exact Direct.ends_openWith hr
  | send m how => exact absurd rfl (hwhat (.send m how))
  | publish m how => exact absurd rfl (hwhat (.publish m how))
  | commit =>
    cases s with
    | outboxed s =>
      obtain ⟨r, hr, rfl, rfl⟩ := runs_wrapped hrun
      exact Outboxed.ends_commit h hr
    | direct s =>
      obtain ⟨r, hr, rfl, rfl⟩ := runs_wrapped hrun
      exact Direct.ends_commit hr
  | dispose =>
    have hdispose : (s.perform .dispose).Obeys s.Stores fun r =>
        Fair r.2 ∧ ∀ s', r.1 = some s' → Preserves s s' := by
      -- a session that is disposed of is never refused
      refine Obeys.bind (obeys_dispose s) fun t ht => ⟨nofun, fun s' hs' => ?_⟩
      obtain rfl := Option.some.inj hs'
      exact ht
    obtain ⟨hcalls, hfair, hpreserves⟩ := hdispose.of_runs hrun
    exact .inr ⟨hfair, hpreserves, hcalls⟩
  | drop =>
    have hdrop : (s.perform .drop).Obeys s.Stores fun r => r = (none, .ok ()) :=
      Obeys.bind (obeys_drop s) fun _ _ => rfl
    obtain ⟨hcalls, heq⟩ := hdrop.of_runs hrun
    obtain ⟨rfl, rfl⟩ := Prod.mk.inj heq
    exact .inr ⟨fun _ => nofun, fun _ => nofun, hcalls⟩

/-! ### What a session collects -/

/-- A request to collect a message fails and changes nothing, or adds the operation that it
prepared. -/
theorem batch_posting {p : Posting}
    (h : (s.perform p.request).Runs may calls (some s', result)) :
    (∃ e, result = .error e ∧ s' = s) ∨
      ∃ op, Use.Prepares may s.router ⟨p.request, calls, result⟩ op ∧ result = .ok () ∧
        s' = s.add op := by
  obtain ⟨e, rfl, -, hleft⟩ | ⟨op, later, rfl, rfl, hprepare, hleft⟩ := runs_posting h
  · exact .inl ⟨e, rfl, Option.some.inj hleft⟩
  · exact .inr ⟨op, ⟨p, later, rfl, rfl, hprepare⟩, rfl, Option.some.inj hleft⟩

/-- A use adds an operation to the batch if it has collected one, and nothing otherwise. -/
theorem batch_perform {use : Use} (h : s.Tidy)
    (hrun : (s.perform use.what).Runs may use.calls (some s', use.result)) :
    s'.router = s.router ∧
      ((use.collected = true ∧ ∃ op, use.Prepares may s.router op ∧ s'.batch = s.batch ++ [op]) ∨
        (use.collected = false ∧ s'.batch = s.batch)) := by
  obtain ⟨what, calls, result⟩ := use
  -- only what collects can add to the batch; all other requests have been dealt with before
  obtain ⟨p, rfl⟩ | hwhat := what.posting_or
  · obtain ⟨e, rfl, rfl⟩ | ⟨op, hop, rfl, rfl⟩ := batch_posting hrun
    -- what is refused leaves the session, and what is collected adds its operation
    · exact ⟨rfl, .inr ⟨Use.collected_error p calls e, rfl⟩⟩
    · exact ⟨router_add s op, .inl ⟨Use.collected_ok p calls, op, hop, batch_add s op⟩⟩
  · have hnot : Use.collected ⟨what, calls, result⟩ = false := Use.collected_eq_false hwhat
    obtain ⟨-, -, -, hleft⟩ | ⟨-, hpreserves, -⟩ := ends_perform h hwhat hrun
    · obtain rfl := Option.some.inj hleft
      exact ⟨rfl, .inr ⟨hnot, rfl⟩⟩
    · obtain ⟨hbatch, hrouter⟩ := hpreserves s' rfl
      exact ⟨hrouter, .inr ⟨hnot, hbatch⟩⟩

/-- The batch of a session that has been used is the old one and what the uses have collected
since. -/
theorem Used.batch {uses : List Use} (h : Used may s uses s') (htidy : s.Tidy) :
    s'.Tidy ∧ ∃ ops, s'.batch = s.batch ++ ops ∧
      List.Forall₂ (Use.Prepares may s.router) (uses.filter Use.collected) ops := by
  -- by induction on the uses; what keeps the induction going is that the session stays in order
  induction h with
  | none s => exact ⟨htidy, [], (List.append_nil _).symm, .nil⟩
  | next hrun _ ih =>
    obtain ⟨hs', ops, hbatch, hops⟩ := ih (tidy_perform htidy hrun)
    obtain ⟨hrouter, ⟨hcollected, op, hop, hadded⟩ | ⟨hnot, hsame⟩⟩ := batch_perform htidy hrun
    -- the first use has collected one operation, and the later ones go behind it
    · refine ⟨hs', op :: ops, ?_, ?_⟩
      · rw [hbatch, hadded, List.append_assoc]
        rfl
      · rw [List.filter_cons_of_pos hcollected]
        exact .cons hop (hrouter ▸ hops)
    · refine ⟨hs', ops, ?_, ?_⟩
      · rw [hbatch, hsame]
      · rw [List.filter_cons_of_neg (by rw [hnot]; decide)]
        exact hrouter ▸ hops

/-! ### What failures leave alone -/

/-- A request that has no effect: no collaborator is called, the session is what it was, and in a
world stores and transport are. -/
structure Untouched (s : Session) (what : Request) (calls : List Exchange)
    (left : Option Session) : Prop where
  outward : outward calls = []
  left : left = some s
  world : ∀ (w : World) (cancelled : Bool),
    calls = (s.perform what).trace (World.answer cancelled) w →
    (w.run cancelled (s.perform what)).2.database = w.database ∧
      (w.run cancelled (s.perform what)).2.transport = w.transport

/-- A request that calls nobody has no effect in any world that it could have run in. -/
theorem untouched (hout : outward calls = []) (hleft : left = some s) :
    Untouched s what calls left where
  outward := hout
  left := hleft
  world w cancelled htrace := by
    rw [htrace] at hout
    exact World.run_of_outward_eq_nil cancelled _ w hout

/-- A request on a session that fails does so without harm, and a record that is stored is the one
of the session. -/
structure Orderly (s : Session) (what : Request) (calls : List Exchange) (left : Option Session)
    (result : Except CallError Unit) : Prop where
  /-- Misuse has no effect. -/
  misuse : ∀ e, result = .error (.misuse e) → Untouched s what calls left
  /-- A request whose token is cancelled when it is made has no effect. -/
  cancelled : what.takesToken = true → (∀ b, ⟨.isCancelled, b⟩ ∈ calls → b = true) →
    Untouched s what calls left
  /-- A session that is over refuses whatever takes a token. -/
  refused : ∀ e, s.phase.refusal? = some e → what.takesToken = true → result = .error (.misuse e)
  stored : ∀ e ∈ calls, s.Stores e.call

/-- Every request on a session in order is orderly. -/
theorem orderly_perform (h : s.Tidy) (hrun : (s.perform what).Runs may calls (left, result)) :
    Orderly s what calls left result where
  -- a misuse is found before any collaborator is called
  misuse e hresult := by
    obtain ⟨p, rfl⟩ | hwhat := what.posting_or
    · obtain ⟨-, -, hout, hleft⟩ | ⟨-, -, hok, -⟩ := runs_posting hrun
      · exact untouched hout hleft
      · exact nomatch hresult.symm.trans hok
    · obtain ⟨-, -, hout, hleft⟩ | ⟨hfair, -⟩ := ends_perform h hwhat hrun
      · exact untouched hout hleft
      · exact absurd hresult (hfair e)
  cancelled htoken hcancelled := by
    obtain ⟨rest, hgate⟩ := s.perform_eq_gate what htoken
    rw [hgate] at hrun
    -- whatever takes a token asks for it at the gate, so a request that passes was not cancelled
    -- there
    obtain ⟨e, -, rfl, heq⟩ | ⟨-, rfl, heq⟩ | ⟨-, later, rfl, -⟩ := runs_gate hrun
    · exact untouched rfl (Prod.mk.inj heq).1
    · exact untouched rfl (Prod.mk.inj heq).1
    · exact nomatch hcancelled false List.mem_cons_self
  refused e hrefusal htoken :=
    (runs_refused htoken (Phase.permits_of_refusal hrefusal what) hrun).2.2
  stored := by
    obtain ⟨p, rfl⟩ | hwhat := what.posting_or
    -- to collect a message stores nothing: no collaborator is called
    · obtain ⟨-, -, hout, -⟩ | ⟨op, later, -, rfl, hprepare, -⟩ := runs_posting hrun
      · exact stores_of_outward_eq_nil s hout
      · have hout : outward later = [] := (quiet_prepare _ _).outward_eq_nil hprepare
        exact List.forall_mem_cons.2 ⟨nofun, stores_of_outward_eq_nil s hout⟩
    · obtain ⟨-, -, hout, -⟩ | ⟨-, -, hstores⟩ := ends_perform h hwhat hrun
      · exact stores_of_outward_eq_nil s hout
      · exact hstores

/-- However a new session has been used, its batch is what was prepared by the sends and publishes
that went well, in their order, and the next request on it is orderly. -/
theorem batch_exact {s₀ : Session} {uses : List Use} (hnew : s₀.New) (h : Used may s₀ uses s) :
    List.Forall₂ (Use.Prepares may s₀.router) (uses.filter Use.collected) s.batch ∧
      ∀ {what calls left result}, (s.perform what).Runs may calls (left, result) →
        Orderly s what calls left result := by
  obtain ⟨htidy, ops, hbatch, hops⟩ := h.batch hnew.tidy
  refine ⟨?_, orderly_perform htidy⟩
  -- a new session has collected nothing, so all of its batch comes from the uses
  have hempty : s₀.batch = [] := by cases hnew <;> rfl
  rw [hbatch, hempty]
  exact hops

end

/-- A session whose messages of one type have a queue. -/
def greeter : Session :=
  .outboxed
    { store := "db", staging := 0, router := { routes := .ofList [("greeting", "inbox")] }
      processorAddress := "processor" }

/-- It is opened and collects two messages, while one has no queue and one is cancelled. -/
def greeterUses : List Use × Session × World :=
  greeter.usesIn { clock := { start := .epoch }, database := (Database.newStaging {} "db").2 }
    [(.openWith { sessionId := some "a" }, false), (.send { messageType := "greeting" } {}, false),
      (.send { messageType := "reminder" } {}, false),
      (.send { messageType := "greeting" } {}, true),
      (.publish { messageType := "greeted" } {}, false)]

/-- What its commit calls. -/
def greeterCalls : List Exchange :=
  (greeterUses.2.1.perform .commit).trace (World.answer false) greeterUses.2.2

/-- How its commit ends. -/
def greeterCommit : Option Session × Except CallError Unit :=
  (greeterUses.2.2.run false (greeterUses.2.1.perform .commit)).1

/-- The greeter collects two messages; the others fail and leave no trace, and the commit stores the
two. -/
theorem batch_exact_greeter :
    greeter.New ∧ Used (fun _ _ => True) greeter greeterUses.1 greeterUses.2.1 ∧
      (greeterUses.2.1.perform .commit).Runs (fun _ _ => True) greeterCalls greeterCommit ∧
      greeterUses.1.map (·.result) = [.ok (), .ok (), .error (.misuse (.unroutable "reminder")),
        .error .cancelled, .ok ()] ∧
      List.Forall₂ (Use.Prepares (fun _ _ => True) greeter.router)
        (greeterUses.1.filter Use.collected) greeterUses.2.1.batch ∧
      greeterUses.2.1.batch.map (·.message.id) = ["0", "1"] ∧
      Orderly greeterUses.2.1 .commit greeterCalls greeterCommit.1 greeterCommit.2 ∧
      greeterCommit.2 = .ok () ∧
      greeterCalls.filterMap (·.call.record?) = [.new "a" greeterUses.2.1.batch] := by
  have hnew : greeter.New := .outboxed ..
  have hused : Used (fun _ _ => True) greeter greeterUses.1 greeterUses.2.1 := used_usesIn ..
  have hcommit : (greeterUses.2.1.perform .commit).Runs (fun _ _ => True) greeterCalls
      greeterCommit := runs_trace (fun _ _ => trivial) _ _
  obtain ⟨hbatch, horderly⟩ := batch_exact hnew hused
  exact ⟨hnew, hused, hcommit, by decide +kernel, hbatch, by decide +kernel, horderly hcommit,
    by decide +kernel, by decide +kernel⟩

end Session

end Outbox
