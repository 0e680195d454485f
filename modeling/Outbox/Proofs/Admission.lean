import Mathlib.Data.List.Basic
import Outbox.Proofs.Agreement

/-!
# What a session with an outbox can be opened with

An opening is in order when its delay is above zero, its id is not blank, and both durations are
spans. A session with an outbox refuses every other opening before any collaborator hears of it,
and stays as it was. What it says of the opening is true with one exception: a delay that is no
span is put down to the commit budget.

* `Occasion.Smooth`                            collaborators that do all they are asked
* `Opening.Violates`                         what is not in order about an opening
* `Session.Outboxed.openWith_eq`             an open examines the opening and then starts
* `Session.Outboxed.open_rejects_exactly`    which openings are refused, and how
-/

namespace Outbox

open Program Time

/-! ### Occasions on which all goes well -/

/-- What the clock, the source of ids and the caller say while a session serves one request. -/
structure Occasion where
  now : Instant
  freshId : String
  cancelled : Bool := false

namespace Occasion

/-- The replies of collaborators that do what they are asked. -/
def answer (m : Occasion) : {β : Type} → Call β → β
  | _, .now => m.now
  | _, .freshId => m.freshId
  | _, .isCancelled => m.cancelled
  | _, .beginTransaction _ _ => .ok 0
  | _, .attach _ _ _ => .ok true
  | _, .openStaging _ _ | _, .complete _ | _, .addRecord _ _ _ | _, .commit _
  | _, .setDispatched _ _ => .ok ()
  | _, .closeStaging _ | _, .rollback _ | _, .observe _ => ()
  | _, .getRecord _ _ => .ok none
  | _, .dispatch _ => .ok ()
  | _, .handle _ => .ok ()
  | _, .unlessCancelled c => if m.cancelled then none else some (m.answer c)

/-- A reply that says that all went well. Which transaction a store begins, and what it finds, is
left to the store. -/
def Smooth (m : Occasion) : {β : Type} → Call β → β → Prop
  | _, .beginTransaction _ _, reply => ∃ tx, reply = .ok tx
  | _, .getRecord _ _, reply => ∃ record, reply = .ok record
  | _, .unlessCancelled c, reply =>
    if m.cancelled then reply = none else ∃ inner, reply = some inner ∧ m.Smooth c inner
  | _, c, reply => reply = m.answer c

/-- Whoever answers as on the occasion says that all went well. -/
theorem smooth_answer (m : Occasion) {β : Type} (c : Call β) : m.Smooth c (m.answer c) := by
  induction c with
  | beginTransaction store hints => exact ⟨0, rfl⟩
  | getRecord store id => exact ⟨none, rfl⟩
  | unlessCancelled c ih =>
    -- the relation is by recursion on the call, so it is unfolded by hand for this one
    show if m.cancelled then _ else _
    by_cases hm : m.cancelled = true
    · simp [hm, answer]
    · simp [hm, answer, ih]
  | _ => rfl

/-- A caller that has not cancelled hears the reply to the call itself. -/
theorem smooth_unlessCancelled {m : Occasion} {β : Type} {c : Call β} {reply : Option β}
    (hm : m.cancelled = false) (h : m.Smooth (.unlessCancelled c) reply) :
    ∃ inner, reply = some inner ∧ m.Smooth c inner := by
  simpa [Smooth, hm] using h

end Occasion

/-! ### Openings in order -/

namespace Countdown

variable {id : String} {maximum increment : Nat} {timeSent : Option Instant}

/-- There is no first countdown exactly when one of the durations is no span. -/
theorem initial_eq_error_iff {e : HeaderError} :
    initial id maximum increment timeSent = .error e ↔
      e = .tooLong ∧ (Span.limit < maximum ∨ Span.limit < increment) := by
  -- a natural number can leave the range of spans only at its upper end
  have hnone : ∀ n : Nat, Span.ofNanos? n = none ↔ Span.limit < n := by
    intro n
    rw [Span.ofNanos?_eq_none_iff]
    have hlimit : 0 ≤ Span.limit := by decide
    omega
  rw [← hnone maximum, ← hnone increment]
  cases hm : Span.ofNanos? maximum with
  | none => simp [initial, initial?, hm, eq_comm]
  | some remaining =>
    cases hi : Span.ofNanos? increment with
    | none => simp [initial, initial?, hm, hi, eq_comm]
    | some delay => simp [initial, initial?, hm, hi]

end Countdown

namespace Opening

variable {o : Opening} {e : Misuse}

/-- What is not in order about an opening. -/
inductive Violates (o : Opening) : Misuse → Prop
  | zeroDelay : o.firstDelay = 0 → Violates o (.zero delayName)
  | blankId {id : String} : o.sessionId = some id → isBlankId id = true →
      Violates o (.blankSessionId id)
  | longBudget : Span.limit < o.commitBudget → Violates o (.tooLong budgetName)
  | longDelay : Span.limit < o.firstDelay → Violates o (.tooLong delayName)

/-- Of a budget it can only be out of order that it is too long. -/
theorem violates_budget_iff : o.Violates (.tooLong budgetName) ↔ Span.limit < o.commitBudget := by
  refine ⟨fun h => ?_, .longBudget⟩
  -- the index is a closed term, so it is generalised before the cases
  generalize he : Misuse.tooLong budgetName = e at h
  cases h with
  | longBudget hlong => exact hlong
  | longDelay _ => exact absurd he (by decide)
  | zeroDelay _ | blankId _ _ => exact nomatch he

/-- What is reported of an opening: something that is not in order about it, but of a delay that is
too long it is said that the budget is. -/
def Blames (o : Opening) (e : Misuse) : Prop :=
  e ≠ .tooLong delayName ∧
    (o.Violates e ∨ e = .tooLong budgetName ∧ o.Violates (.tooLong delayName))

/-- Whoever is blamed has something that is not in order, be it not what is said. -/
theorem Blames.exists_violates (h : o.Blames e) : ∃ e, o.Violates e := by
  obtain ⟨-, hsame | ⟨-, hdelay⟩⟩ := h
  · exact ⟨e, hsame⟩
  · exact ⟨_, hdelay⟩

/-- The checks that ask no collaborator, one after the other. -/
def examine (o : Opening) : Program (Except Misuse (String × Countdown)) := do
  match o.validate with
  | .error e => return .error e
  | .ok () =>
    match ← o.chooseId with
    | .error e => return .error e
    | .ok id =>
      match Countdown.initial id o.commitBudget o.firstDelay none with
      | .error _ => return .error (.tooLong budgetName)
      | .ok countdown => return .ok (id, countdown)

/-- The first check looks at the delay alone. -/
theorem validate_eq_error_iff : o.validate = .error e ↔ e = .zero delayName ∧ o.firstDelay = 0 := by
  unfold validate
  by_cases hzero : o.firstDelay = 0
  · simp [hzero, eq_comm]
  · simp [hzero]

/-- Only a blank id is refused. -/
theorem obeys_chooseId (o : Opening) : o.chooseId.Obeys (fun c => c.kind = .inward)
    fun choice => match choice with
      | .error e => ∃ id, e = .blankSessionId id ∧ o.sessionId = some id ∧ isBlankId id = true
      | .ok _ => ∀ id, o.sessionId = some id → isBlankId id = false := by
  unfold chooseId
  cases hid : o.sessionId with
  -- an id that is made is not looked at
  | none => exact ⟨rfl, fun _ => nofun⟩
  | some id =>
    by_cases hblank : isBlankId id = true
    · dsimp only
      rw [if_pos hblank]
      exact ⟨id, rfl, rfl, hblank⟩
    · dsimp only
      rw [if_neg hblank]
      show ∀ id', some id = some id' → isBlankId id' = false
      intro id' heq
      obtain rfl := Option.some.inj heq
      exact Bool.eq_false_iff.2 hblank

/-- The checks refuse exactly what is not in order. -/
theorem obeys_examine (o : Opening) : o.examine.Obeys (fun c => c.kind = .inward)
    fun examined => match examined with
      | .error e => o.Blames e
      | .ok _ => ∀ e, ¬ o.Violates e := by
  unfold examine
  cases hvalid : o.validate with
  | error e =>
    obtain ⟨rfl, hzero⟩ := validate_eq_error_iff.1 hvalid
    exact ⟨by decide, .inl (.zeroDelay hzero)⟩
  | ok _ =>
    have hdelay : o.firstDelay ≠ 0 := fun hzero =>
      -- one check after the other: each has passed when the next is made
      nomatch hvalid.symm.trans (validate_eq_error_iff.2 ⟨rfl, hzero⟩)
    apply o.obeys_chooseId.bind
    intro choice hchoice
    cases choice with
    | error e =>
      obtain ⟨id, rfl, hid, hblank⟩ := hchoice
      exact ⟨nofun, .inl (.blankId hid hblank)⟩
    | ok id =>
      dsimp only
      cases hinitial : Countdown.initial id o.commitBudget o.firstDelay none with
      | error e =>
        obtain ⟨-, hbudget | hlong⟩ := Countdown.initial_eq_error_iff.1 hinitial
        · exact ⟨by decide, .inl (.longBudget hbudget)⟩
        -- the one exception: the delay is too long, and the budget is blamed
        · exact ⟨by decide, .inr ⟨rfl, .longDelay hlong⟩⟩
      | ok countdown =>
        have hshort : ¬ (Span.limit < o.commitBudget ∨ Span.limit < o.firstDelay) := fun hlong =>
          nomatch hinitial.symm.trans (Countdown.initial_eq_error_iff.2 ⟨rfl, hlong⟩)
        -- one case for each thing that can be out of order; each has been ruled out by a check
        rintro _ (hzero | ⟨hid, hblank⟩ | hbudget | hlong)
        · exact hdelay hzero
        · exact nomatch hblank.symm.trans (hchoice _ hid)
        · exact hshort (.inl hbudget)
        · exact hshort (.inr hlong)

end Opening

/-! ### Opening a session -/

/-- What is allowed goes on when the caller has not cancelled. -/
theorem runs_gate_of_runs {α : Type} {may : {β : Type} → Call β → β → Prop} {calls : List Exchange}
    {a : α} {refused : CallError → α} {rest : Program α}
    (hlive : may .isCancelled false) (h : rest.Runs may calls a) :
    (gate (.ok ()) refused rest).Runs may (⟨.isCancelled, false⟩ :: calls) a :=
  .call hlive h

namespace Session.Outboxed

variable {may : {β : Type} → Call β → β → Prop} {calls : List Exchange} {s : Outboxed}
  {opening : Opening} {r : Outboxed × Except CallError Unit}

/-- What is left to do when the opening has been examined. -/
def proceed (s : Outboxed) (opening : Opening) :
    Except Misuse (String × Countdown) → Program (Outboxed × Except CallError Unit)
  | .error e => return (s, .error (.misuse e))
  | .ok (id, countdown) => s.start opening id countdown

/-- To open a session is to pass the gate, to examine the opening, and to start with what is
found. -/
theorem openWith_eq (s : Outboxed) (opening : Opening) :
    s.openWith opening = gate s.phase.requireUnopened (fun e => (s, .error e))
      (opening.examine >>= s.proceed opening) := by
  unfold openWith gate Opening.examine
  congr 1
  funext passed
  cases passed with
  | error e => rfl
  | ok _ =>
    dsimp only
    -- one case for each exit of the checks; both sides then are the same program
    cases opening.validate with
    | error e => rfl
    | ok _ =>
      simp only [bind_assoc]
      congr 1
      funext choice
      cases choice with
      | error e => rfl
      | ok id =>
        dsimp only
        cases Countdown.initial id opening.commitBudget opening.firstDelay none <;> rfl

/-- An unopened session whose caller has not cancelled refuses the opening, or starts with it. -/
theorem runs_openWith (hphase : s.phase = .unopened) (hlive : ⟨.isCancelled, true⟩ ∉ calls)
    (h : (s.openWith opening).Runs may calls r) :
    (∃ e, opening.Blames e ∧ outward calls = [] ∧ r = (s, .error (.misuse e))) ∨
    ((∀ e, ¬ opening.Violates e) ∧ ∃ id countdown later,
      (s.start opening id countdown).Runs may later r) := by
  rw [openWith_eq] at h
  -- the phase forbids it, the caller has cancelled, or the gate is open
  obtain ⟨e, hrefused, -⟩ | ⟨-, rfl, -⟩ | ⟨-, later, rfl, hlater⟩ := runs_gate h
  · rw [hphase] at hrefused
    exact nomatch hrefused
  · exact absurd List.mem_cons_self hlive
  · obtain ⟨first, second, examined, hfirst, hsecond, rfl⟩ := runs_bind.1 hlater
    have hexamined := (opening.obeys_examine.of_runs hfirst).2
    cases examined with
    | error e =>
      obtain ⟨rfl, rfl⟩ := runs_done.1 hsecond
      -- the examination asks nobody outside, so nobody outside has heard of a refusal
      have hquiet : opening.examine.Quiet := opening.obeys_examine.only
      have hout : outward first = [] := hquiet.outward_eq_nil hfirst
      refine .inl ⟨e, hexamined, ?_, rfl⟩
      show outward (first ++ []) = []
      rw [List.append_nil, hout]
    | ok found => exact .inr ⟨hexamined, found.1, found.2, second, hsecond⟩

/-- Once the opening is in order, an open that fails has not been misused. -/
theorem runs_openWith_iff (hphase : s.phase = .unopened) (hlive : ⟨.isCancelled, true⟩ ∉ calls)
    (h : (s.openWith opening).Runs may calls r) :
    (∃ e, r.2 = .error (.misuse e)) ↔ ∃ e, opening.Violates e := by
  obtain ⟨e, hblames, -, rfl⟩ | ⟨horder, id, countdown, later, hlater⟩ :=
    runs_openWith hphase hlive h
  · exact ⟨fun _ => hblames.exists_violates, fun _ => ⟨e, rfl⟩⟩
  · constructor
    · rintro ⟨e, he⟩
      -- a session that starts fails for other reasons only
      exact nomatch ((not_isMisuse_start s opening id countdown).of_runs hlater).2 _ he
    · rintro ⟨e, he⟩
      exact absurd he (horder e)

/-- Collaborators that do all they are asked open a session that starts. -/
theorem smooth_start {m : Occasion} {id : String} {countdown : Countdown}
    (hm : m.cancelled = false) (h : (s.start opening id countdown).Runs m.Smooth calls r) :
    ∃ tx, r = ({ s with
        phase := .opened
        opened := some { sessionId := id, countdown, opening, transaction := some tx } },
      .ok ()) := by
  -- the transaction is begun, then the staging joins it; both replies are good
  obtain ⟨begun, rest, hbegun, hrest, -⟩ := runs_call.1 h
  obtain ⟨_, rfl, tx, rfl⟩ := Occasion.smooth_unlessCancelled hm hbegun
  obtain ⟨joined, last, hjoined, hlast, -⟩ := runs_call.1 hrest
  obtain ⟨_, rfl, rfl⟩ := Occasion.smooth_unlessCancelled hm hjoined
  exact ⟨tx, (runs_done.1 hlast).2⟩

/-- They open an unopened session with any opening in order. -/
theorem smooth_openWith {m : Occasion} (hphase : s.phase = .unopened) (hm : m.cancelled = false)
    (horder : ∀ e, ¬ opening.Violates e) (h : (s.openWith opening).Runs m.Smooth calls r) :
    r.2 = .ok () ∧ r.1.phase = .opened := by
  have hlive : ⟨.isCancelled, true⟩ ∉ calls := by
    intro hmem
    -- nobody has cancelled on a smooth occasion
    have hreply : true = m.cancelled := h.may_of_mem _ hmem
    exact nomatch hreply.trans hm
  obtain ⟨e, hblames, -⟩ | ⟨-, id, countdown, later, hlater⟩ := runs_openWith hphase hlive h
  · obtain ⟨e, he⟩ := hblames.exists_violates
    exact absurd he (horder e)
  · obtain ⟨tx, rfl⟩ := smooth_start hm hlater
    exact ⟨rfl, rfl⟩

/-- An opening that is not in order is refused as soon as the caller and the source of ids have
answered. -/
theorem exists_runs_openWith (hphase : s.phase = .unopened)
    (hinward : ∀ {β : Type} (c : Call β), c.kind = .inward → ∃ reply, may c reply)
    (hlive : may .isCancelled false) (hviolates : ∃ e, opening.Violates e) :
    ∃ calls r, (s.openWith opening).Runs may calls r := by
  have hquiet : opening.examine.Quiet := opening.obeys_examine.only
  obtain ⟨first, examined, hfirst⟩ := hquiet.exists_runs hinward
  have hexamined := (opening.obeys_examine.of_runs hfirst).2
  cases examined with
  | ok found => exact absurd hviolates (not_exists.2 hexamined)
  | error e =>
    refine ⟨⟨.isCancelled, false⟩ :: (first ++ []), (s, .error (.misuse e)), ?_⟩
    rw [openWith_eq, hphase]
    apply runs_gate_of_runs hlive
    -- the refusal needs no further call
    exact runs_bind.2 ⟨first, [], _, hfirst, .done _, rfl⟩

/-- Whatever the options, an open that is not cancelled reports a misuse exactly when something is
not in order about them. It then has asked no collaborator and has left the session alone, so that
options in order open the session yet. What it reports is not in order, unless the delay alone is
too long. -/
theorem open_rejects_exactly (hphase : s.phase = .unopened)
    (hinward : ∀ {β : Type} (c : Call β), c.kind = .inward → ∃ reply, may c reply)
    (hlive : ∀ cancelled, may .isCancelled cancelled ↔ cancelled = false) :
    ((∃ e, opening.Violates e) → ∃ calls r, (s.openWith opening).Runs may calls r) ∧
    ∀ calls r, (s.openWith opening).Runs may calls r →
      ((∃ e, r.2 = .error (.misuse e)) ↔ ∃ e, opening.Violates e) ∧
      ∀ e, r.2 = .error (.misuse e) →
        e ≠ .tooLong delayName ∧
        (opening.Violates e ∨ e = .tooLong budgetName ∧ opening.Violates (.tooLong delayName)) ∧
        outward calls = [] ∧ r.1 = s ∧
        ∀ (m : Occasion) (other : Opening), m.cancelled = false → (∀ e, ¬ other.Violates e) →
          (∃ calls r', (r.1.openWith other).Runs m.Smooth calls r') ∧
          ∀ calls r', (r.1.openWith other).Runs m.Smooth calls r' →
            r'.2 = .ok () ∧ r'.1.phase = .opened := by
  -- an opening that is not in order is answered at all; what the answer says is the second part
  constructor
  · exact exists_runs_openWith hphase hinward ((hlive false).2 rfl)
  intro calls r h
  have hnot : ⟨.isCancelled, true⟩ ∉ calls := fun hmem =>
    nomatch (hlive true).1 (h.may_of_mem _ hmem)
  refine ⟨runs_openWith_iff hphase hnot h, fun e he => ?_⟩
  obtain ⟨e', hblames, hout, rfl⟩ | ⟨-, id, countdown, later, hlater⟩ :=
    runs_openWith hphase hnot h
  · obtain rfl : e' = e := CallError.misuse.inj (Except.error.inj he)
    -- the session is as it was, so it can be opened with something in order
    refine ⟨hblames.1, hblames.2, hout, rfl, fun m other hm horder => ⟨?_, ?_⟩⟩
    · exact exists_runs (fun c => ⟨_, m.smooth_answer c⟩) _
    · intro calls' r' h'
      exact smooth_openWith hphase hm horder h'
  · exact nomatch ((not_isMisuse_start s opening id countdown).of_runs hlater).2 _ he

/-- An occasion on which nobody cancels. -/
def noon : Occasion := { now := .ofNanos 1714564800000000000, freshId := "fresh" }

/-- A session is refused a delay of zero and opens with the standard options afterwards. -/
theorem open_rejects_exactly_withoutDelay :
    (∀ {β : Type} (c : Call β), c.kind = .inward → ∃ reply, noon.Smooth c reply) ∧
    (∀ cancelled, noon.Smooth .isCancelled cancelled ↔ cancelled = false) ∧
    ∃ calls r, (unopened.openWith { firstDelay := 0 }).Runs noon.Smooth calls r ∧
      (∃ e, r.2 = .error (.misuse e)) ∧ outward calls = [] ∧ r.1 = unopened ∧
      ∃ later r', (r.1.openWith {}).Runs noon.Smooth later r' ∧ r'.2 = .ok () := by
  have hinward : ∀ {β : Type} (c : Call β), c.kind = .inward → ∃ reply, noon.Smooth c reply :=
    fun c _ => ⟨_, noon.smooth_answer c⟩
  have hlive : ∀ cancelled, noon.Smooth .isCancelled cancelled ↔ cancelled = false :=
    fun _ => Iff.rfl
  -- the theorem is for any collaborators; here they do all they are asked
  obtain ⟨hexists, hall⟩ :=
    @open_rejects_exactly noon.Smooth unopened { firstDelay := 0 } rfl hinward hlive
  have hviolates : ∃ e, Opening.Violates { firstDelay := 0 } e := ⟨_, .zeroDelay rfl⟩
  obtain ⟨calls, r, hrun⟩ := hexists hviolates
  obtain ⟨hiff, hrefused⟩ := hall calls r hrun
  obtain ⟨e, he⟩ := hiff.2 hviolates
  obtain ⟨-, -, hout, hself, hyet⟩ := hrefused e he
  have horder : ∀ e, ¬ Opening.Violates {} e := by
    rintro _ (hzero | ⟨hid, -⟩ | hbudget | hdelay)
    · exact absurd hzero (by decide)
    · exact nomatch hid
    · exact absurd hbudget (by decide)
    · exact absurd hdelay (by decide)
  obtain ⟨⟨later, r', hlater⟩, hopens⟩ := hyet noon {} rfl horder
  exact ⟨hinward, hlive, calls, r, hrun, ⟨e, he⟩, hout, hself, later, r', hlater,
    (hopens later r' hlater).1⟩

/-- The opening with a delay one nanosecond longer than any span. -/
def patient : Opening := { firstDelay := 9223372036854775807000001 }

/-- Its budget is said to be too long, though it is a span, and the delay is not. -/
theorem misnamed_longDelay :
    (mayNoon.run false (unopened.openWith patient)).1.2 =
      .error (.misuse (.tooLong budgetName)) ∧
    ¬ patient.Violates (.tooLong budgetName) ∧ patient.Violates (.tooLong delayName) := by
  -- the first part is one run; the others compare the durations with the longest span
  refine ⟨by decide +kernel, ?_, .longDelay (by decide)⟩
  rw [Opening.violates_budget_iff]
  decide

end Session.Outboxed

end Outbox
