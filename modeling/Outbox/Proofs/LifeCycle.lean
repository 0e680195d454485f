import Outbox.Proofs.Admission
import Outbox.Proofs.Batch
import Outbox.Proofs.Direct.Course

/-!
# Sessions of both kinds have one life cycle

A caller that only has a `Session` cannot tell of which kind it is, as long as all goes well around
it. What it sees of a session is a `Session.View`, and `View.serve` says what a request makes of it,
with no word about the kind. Sessions of either kind follow it call by call, and so agree.

* `Program.Only.eq_value`           a program that asks no collaborator has one result
* `Session.serves`                  a request does to a session what it does to its view
* `Session.plays_iff`               a script has one course
* `Session.lifecycles_agree`        sessions of both kinds take it
-/

namespace Outbox

open Program

/-! ### What an occasion decides -/

section

variable {α β : Type} {m : Occasion} {calls : List Exchange}

/-- The result of a program when the collaborators do all that it asks. -/
def Occasion.value (m : Occasion) (p : Program α) : α := (p.run (fun c σ => (m.answer c, σ)) ()).1

/-- The clock, the source of ids and the caller have one answer on an occasion. -/
theorem Occasion.eq_answer {c : Call β} {reply : β} (hc : c.kind = .inward)
    (h : m.Smooth c reply) : reply = m.answer c := by
  induction c with
  | now | freshId | isCancelled => exact h
  | unlessCancelled c ih =>
    by_cases hm : m.cancelled = true
    · simpa [Smooth, answer, hm] using h
    · obtain ⟨inner, rfl, hinner⟩ := smooth_unlessCancelled (Bool.eq_false_iff.2 hm) h
      simp [answer, hm, ih hc hinner]
  | _ => cases hc

/-- A program that asks no collaborator has one result on an occasion. -/
theorem Program.Only.eq_value {p : Program α} {a : α} (hp : p.Quiet)
    (h : p.Runs m.Smooth calls a) : a = m.value p := by
  induction h with
  | done a => rfl
  | call hreply _ ih =>
    obtain rfl := Occasion.eq_answer hp.1 hreply
    exact ih (hp.2 _)

/-- The ways through the gate on an occasion. -/
theorem smooth_gate {a : α} {allowed : Except Misuse Unit} {refused : CallError → α}
    {rest : Program α} (h : (gate allowed refused rest).Runs m.Smooth calls a) :
    (∃ e, allowed = .error e ∧ a = refused (.misuse e)) ∨
    (allowed = .ok () ∧ m.cancelled = true ∧ a = refused .cancelled) ∨
    (allowed = .ok () ∧ m.cancelled = false ∧ ∃ later, rest.Runs m.Smooth later a) := by
  obtain ⟨e, he, -, ha⟩ | ⟨hok, rfl, ha⟩ | ⟨hok, later, rfl, hlater⟩ := runs_gate h
  · exact .inl ⟨e, he, ha⟩
  · have hm : true = m.cancelled := h.may_of_mem _ List.mem_cons_self
    exact .inr (.inl ⟨hok, hm.symm, ha⟩)
  · have hm : false = m.cancelled := h.may_of_mem _ List.mem_cons_self
    exact .inr (.inr ⟨hok, hm.symm, later, hlater⟩)

end

namespace Session

/-! ### What a caller sees -/

/-- What a caller sees of a session. -/
structure View where
  phase : Phase
  sessionId? : Option String
  batch : Batch

/-- What the caller of a session sees of it. -/
def view (s : Session) : View := ⟨s.phase, s.sessionId?, s.batch⟩

namespace View

/-- What becomes of a session that has an id to open with. -/
def enter (v : View) : Except Misuse String → View × Except CallError Unit
  | .error e => (v, .error (.misuse e))
  | .ok id => ({ v with phase := .opened, sessionId? := some id }, .ok ())

/-- What becomes of a session that has a message to collect. -/
def collect (v : View) : Except Misuse Operation → View × Except CallError Unit
  | .error e => (v, .error (.misuse e))
  | .ok op => ({ v with batch := v.batch ++ [op] }, .ok ())

/-- What becomes of a session by a request that has passed the gate. -/
def proceed (r : Router) (m : Occasion) (v : View) : Request → View × Except CallError Unit
  | .openWith opening => v.enter (m.value opening.chooseId)
  | .send message how => v.collect (m.value (r.prepare (.send message how)))
  | .publish message how => v.collect (m.value (r.prepare (.publish message how)))
  | .commit => ({ v with phase := .committed }, .ok ())
  | .dispose | .drop => ({ v with phase := .disposed }, .ok ())

/-- What becomes of a session by a request when all goes well around it. -/
def serve (r : Router) (m : Occasion) (v : View) (what : Request) : View × Except CallError Unit :=
  if what.takesToken then
    match v.phase.permits what with
    | .error e => (v, .error (.misuse e))
    | .ok () => if m.cancelled then (v, .error .cancelled) else v.proceed r m what
  else v.proceed r m what

variable {r : Router} {m : Occasion} {v : View} {what : Request}

/-- What a phase does not permit is refused. -/
theorem serve_of_refused {e : Misuse} (htoken : what.takesToken = true)
    (he : v.phase.permits what = .error e) : v.serve r m what = (v, .error (.misuse e)) := by
  simp [serve, htoken, he]

/-- A caller that has cancelled gets no further, when the phase permits the request. -/
theorem serve_of_cancelled (htoken : what.takesToken = true)
    (hok : v.phase.permits what = .ok ()) (hm : m.cancelled = true) :
    v.serve r m what = (v, .error .cancelled) := by
  simp [serve, htoken, hok, hm]

/-- A request proceeds when it is permitted and nobody has cancelled. -/
theorem serve_of_permitted (hok : v.phase.permits what = .ok ()) (hm : m.cancelled = false) :
    v.serve r m what = v.proceed r m what := by
  simp [serve, hok, hm]

/-- Only what the caller does wrong is an error when all goes well. -/
theorem isRefusal_of_serve {e : CallError} (h : (v.serve r m what).2 = .error e) :
    e.isRefusal = true := by
  have henter : ∀ choice, (v.enter choice).2 = .error e → e.isRefusal = true := by
    rintro (e' | id) he
    · exact Except.error.inj he ▸ rfl
    · exact nomatch he
  have hcollect : ∀ made, (v.collect made).2 = .error e → e.isRefusal = true := by
    rintro (e' | op) he
    · exact Except.error.inj he ▸ rfl
    · exact nomatch he
  have hproceed : (v.proceed r m what).2 = .error e → e.isRefusal = true := by
    -- an opening fails for its id, a posting for its message, and the other requests do not fail
    cases what with
    | openWith opening => exact henter _
    | send message how => exact hcollect _
    | publish message how => exact hcollect _
    | commit | dispose | drop => exact nofun
  unfold serve at h
  -- a request that takes the token can be stopped by the phase or by the caller
  split at h
  · split at h
    · exact Except.error.inj h ▸ rfl
    · split at h
      · exact Except.error.inj h ▸ rfl
      · exact hproceed h
  · exact hproceed h

end View

variable {m : Occasion} {calls : List Exchange} {what : Request} {result : Except CallError Unit}

/-! ### What a request does to a session -/

/-- What a script may request: anything but to destroy the session, and an opening only with
durations that are spans and a delay above zero. -/
def Request.InScript : Request → Prop
  | .openWith opening =>
    opening.firstDelay ≠ 0 ∧ opening.commitBudget ≤ Time.Span.limit ∧
      opening.firstDelay ≤ Time.Span.limit
  | .send _ _ | .publish _ _ | .commit | .dispose => True
  | .drop => False

/-- What goes through the gate becomes of the view what becomes of it behind the gate, unless it is
refused or cancelled. -/
theorem serves_gate {α : Type} {a : α} {refused : CallError → α} {rest : Program α} {s : Session}
    {Q : View × Except CallError Unit → Prop} (htoken : what.takesToken = true)
    (h : (gate (s.phase.permits what) refused rest).Runs m.Smooth calls a)
    (hrefused : ∀ e, a = refused e → Q (s.view, .error e))
    (hrest : ∀ later, s.phase.permits what = .ok () → m.cancelled = false →
      rest.Runs m.Smooth later a → Q (s.view.proceed s.router m what)) :
    Q (s.view.serve s.router m what) := by
  obtain ⟨e, he, heq⟩ | ⟨hok, hm, heq⟩ | ⟨hok, hm, later, hlater⟩ := smooth_gate h
  · rw [View.serve_of_refused htoken he]
    exact hrefused _ heq
  · rw [View.serve_of_cancelled htoken hok hm]
    exact hrefused _ heq
  · rw [View.serve_of_permitted hok hm]
    exact hrest later hok hm hlater

/-- To send and to publish do to a session what they do to its view. -/
theorem serves_posting {s : Session} {left : Option Session} {p : Posting}
    (h : (s.perform p.request).Runs m.Smooth calls (left, result)) :
    ∃ t, left = some t ∧ s.view.serve s.router m p.request = (t.view, result) := by
  have hpermits : s.phase.permits p.request = s.phase.requireOpen := by cases p <;> rfl
  have hproceed : s.view.proceed s.router m p.request =
      s.view.collect (m.value (s.router.prepare p)) := by cases p <;> rfl
  have htoken : p.request.takesToken = true := by cases p <;> rfl
  rw [perform_posting, ← hpermits] at h
  -- behind the gate is the preparation of the operation, and it has one value on each occasion
  apply serves_gate (Q := fun seen => ∃ t, left = some t ∧ seen = (t.view, result)) htoken h
  · intro e heq
    obtain ⟨rfl, rfl⟩ := Prod.mk.inj heq
    exact ⟨s, rfl, rfl⟩
  · intro later _ _ hlater
    rw [hproceed]
    obtain ⟨e, hmade, rfl, rfl⟩ | ⟨op, hmade, rfl, rfl⟩ := runs_collect hlater
    · rw [← (quiet_prepare s.router p).eq_value hmade]
      exact ⟨s, rfl, rfl⟩
    · rw [← (quiet_prepare s.router p).eq_value hmade]
      refine ⟨_, rfl, ?_⟩
      cases s <;> rfl

namespace Outboxed

variable {may : {β : Type} → Call β → β → Prop} {s : Outboxed} {opening : Opening}
  {r : Outboxed × Except CallError Unit}

/-- The transaction of a session does not show in its view. -/
theorem view_withoutTransaction (s : Outboxed) :
    (outboxed s.withoutTransaction).view = (outboxed s).view := by
  have hid : s.withoutTransaction.sessionId? = s.sessionId? := by
    cases h : s.opened <;> simp [withoutTransaction, sessionId?, h]
  show View.mk s.phase s.withoutTransaction.sessionId? s.batch =
    View.mk s.phase s.sessionId? s.batch
  rw [hid]

/-- A session that has ended shows its phase. -/
theorem view_ended (s : Outboxed) (phase : Phase) :
    (outboxed (s.ended phase)).view = { (outboxed s).view with phase } := by
  rw [← view_withoutTransaction s]
  rfl

/-- Only a blank id keeps the opening of a script from opening the session. -/
theorem serves_openWith (hscript : (Request.openWith opening).InScript)
    (h : (s.openWith opening).Runs m.Smooth calls r) :
    (outboxed s).view.serve s.router m (.openWith opening) = ((outboxed r.1).view, r.2) := by
  obtain ⟨hdelay, hbudget, hshort⟩ := hscript
  rw [openWith_eq] at h
  apply serves_gate (s := outboxed s) (Q := (· = ((outboxed r.1).view, r.2))) rfl h
    (fun e heq => by rw [heq])
  intro later _ hm hlater
  have hvalid : opening.validate = .ok () := if_neg hdelay
  obtain ⟨first, second, examined, hfirst, hsecond, -⟩ := runs_bind.1 hlater
  unfold Opening.examine at hfirst
  rw [hvalid] at hfirst
  obtain ⟨_, _, choice, hchoice, hexamined, -⟩ := runs_bind.1 hfirst
  have hvalue := (quiet_chooseId opening).eq_value hchoice
  show View.enter _ (m.value opening.chooseId) = _
  rw [← hvalue]
  -- the id is the one that the view is given, or it is blank for both
  cases choice with
  | error e =>
    obtain ⟨-, rfl⟩ := runs_done.1 hexamined
    obtain ⟨-, rfl⟩ := runs_done.1 hsecond
    rfl
  | ok id =>
    dsimp only at hexamined
    split at hexamined
    · next e hinitial =>
      -- both durations are spans
      obtain ⟨-, hlong⟩ := Countdown.initial_eq_error_iff.1 hinitial
      omega
    · next countdown _ =>
      obtain ⟨-, rfl⟩ := runs_done.1 hexamined
      obtain ⟨tx, rfl⟩ := smooth_start hm hsecond
      rfl

/-- To finish a session is to end it, with the result that is given. -/
theorem result_finish {phase : Phase} {outcome : Except CallError Unit}
    (h : (s.finish phase outcome).Runs may calls r) : r = (s.ended phase, outcome) := by
  obtain ⟨first, last, t, hfirst, hlast, -⟩ := runs_bind.1 h
  obtain ⟨rfl, -⟩ := runs_release hfirst
  exact (runs_done.1 hlast).2

/-- All going well, an announcement is accepted. -/
theorem smooth_announce {o : Opened} {announced : Except CallError Unit}
    (hm : m.cancelled = false) (h : (s.announce o).Runs m.Smooth calls announced) :
    announced = .ok () := by
  obtain ⟨now, rest, -, hrest, -⟩ := runs_call.1 h
  obtain ⟨taken, last, htaken, hlast, -⟩ := runs_call.1 hrest
  obtain ⟨_, rfl, rfl⟩ := Occasion.smooth_unlessCancelled hm htaken
  exact (runs_done.1 hlast).2

/-- All going well, a batch is made durable. -/
theorem smooth_makeDurable {id : String} {tx : TransactionId} {durable : Except CallError Unit}
    (h : (s.makeDurable id tx).Runs m.Smooth calls durable) : durable = .ok () := by
  obtain ⟨first, last, applied, happly, hlast, -⟩ := runs_bind.1 h
  obtain ⟨_, second, rfl, hsecond, -⟩ := runs_call.1 happly
  obtain ⟨_, third, rfl, hthird, -⟩ := runs_call.1 hsecond
  obtain ⟨_, _, rfl, hdone, -⟩ := runs_call.1 hthird
  obtain ⟨-, rfl⟩ := runs_done.1 hdone
  exact (runs_done.1 hlast).2

/-- What is collected is made durable. -/
theorem serves_commit (hs : s.Tidy) (h : s.commit.Runs m.Smooth calls r) :
    (outboxed s).view.serve s.router m .commit = ((outboxed r.1).view, r.2) := by
  apply serves_gate (s := outboxed s) (Q := (· = ((outboxed r.1).view, r.2))) rfl h
    (fun e heq => by rw [heq])
  intro later hok hm hlater
  obtain ⟨-, o, tx, ho, htx, -⟩ := hs.opened ((Phase.requireOpen_eq_ok_iff _).1 hok)
  rw [ho] at hlater
  obtain ⟨first, second, announced, hannounce, hsecond, -⟩ := runs_bind.1 hlater
  -- the announcement is accepted and the batch made durable, so the commit comes to its end
  obtain rfl := smooth_announce hm hannounce
  dsimp only at hsecond
  rw [htx] at hsecond
  obtain ⟨third, last, durable, hdurable, hlast, -⟩ := runs_bind.1 hsecond
  obtain rfl := smooth_makeDurable hdurable
  obtain rfl := result_finish hlast
  show View.proceed s.router m (outboxed s).view .commit =
    ((outboxed (s.withoutTransaction.ended .committed)).view, .ok ())
  rw [view_ended, view_withoutTransaction]
  rfl

/-- A session that is disposed of shows just that. -/
theorem view_dispose {t : Outboxed} (h : s.dispose.Runs m.Smooth calls t) :
    (outboxed t).view = { (outboxed s).view with phase := .disposed } := by
  unfold dispose at h
  -- it had been disposed of before, or it is now
  split at h
  · next hphase =>
    obtain ⟨-, rfl⟩ := runs_done.1 h
    rw [← hphase]
    rfl
  · obtain ⟨first, last, t', hfirst, hlast, -⟩ := runs_bind.1 h
    obtain ⟨rfl, -⟩ := runs_release hfirst
    obtain ⟨-, rfl⟩ := runs_done.1 hlast
    exact view_ended s .disposed

end Outboxed

namespace Direct

variable {s : Direct} {opening : Opening} {r : Direct × Except CallError Unit}

/-- To open a session without an outbox does the same to its view. -/
theorem serves_openWith (h : (s.openWith opening).Runs m.Smooth calls r) :
    (direct s).view.serve s.router m (.openWith opening) = ((direct r.1).view, r.2) := by
  apply serves_gate (s := direct s) (Q := (· = ((direct r.1).view, r.2))) rfl h
    (fun e heq => by rw [heq])
  intro later _ hm hlater
  obtain ⟨first, second, choice, hfirst, hsecond, -⟩ := runs_bind.1 hlater
  have hvalue := (quiet_chooseId opening).eq_value hfirst
  show View.enter _ (m.value opening.chooseId) = _
  rw [← hvalue]
  cases choice with
  | error e =>
    obtain ⟨-, rfl⟩ := runs_done.1 hsecond
    rfl
  | ok id =>
    -- the staging is opened when all goes well and nobody has cancelled
    obtain ⟨opened, last, hopened, hlast, -⟩ := runs_call.1 hsecond
    obtain ⟨_, rfl, rfl⟩ := Occasion.smooth_unlessCancelled hm hopened
    obtain ⟨-, rfl⟩ := runs_done.1 hlast
    rfl

/-- All going well, a batch is dispatched. -/
theorem smooth_dispatchBatch {dispatched : Except DispatchError Unit}
    (h : s.dispatchBatch.Runs m.Smooth calls dispatched) : dispatched = .ok () := by
  unfold dispatchBatch at h
  split at h
  · exact (runs_done.1 h).2
  · obtain ⟨_, _, rfl, hdone, -⟩ := runs_call.1 h
    exact (runs_done.1 hdone).2

/-- What is collected is dispatched. -/
theorem serves_commit (h : s.commit.Runs m.Smooth calls r) :
    (direct s).view.serve s.router m .commit = ((direct r.1).view, r.2) := by
  apply serves_gate (s := direct s) (Q := (· = ((direct r.1).view, r.2))) rfl h
    (fun e heq => by rw [heq])
  intro later hok hm hlater
  rw [ask_bind] at hlater
  obtain ⟨reply, rest, hreply, hrest, -⟩ := runs_call.1 hlater
  obtain rfl : reply = .ok () := hreply
  obtain ⟨first, last, dispatched, hdispatch, hlast, -⟩ := runs_bind.1 hrest
  -- the staging is completed and the batch dispatched, so the commit comes to its end
  obtain rfl := smooth_dispatchBatch hdispatch
  obtain ⟨rfl, -⟩ := runs_finish hlast
  rfl

/-- A session without an outbox shows that it is disposed of. -/
theorem view_dispose {t : Direct} (h : s.dispose.Runs m.Smooth calls t) :
    (direct t).view = { (direct s).view with phase := .disposed } := by
  obtain ⟨first, last, t', hfirst, hlast, -⟩ := runs_bind.1 h
  obtain ⟨rfl, -⟩ := runs_release hfirst
  obtain ⟨-, rfl⟩ := runs_done.1 hlast
  rfl

end Direct

/-- A request does to a session of either kind what it does to its view. -/
theorem serves {s : Session} {left : Option Session} (hs : s.Tidy) (hscript : what.InScript)
    (h : (s.perform what).Runs m.Smooth calls (left, result)) :
    ∃ t, left = some t ∧ s.view.serve s.router m what = (t.view, result) := by
  -- a posting does not depend on the kind of the session; the other requests are taken in turn
  obtain ⟨p, rfl⟩ | hwhat := what.posting_or
  · exact serves_posting h
  cases what with
  | send message how => exact absurd rfl (hwhat (.send message how))
  | publish message how => exact absurd rfl (hwhat (.publish message how))
  | drop => exact hscript.elim
  | openWith opening =>
    cases s with
    | outboxed s =>
      obtain ⟨r, hr, rfl, rfl⟩ := runs_wrapped h
      exact ⟨_, rfl, Outboxed.serves_openWith hscript hr⟩
    | direct s =>
      obtain ⟨r, hr, rfl, rfl⟩ := runs_wrapped h
      exact ⟨_, rfl, Direct.serves_openWith hr⟩
  | commit =>
    cases s with
    | outboxed s =>
      obtain ⟨r, hr, rfl, rfl⟩ := runs_wrapped h
      exact ⟨_, rfl, Outboxed.serves_commit hs hr⟩
    | direct s =>
      obtain ⟨r, hr, rfl, rfl⟩ := runs_wrapped h
      exact ⟨_, rfl, Direct.serves_commit hr⟩
  | dispose =>
    obtain ⟨first, last, t, hfirst, hlast, -⟩ := runs_bind.1 h
    obtain ⟨rfl, rfl⟩ := Prod.mk.inj (runs_done.1 hlast).2
    refine ⟨t, rfl, ?_⟩
    -- both kinds show the same when they are disposed of
    have hview : t.view = { s.view with phase := .disposed } := by
      cases s with
      | outboxed s =>
        obtain ⟨_, _, t', ht', hdone, -⟩ := runs_bind.1 hfirst
        obtain ⟨-, rfl⟩ := runs_done.1 hdone
        exact Outboxed.view_dispose ht'
      | direct s =>
        obtain ⟨_, _, t', ht', hdone, -⟩ := runs_bind.1 hfirst
        obtain ⟨-, rfl⟩ := runs_done.1 hdone
        exact Direct.view_dispose ht'
    rw [hview]
    rfl

/-- A session keeps its router. -/
theorem router_perform {may : {β : Type} → Call β → β → Prop} {s t : Session} (hs : s.Tidy)
    (h : (s.perform what).Runs may calls (some t, result)) : t.router = s.router := by
  let use : Use := ⟨what, calls, result⟩
  have hrun : (s.perform use.what).Runs may use.calls (some t, use.result) := h
  exact (batch_perform hs hrun).1

/-! ### Scripts -/

/-- What is seen of a session after each call of a script, when all goes well around it. Every
request is made on an occasion of its own. -/
inductive Plays : Session → List (Request × Occasion) → List (View × Except CallError Unit) → Prop
  | done (s : Session) : Plays s [] []
  | next {s t : Session} {what : Request} {m : Occasion} {calls : List Exchange}
      {result : Except CallError Unit} {script : List (Request × Occasion)}
      {seen : List (View × Except CallError Unit)} :
      (s.perform what).Runs m.Smooth calls (some t, result) → Plays t script seen →
      Plays s ((what, m) :: script) ((t.view, result) :: seen)

/-- What becomes of a view by a script. -/
def View.play (r : Router) (v : View) :
    List (Request × Occasion) → List (View × Except CallError Unit)
  | [] => []
  | (what, m) :: script => v.serve r m what :: (v.serve r m what).1.play r script

/-- A script has one course, whatever the session. -/
theorem plays_iff {s : Session} {script : List (Request × Occasion)}
    {seen : List (View × Except CallError Unit)} (hs : s.Tidy)
    (hscript : ∀ line ∈ script, line.1.InScript) :
    Plays s script seen ↔ seen = s.view.play s.router script := by
  -- by induction on the script; between two requests the session is in order, with its first router
  induction script generalizing s seen with
  | nil =>
    constructor
    · intro h
      cases h
      rfl
    · rintro rfl
      exact .done s
  | cons line script ih =>
    obtain ⟨what, m⟩ := line
    obtain ⟨hwhat, hlater⟩ := List.forall_mem_cons.1 hscript
    -- the first request is played as on the view, and the script goes on from there
    have hplay : ∀ {calls : List Exchange} {t : Session} {result : Except CallError Unit},
        (s.perform what).Runs m.Smooth calls (some t, result) →
        s.view.play s.router ((what, m) :: script) =
          (t.view, result) :: t.view.play t.router script := by
      intro calls t result hrun
      obtain ⟨t', ht', hserve⟩ := serves hs hwhat hrun
      obtain rfl := Option.some.inj ht'
      rw [View.play, hserve, router_perform hs hrun]
    constructor
    -- what was played is the one course
    · intro h
      cases h with
      | next hrun hrest =>
        rw [hplay hrun, (ih (tidy_perform hs hrun) hlater).1 hrest]
    -- and there is such a play, because every call can be answered
    · rintro rfl
      obtain ⟨calls, ⟨left, result⟩, hrun⟩ :=
        exists_runs (fun c => ⟨_, m.smooth_answer c⟩) (s.perform what)
      obtain ⟨t, rfl, -⟩ := serves hs hwhat hrun
      rw [hplay hrun]
      exact .next hrun ((ih (tidy_perform hs hrun) hlater).2 rfl)

/-- Of all that is seen only the refusals are errors. -/
theorem isRefusal_of_mem_play {r : Router} {v : View} {script : List (Request × Occasion)}
    {after : View × Except CallError Unit} {e : CallError} (hafter : after ∈ v.play r script)
    (he : after.2 = .error e) : e.isRefusal = true := by
  induction script generalizing v with
  | nil => exact absurd hafter List.not_mem_nil
  | cons line script ih =>
    obtain rfl | hlater := List.mem_cons.1 hafter
    · exact View.isRefusal_of_serve he
    · exact ih hlater

/-- Whatever the script, a new session with an outbox and one without look the same after each of
its calls, and each call has the same result, when all goes well around both. -/
theorem lifecycles_agree (store processorAddress : String) (staging other : StagingId)
    (router : Router) {script : List (Request × Occasion)}
    (hscript : ∀ line ∈ script, line.1.InScript) :
    ∃ seen,
      (∀ shown, Plays (.outboxed { store, staging, router, processorAddress }) script shown ↔
        shown = seen) ∧
      (∀ shown, Plays (.direct { staging := other, router }) script shown ↔ shown = seen) ∧
      ∀ after ∈ seen, ∀ e, after.2 = .error e → e.isRefusal = true := by
  let v : View := { phase := .unopened, sessionId? := none, batch := [] }
  refine ⟨v.play router script, ?_, ?_, ?_⟩
  · intro shown
    exact plays_iff (New.outboxed store staging router processorAddress).tidy hscript
  · intro shown
    exact plays_iff (New.direct other router).tidy hscript
  · intro after hafter e he
    exact isRefusal_of_mem_play hafter he

/-- A script that opens a session at the second attempt, collects a greeting, and commits twice. -/
def twiceCommitted : List (Request × Occasion) :=
  let noon : Occasion := { now := .ofNanos 1714564800000000000, freshId := "fresh" }
  [(.openWith { sessionId := some "session" }, { noon with cancelled := true }),
    (.openWith { sessionId := some "session" }, noon),
    (.send { messageType := "greeting" } { destination := some "inbox" }, noon),
    (.send { messageType := "unknown" } {}, noon),
    (.commit, noon), (.commit, noon), (.dispose, noon)]

/-- A script with a cancelled open, a message without a route and two commits is played alike by
both kinds of session. -/
theorem lifecycles_agree_twiceCommitted :
    (∀ line ∈ twiceCommitted, line.1.InScript) ∧
    ∃ seen,
      Plays (.outboxed { store := "db", staging := 0, router := {}, processorAddress := "p" })
        twiceCommitted seen ∧
      Plays (.direct { staging := 1, router := {} }) twiceCommitted seen ∧
      seen.map (fun after => (after.1.phase, after.1.batch.length, after.2)) =
        [(.unopened, 0, .error .cancelled), (.opened, 0, .ok ()), (.opened, 1, .ok ()),
          (.opened, 1, .error (.misuse (.unroutable "unknown"))), (.committed, 1, .ok ()),
          (.committed, 1, .error (.misuse .alreadyCommitted)), (.disposed, 1, .ok ())] := by
  have hscript : ∀ line ∈ twiceCommitted, line.1.InScript := by
    simp [twiceCommitted, Request.InScript, Time.Span.limit]
  -- the course that the theorem gives is the one that the view computes
  obtain ⟨seen, houtboxed, hdirect, -⟩ := lifecycles_agree "db" "p" 0 1 {} hscript
  have hplays := (hdirect seen).2 rfl
  refine ⟨hscript, seen, (houtboxed seen).2 rfl, hplays, ?_⟩
  rw [(plays_iff (New.direct 1 {}).tidy hscript).1 hplays]
  decide +kernel

end Session

end Outbox
