import Outbox.Journal
import Outbox.Proofs.Batch

/-!
# When a cancellation comes

The collaborators of a session take their time: a call may be answered in any way, after any while,
with any effect. The token of a caller is cancelled at some moment, or never. What was asked is
given up when that moment comes no later than the reply.

A commit looks at the token when it is called and while it announces the session, and never again:
a cancellation that comes when the announcement has been answered goes unnoticed.

* `Ensemble.sameRun_of_heedless`     a program that does not look at the token
* `Session.Outboxed.commit_unheard`  a token that is cancelled when the commit is called
* `Session.Outboxed.commit_stopped`  one that is cancelled before the announcement is answered
* `Session.commit_cancelled`         what a cancellation does to a commit, moment by moment
* `Stage.run?_commit`                a script is one way in which collaborators take their time
-/

namespace Outbox

/-- Collaborators that take their time. -/
structure Ensemble (σ : Type) where
  /-- The reply to a call that is made at a time, how long it takes, and what it leaves behind. -/
  respond : {β : Type} → Call β → Nat → σ → β × Nat × σ
  /-- What a call leaves behind that is made at the first time and given up at the second. -/
  giveUp : {β : Type} → Call β → Nat → Nat → σ → σ

/-- Whether a call looks at the token of the caller. -/
def Call.heedsToken {β : Type} : Call β → Bool
  | .isCancelled | .unlessCancelled _ => true
  | _ => false

namespace Ensemble

variable {σ : Type}

/-- Answers a call at a time, for a caller whose token is cancelled at a moment, if ever. -/
def answer (E : Ensemble σ) (token : Option Nat) {β : Type} : Call β → Nat × σ → β × (Nat × σ)
  | .isCancelled, (t, x) => (token.any (· ≤ t), t, x)
  | .unlessCancelled c, (t, x) =>
    if token.any (· ≤ t) then (none, t, x)
    else
      let (reply, duration, after) := E.respond c t x
      match token with
      | none => (some reply, t + duration, after)
      | some moment =>
        -- what is ready at the moment of the cancellation comes too late
        if moment ≤ t + duration then (none, moment, E.giveUp c t moment x)
        else (some reply, t + duration, after)
  | c, (t, x) =>
    let (reply, duration, after) := E.respond c t x
    (reply, t + duration, after)

variable (E : Ensemble σ) {token : Option Nat} {α β : Type}

/-- A call that does not look at the token. -/
theorem answer_eq_respond {c : Call β} (h : c.heedsToken = false) (token : Option Nat)
    (since : Nat × σ) : E.answer token c since = ((E.respond c since.1 since.2).1,
      since.1 + (E.respond c since.1 since.2).2.1, (E.respond c since.1 since.2).2.2) := by
  cases c with
  -- these two look at the token, which has been ruled out
  | isCancelled | unlessCancelled c => exact nomatch h
  | _ => rfl

/-- The answer to such a call is the same for every token. -/
theorem answer_of_heedless {c : Call β} (h : c.heedsToken = false) (token : Option Nat)
    (since : Nat × σ) : E.answer token c since = E.answer none c since := by
  rw [E.answer_eq_respond h, E.answer_eq_respond h]

/-- A call that is answered before the cancellation. -/
theorem answer_unlessCancelled_of_lt {c : Call β} {moment : Nat} {since : Nat × σ}
    (h : (E.answer none (.unlessCancelled c) since).2.1 < moment) :
    E.answer (some moment) (.unlessCancelled c) since =
      E.answer none (.unlessCancelled c) since := by
  obtain ⟨t, x⟩ := since
  have hanswered : t + (E.respond c t x).2.1 < moment := h
  -- an answer before the moment is also asked for before it
  have hlate : ¬ moment ≤ t + (E.respond c t x).2.1 := by omega
  have hnotYet : ¬ moment ≤ t := by omega
  simp [answer, hlate, hnotYet]

/-- A call that is not. -/
theorem answer_unlessCancelled_of_le {c : Call β} {moment : Nat} {since : Nat × σ}
    (h : moment ≤ (E.answer none (.unlessCancelled c) since).2.1) :
    (E.answer (some moment) (.unlessCancelled c) since).1 = none := by
  obtain ⟨t, x⟩ := since
  have hearly : moment ≤ t + (E.respond c t x).2.1 := h
  -- the token is cancelled already, or it is cancelled while the caller waits
  by_cases hbefore : moment ≤ t
  · simp [answer, hbefore]
  · simp [answer, hbefore, hearly]

/-- Time does not run backwards. -/
theorem le_answer (c : Call β) (since : Nat × σ) : since.1 ≤ (E.answer none c since).2.1 := by
  cases c with
  | isCancelled => exact Nat.le_refl _
  | unlessCancelled c => exact Nat.le_add_right _ _
  | _ => exact Nat.le_add_right _ _

/-- Two tokens make no difference to a program: its result, what it leaves behind and its calls
with their replies are the same. -/
structure SameRun (token token' : Option Nat) (p : Program α) (since : Nat × σ) : Prop where
  run : p.run (E.answer token) since = p.run (E.answer token') since
  trace : p.trace (E.answer token) since = p.trace (E.answer token') since

/-- Whatever a token does to the calls, a program makes a run of them. -/
theorem runs_trace (token : Option Nat) (p : Program α) (since : Nat × σ) :
    p.Runs (fun _ _ => True) (p.trace (E.answer token) since) (p.run (E.answer token) since).1 :=
  Program.runs_trace (fun _ _ => trivial) p since

variable {E}

/-- Two programs in sequence do not notice a token that neither of them notices. -/
theorem SameRun.bind {token token' : Option Nat} {p : Program α} {f : α → Program β}
    {since : Nat × σ} (hp : E.SameRun token token' p since)
    (hf : E.SameRun token token' (f (p.run (E.answer token') since).1)
      (p.run (E.answer token') since).2) : E.SameRun token token' (p >>= f) since where
  run := by
    rw [Program.run_bind, Program.run_bind, hp.run]
    exact hf.run
  trace := by
    rw [Program.trace_bind, Program.trace_bind, hp.run, hp.trace, hf.trace]

/-- A program does not notice a token that its first call and what follows do not notice. -/
theorem SameRun.call {token token' : Option Nat} {c : Call β} {next : β → Program α}
    {since : Nat × σ} (hc : E.answer token c since = E.answer token' c since)
    (hnext : E.SameRun token token' (next (E.answer token' c since).1)
      (E.answer token' c since).2) :
    E.SameRun token token' (.call c next) since where
  run := by
    rw [Program.run_call, Program.run_call, hc]
    exact hnext.run
  trace := by
    rw [Program.trace, Program.trace, hc, hnext.trace]

/-- A program that does not look at the token. -/
theorem sameRun_of_heedless {p : Program α}
    (h : p.Obeys (fun c => c.heedsToken = false) fun _ => True) (token : Option Nat)
    (since : Nat × σ) : E.SameRun token none p since := by
  induction p generalizing since with
  | done a => exact ⟨rfl, rfl⟩
  | call c next ih => exact .call (E.answer_of_heedless h.1 token since) (ih _ (h.2 _) _)

end Ensemble

open Program

section

variable {σ α : Type} {E : Ensemble σ} {token : Option Nat} {since : Nat × σ}
  {refused : CallError → α} {rest : Program α}

/-! ### The gate -/

/-- Behind a gate that is allowed stands the one question whether the caller has cancelled. -/
theorem gate_ok : gate (.ok ()) refused rest =
    call .isCancelled fun cancelled => if cancelled then done (refused .cancelled) else rest := by
  rw [gate, passIf, ask_bind, call_bind]
  congr 1
  funext cancelled
  cases cancelled <;> rfl

/-- A caller whose token is cancelled already is asked nothing more, and nobody else is. -/
theorem gate_of_cancelled (h : token.any (· ≤ since.1) = true) :
    (gate (.ok ()) refused rest).run (E.answer token) since = (refused .cancelled, since) ∧
      (gate (.ok ()) refused rest).trace (E.answer token) since = [⟨.isCancelled, true⟩] := by
  have hanswer : E.answer token .isCancelled since = (true, since) := by rw [Ensemble.answer, h]
  rw [gate_ok, run_call, trace, hanswer]
  exact ⟨rfl, rfl⟩

/-- Any other caller is through. -/
theorem gate_of_live (refused : CallError → α) (rest : Program α)
    (h : token.any (· ≤ since.1) = false) :
    (gate (.ok ()) refused rest).run (E.answer token) since = rest.run (E.answer token) since ∧
      (gate (.ok ()) refused rest).trace (E.answer token) since =
        ⟨.isCancelled, false⟩ :: rest.trace (E.answer token) since := by
  have hanswer : E.answer token .isCancelled since = (false, since) := by rw [Ensemble.answer, h]
  rw [gate_ok, run_call, trace, hanswer]
  exact ⟨rfl, rfl⟩

/-- What is behind the gate decides, once the gate has been passed. -/
theorem Ensemble.SameRun.gate (h : token.any (· ≤ since.1) = false)
    (hrest : E.SameRun token none rest since) :
    E.SameRun token none (gate (.ok ()) refused rest) since := by
  have hnever : (none : Option Nat).any (· ≤ since.1) = false := rfl
  obtain ⟨hrun, htrace⟩ := gate_of_live (E := E) refused rest h
  obtain ⟨hrun', htrace'⟩ := gate_of_live (E := E) refused rest hnever
  exact ⟨by rw [hrun, hrun', hrest.run], by rw [htrace, htrace', hrest.trace]⟩

end

namespace Session.Outboxed

variable {σ : Type} {E : Ensemble σ} {s : Outboxed} {o : Opened} {since : Nat × σ} {moment : Nat}

/-! ### The announcement -/

/-- What the reply to an announcement comes to. -/
def told : Option (Except DispatchError Unit) → Except CallError Unit
  | none => .error .cancelled
  | some (.error e) => .error (.dispatch e)
  | some (.ok ()) => .ok ()

/-- An announcement reads the clock and hands one operation over. -/
theorem announce_eq (s : Outboxed) (o : Opened) :
    s.announce o = call .now fun now =>
      call (.unlessCancelled (.dispatch [s.announcement o now])) fun reply =>
        done (told reply) := by
  -- both calls written out, with the token looked at by the second one only
  rw [announce, ask_bind]
  congr 1
  funext now
  rw [ask_bind]
  congr 1
  -- the three replies give the three results
  funext reply
  match reply with
  | none => rfl
  | some (.error e) => rfl
  | some (.ok ()) => rfl

/-- When the announcement is answered for a caller that never cancels. -/
def announcedAt (E : Ensemble σ) (s : Outboxed) (o : Opened) (since : Nat × σ) : Nat :=
  ((s.announce o).run (E.answer none) since).2.1

/-- The announcement is not answered before it is begun. -/
theorem le_announcedAt (E : Ensemble σ) (s : Outboxed) (o : Opened) (since : Nat × σ) :
    since.1 ≤ announcedAt E s o since := by
  rw [announcedAt, announce_eq, run_call, run_call, run_done]
  exact Nat.le_trans (E.le_answer _ _) (E.le_answer _ _)

/-- A cancellation that comes no later than the answer stops the announcement. -/
theorem announce_of_le (h : moment ≤ announcedAt E s o since) :
    ((s.announce o).run (E.answer (some moment)) since).1 = .error .cancelled ∧
      ∃ now, outward ((s.announce o).trace (E.answer (some moment)) since) =
        [⟨.unlessCancelled (.dispatch [s.announcement o now]), none⟩] := by
  rw [announcedAt, announce_eq, run_call, run_call, run_done] at h
  rw [announce_eq]
  -- the reading of the clock is the same for all tokens
  have hnow := E.answer_of_heedless (c := .now) rfl (some moment) since
  have hreply := E.answer_unlessCancelled_of_le h
  simp only [run_call, run_done, trace, hnow, hreply]
  exact ⟨rfl, _, rfl⟩

/-- One that comes later goes unnoticed. -/
theorem announce_of_lt (h : announcedAt E s o since < moment) :
    E.SameRun (some moment) none (s.announce o) since := by
  rw [announcedAt, announce_eq, run_call, run_call, run_done] at h
  rw [announce_eq]
  exact .call (E.answer_of_heedless rfl _ _)
    (.call (E.answer_unlessCancelled_of_lt h) ⟨rfl, rfl⟩)

/-! ### The rest of a commit -/

/-- What a commit does when the session has been announced, or could not be. -/
def conclude (s : Outboxed) (o : Opened) :
    Except CallError Unit → Program (Outboxed × Except CallError Unit)
  | .error e => s.finish .failed (.error e)
  | .ok () =>
    match o.transaction with
    | none => s.finish .failed (.error (.misuse .notOpen))
    | some tx => do
      let result ← s.makeDurable o.sessionId tx
      let phase := match result with
        | .ok () => Phase.committed
        | .error _ => .failed
      s.withoutTransaction.finish phase result

/-- The commit of an open session is the gate, the announcement and what comes after it. -/
theorem commit_eq (hopen : s.phase = .opened) (ho : s.opened = some o) :
    s.commit = gate (.ok ()) (fun e => (s, .error e)) (s.announce o >>= s.conclude o) := by
  have hgate : s.commit = gate s.phase.requireOpen (fun e => (s, Except.error e)) _ := rfl
  rw [hgate, hopen, ho]
  refine congrArg (gate (.ok ()) _) (congrArg (s.announce o >>= ·) (funext fun announced => ?_))
  cases announced with
  | error e => rfl
  | ok _ =>
    unfold conclude
    cases o.transaction <;> rfl

/-- A session that is finished does not look at the token. -/
theorem heedless_finish (phase : Phase) (result : Except CallError Unit) :
    (s.finish phase result).Obeys (fun c => c.heedsToken = false) fun _ => True :=
  (obeys_release (fun _ => rfl) rfl).bind fun _ _ => trivial

/-- From the announcement on the token is not looked at. -/
theorem heedless_conclude (s : Outboxed) (o : Opened) (announced : Except CallError Unit) :
    (s.conclude o announced).Obeys (fun c => c.heedsToken = false) fun _ => True := by
  cases announced with
  | error e => exact heedless_finish _ _
  | ok _ =>
    rw [conclude]
    cases o.transaction with
    | none => exact heedless_finish _ _
    | some tx => exact (obeys_makeDurable rfl rfl rfl rfl).bind fun _ _ => heedless_finish _ _

/-! ### Commits -/

/-- A token that is cancelled when the commit is called. -/
theorem commit_unheard (hopen : s.phase = .opened) (h : moment ≤ since.1) :
    s.commit.run (E.answer (some moment)) since = ((s, .error .cancelled), since) ∧
      outward (s.commit.trace (E.answer (some moment)) since) = [] := by
  have hgate : s.commit = gate s.phase.requireOpen (fun e => (s, Except.error e)) _ := rfl
  -- for an open session the gate is the question for the token, and it is answered with yes
  rw [hgate, hopen]
  have hcancelled : (some moment).any (· ≤ since.1) = true := by simpa using h
  obtain ⟨hrun, htrace⟩ := gate_of_cancelled (E := E) hcancelled
  exact ⟨hrun, congrArg outward htrace⟩

/-- A token that is cancelled later, but no later than the announcement is answered. -/
theorem commit_stopped {tx : TransactionId} (hopen : s.phase = .opened) (ho : s.opened = some o)
    (htx : o.transaction = some tx) (hreleased : s.released = false) (hlive : since.1 < moment)
    (h : moment ≤ announcedAt E s o since) :
    (s.commit.run (E.answer (some moment)) since).1 = (s.ended .failed, .error .cancelled) ∧
      ∃ now, outward (s.commit.trace (E.answer (some moment)) since) =
        [⟨.unlessCancelled (.dispatch [s.announcement o now]), none⟩, ⟨.rollback tx, ()⟩,
          ⟨.closeStaging s.staging, ()⟩] := by
  rw [commit_eq hopen ho]
  -- the token is looked at twice: at the gate, where it is not yet cancelled, and here, where it is
  have hnotYet : (some moment).any (· ≤ since.1) = false := by simpa using hlive
  obtain ⟨hrun, htrace⟩ := gate_of_live (E := E) (fun e => (s, .error e))
    (s.announce o >>= s.conclude o) hnotYet
  obtain ⟨htold, now, hannounce⟩ := announce_of_le h
  -- the session can only be finished, and it lets its transaction go
  obtain ⟨hended, hreleases⟩ := runs_finish (E.runs_trace (some moment)
    (s.finish .failed (.error .cancelled)) ((s.announce o).run (E.answer (some moment)) since).2)
  rw [hrun, htrace, run_bind, trace_bind, htold]
  -- the session is finished as a failed one, and only then is it asked what was called outside
  refine ⟨Prod.ext hended ?_, now, ?_⟩
  · rw [conclude, finish, run_bind]
    rfl
  · show outward (_ ++ _) = _
    rw [outward_append, hannounce, conclude, hreleases, releases_opened ho htx hreleased]
    rfl

/-- A token that is cancelled when the announcement has been answered. -/
theorem sameRun_commit (hopen : s.phase = .opened) (ho : s.opened = some o)
    (hlive : since.1 < moment) (h : announcedAt E s o since < moment) :
    E.SameRun (some moment) none s.commit since := by
  rw [commit_eq hopen ho]
  refine .gate (by simpa using hlive) (.bind (announce_of_lt h) ?_)
  -- after the announcement nobody looks at the token
  exact Ensemble.sameRun_of_heedless (heedless_conclude s o _) _ _

end Session.Outboxed

namespace Session.Direct

variable {σ : Type} {E : Ensemble σ} {s : Direct} {since : Nat × σ} {moment : Nat}

/-- A token that is cancelled when the commit is called stops a session without an outbox too. -/
theorem commit_unheard (hopen : s.phase = .opened) (h : moment ≤ since.1) :
    s.commit.run (E.answer (some moment)) since = ((s, .error .cancelled), since) ∧
      outward (s.commit.trace (E.answer (some moment)) since) = [] := by
  have hgate : s.commit = gate s.phase.requireOpen (fun e => (s, Except.error e)) _ := rfl
  rw [hgate, hopen]
  have hcancelled : (some moment).any (· ≤ since.1) = true := by simpa using h
  obtain ⟨hrun, htrace⟩ := gate_of_cancelled (E := E) hcancelled
  exact ⟨hrun, congrArg outward htrace⟩

/-- A session without an outbox does not look at the token when it is finished. -/
theorem heedless_finish (phase : Phase) (result : Except CallError Unit) :
    (s.finish phase result).Obeys (fun c => c.heedsToken = false) fun _ => True := by
  have hrelease : s.release.Obeys (fun c => c.heedsToken = false) fun _ => True := by
    unfold release
    split
    · exact trivial
    · exact ⟨rfl, fun _ => trivial⟩
  exact hrelease.bind fun _ _ => trivial

/-- Behind the gate a commit without an outbox does not look at the token. -/
theorem sameRun_commit (hopen : s.phase = .opened) (hlive : since.1 < moment) :
    E.SameRun (some moment) none s.commit since := by
  have hgate : s.commit = gate s.phase.requireOpen (fun e => (s, Except.error e)) _ := rfl
  rw [hgate, hopen]
  refine .gate (by simpa using hlive) ?_
  apply Ensemble.sameRun_of_heedless
  -- the changes are handed over and then the batch, and for neither is the token looked at
  refine ⟨rfl, fun completed => ?_⟩
  cases completed with
  | error e => exact heedless_finish _ _
  | ok _ =>
    have hdispatch : s.dispatchBatch.Obeys (fun c => c.heedsToken = false) fun _ => True := by
      unfold dispatchBatch
      split
      · exact trivial
      · exact ⟨rfl, fun _ => trivial⟩
    refine hdispatch.bind fun dispatched _ => ?_
    cases dispatched <;> exact heedless_finish _ _

end Session.Direct

/-! ### Scripts -/

/-- Whether a call is made on a collaborator as it is, or to be given up. -/
def Call.isSingle {β : Type} : Call β → Bool
  | .unlessCancelled c => !c.heedsToken
  | _ => true

namespace Stage

variable {α β : Type} {s : Stage} {token : Option Nat}

/-- No call stalls. -/
def Answers (s : Stage) : Prop :=
  ∀ cue ∈ [s.script.beginTransaction, s.script.attach, s.script.openStaging, s.script.complete,
    s.script.addRecord, s.script.commit, s.script.dispatch], cue ≠ .stall

/-- The stage at a time, for a caller who cancels at a moment, if ever. -/
def resumed (s : Stage) (t : Nat) (token : Option Nat) : Stage :=
  { s with elapsed := t, cancelAt := token }

/-- The collaborators on a stage where no call stalls. -/
def ensemble : Ensemble Stage where
  respond c t s :=
    match respond c (s.resumed t none) with
    | (reply, duration, s) => (reply, duration.getD 0, s)
  giveUp c t _ s := (respond c (s.resumed t none)).2.2

/-- A cue that is no stall comes to an end after some time. -/
theorem reply_of_ne_stall {cue : Cue} (h : cue ≠ .stall) (reply : β) (s : Stage) :
    (reply, duration cue, s) = (reply, some ((duration cue).getD 0), s) := by
  have hsome : ∃ d, duration cue = some d := by
    cases cue with
    | stall => exact absurd rfl h
    | _ => exact ⟨_, rfl⟩
  obtain ⟨d, hd⟩ := hsome
  rw [hd, Option.getD_some]

/-- A call that does not look at the token is answered as the script says. -/
theorem respond_of_heedless {c : Call β} (hc : c.heedsToken = false) (h : s.Answers) (t : Nat)
    (token : Option Nat) :
    respond c (s.resumed t token) = ((ensemble.respond c t s).1,
      some (ensemble.respond c t s).2.1, (ensemble.respond c t s).2.2.resumed t token) ∧
    (ensemble.respond c t s).2.2.Answers := by
  have hcues := h
  simp only [Answers, List.mem_cons, List.not_mem_nil, or_false, forall_eq_or_imp, forall_eq]
    at hcues
  obtain ⟨hbegin, hattach, hopen, hcomplete, hrecord, hcommit, hdispatch⟩ := hcues
  cases c with
  -- calls without a cue are answered at once
  | isCancelled | unlessCancelled c => exact nomatch hc
  | now | freshId | closeStaging _ | rollback _ | getRecord _ _ | setDispatched _ _ | handle _
  | observe _ => exact ⟨rfl, h⟩
  | beginTransaction store hints => exact ⟨reply_of_ne_stall hbegin _ _, h⟩
  | attach staging tx hints => exact ⟨reply_of_ne_stall hattach _ _, h⟩
  | openStaging staging hints => exact ⟨reply_of_ne_stall hopen _ _, h⟩
  | complete staging => exact ⟨reply_of_ne_stall hcomplete _ _, h⟩
  | addRecord store r tx => exact ⟨reply_of_ne_stall hrecord _ _, h⟩
  | commit tx => exact ⟨reply_of_ne_stall hcommit _ _, h⟩
  | dispatch ops => exact ⟨reply_of_ne_stall hdispatch _ _, h⟩

/-- A call that the caller may give up. -/
theorem answer?_unlessCancelled {c : Call β} (hc : c.heedsToken = false) (h : s.Answers)
    (t : Nat) (token : Option Nat) :
    let r := ensemble.answer token (.unlessCancelled c) (t, s)
    answer? (.unlessCancelled c) (s.resumed t token) = some (r.1, r.2.2.resumed r.2.1 token) ∧
      r.2.2.Answers := by
  obtain ⟨hrespond, hanswers⟩ := respond_of_heedless hc h t token
  cases token with
  | none =>
    refine ⟨?_, hanswers⟩
    rw [answer?, respond, hrespond]
    rfl
  | some moment =>
    -- the token is cancelled before, while the caller waits, or too late; in each case both sides
    -- leave the same stage
    by_cases hbefore : moment ≤ t
    · have hanswer : ensemble.answer (some moment) (.unlessCancelled c) (t, s) = (none, t, s) := by
        simp [Ensemble.answer, hbefore]
      rw [hanswer]
      refine ⟨?_, h⟩
      simp [answer?, respond, resumed, hbefore]
    by_cases hready : moment ≤ t + (ensemble.respond c t s).2.1
    · -- the stage notes a call that is given up as it notes any other
      have hanswer : ensemble.answer (some moment) (.unlessCancelled c) (t, s) =
          (none, moment, (ensemble.respond c t s).2.2) := by
        rw [show (ensemble.respond c t s).2.2 = ensemble.giveUp c t moment s from rfl]
        simp [Ensemble.answer, hbefore, hready]
      have hwait : t + (moment - t) = moment := by omega
      rw [hanswer]
      refine ⟨?_, hanswers⟩
      rw [answer?, respond, hrespond]
      simp [resumed, hbefore, hready, hwait]
    · have hanswer : ensemble.answer (some moment) (.unlessCancelled c) (t, s) =
          (some (ensemble.respond c t s).1, t + (ensemble.respond c t s).2.1,
            (ensemble.respond c t s).2.2) := by
        simp [Ensemble.answer, hbefore, hready]
      rw [hanswer]
      refine ⟨?_, hanswers⟩
      rw [answer?, respond, hrespond]
      simp [resumed, hbefore, hready]

/-- Any call but a nested one is answered on a stage as by the collaborators on it. -/
theorem answer?_resumed {c : Call β} (hc : c.isSingle = true) (h : s.Answers) (t : Nat)
    (token : Option Nat) :
    let r := ensemble.answer token c (t, s)
    answer? c (s.resumed t token) = some (r.1, r.2.2.resumed r.2.1 token) ∧ r.2.2.Answers := by
  cases hheeds : c.heedsToken with
  | false =>
    obtain ⟨hrespond, hanswers⟩ := respond_of_heedless hheeds h t token
    rw [ensemble.answer_eq_respond hheeds]
    refine ⟨?_, hanswers⟩
    rw [answer?, hrespond]
    rfl
  | true =>
    cases c with
    | isCancelled => exact ⟨rfl, h⟩
    | unlessCancelled c =>
      have hheedless : c.heedsToken = false := by simpa [Call.isSingle] using hc
      exact answer?_unlessCancelled hheedless h t token
    | _ => exact nomatch hheeds

/-- What a program does on a stage is what it does with the collaborators on it. -/
theorem run?_resumed {p : Program α} (hp : p.Obeys (fun c => c.isSingle = true) fun _ => True)
    (h : s.Answers) (t : Nat) :
    let r := p.run (ensemble.answer token) (t, s)
    p.run? answer? (s.resumed t token) = some (r.1, r.2.2.resumed r.2.1 token) := by
  -- the stage may change with every call, but none of them makes the script stall
  induction p generalizing s t with
  | done a => rfl
  | call c next ih =>
    obtain ⟨hanswer, hanswers⟩ := answer?_resumed hp.1 h t token
    rw [Program.run?, hanswer]
    exact ih _ (hp.2 _) hanswers _

/-- A call that does not look at the token is not given up. -/
theorem isSingle_of_heedless {c : Call β} (h : c.heedsToken = false) : c.isSingle = true := by
  cases c with
  | unlessCancelled c => exact nomatch h
  | _ => rfl

/-- What the commit of an open session does on a stage. -/
theorem run?_commit {session : Session.Outboxed} {o : Session.Opened}
    (hopen : session.phase = .opened) (ho : session.opened = some o) (h : s.Answers) (t : Nat) :
    let r := session.commit.run (ensemble.answer token) (t, s)
    session.commit.run? answer? (s.resumed t token) = some (r.1, r.2.2.resumed r.2.1 token) := by
  refine run?_resumed ?_ h t
  -- the commit is opened up into its calls; none of them is nested
  rw [Session.Outboxed.commit_eq hopen ho, gate_ok, Session.Outboxed.announce_eq]
  refine ⟨rfl, fun cancelled => ?_⟩
  cases cancelled with
  | true => exact trivial
  | false =>
    refine ⟨rfl, fun now => ⟨rfl, fun reply => ?_⟩⟩
    have hconclude := Session.Outboxed.heedless_conclude session o (Session.Outboxed.told reply)
    exact hconclude.imp fun _ hc => isSingle_of_heedless hc

end Stage

/-! ### Moment by moment -/

namespace Session

/-- What a token does to a commit that is cancelled at a moment, whatever the collaborators reply
and however long they take. For an open session with an outbox: a token that is cancelled already
leaves everything as it is; one that is cancelled no later than the announcement is answered has
the transaction let go and nothing stored; one that is cancelled later makes no difference. For an
open session without an outbox only a token that is cancelled already makes a difference. -/
theorem commit_cancelled {σ : Type} (E : Ensemble σ) (since : Nat × σ) (moment : Nat)
    {s₀ s : Outboxed} {uses : List Use} (hnew : New (.outboxed s₀))
    (hused : Used (fun _ _ => True) (.outboxed s₀) uses (.outboxed s)) (hopen : s.phase = .opened)
    {p : Direct} (hdirect : p.phase = .opened) :
    ∃ o tx, s.opened = some o ∧ o.transaction = some tx ∧
    (moment ≤ since.1 →
      let r := s.commit.run (E.answer (some moment)) since
      r = ((s, .error .cancelled), since) ∧
      outward (s.commit.trace (E.answer (some moment)) since) = [] ∧
      ∀ token, r.1.1.commit.run (E.answer token) r.2 = s.commit.run (E.answer token) since) ∧
    (since.1 < moment → moment ≤ Outboxed.announcedAt E s o since →
      let r := s.commit.run (E.answer (some moment)) since
      r.1.2 = .error .cancelled ∧ r.1.1.phase = .failed ∧ r.1.1.transaction? = none ∧
      ∃ op : Shipment, op.IsAnnouncement s.processorAddress ∧ op.message.id = o.sessionId ∧
        outward (s.commit.trace (E.answer (some moment)) since) =
          [⟨.unlessCancelled (.dispatch [op]), none⟩, ⟨.rollback tx, ()⟩,
            ⟨.closeStaging s.staging, ()⟩]) ∧
    (Outboxed.announcedAt E s o since < moment → E.SameRun (some moment) none s.commit since) ∧
    (moment ≤ since.1 →
      p.commit.run (E.answer (some moment)) since = ((p, .error .cancelled), since) ∧
      outward (p.commit.trace (E.answer (some moment)) since) = []) ∧
    (since.1 < moment → E.SameRun (some moment) none p.commit since) := by
  have htidy : s.Tidy := (hused.batch hnew.tidy).1
  obtain ⟨hreleased, o, tx, ho, htx, hid⟩ := htidy.opened hopen
  -- one goal for each window of the moment, first with and then without an outbox
  refine ⟨o, tx, ho, htx, fun h => ?_, fun hlive h => ?_, fun h => ?_, ?_, ?_⟩
  · obtain ⟨hrun, hcalls⟩ := Outboxed.commit_unheard (E := E) hopen h
    exact ⟨hrun, hcalls, fun token => by rw [hrun]⟩
  · obtain ⟨hrun, now, hcalls⟩ := Outboxed.commit_stopped hopen ho htx hreleased hlive h
    refine ⟨congrArg Prod.snd hrun, ?_, ?_, _, Outboxed.isAnnouncement s o now, hid, hcalls⟩
    · rw [hrun]
      rfl
    · rw [hrun]
      exact Outboxed.transaction?_withoutTransaction s
  · exact Outboxed.sameRun_commit hopen ho
      (Nat.lt_of_le_of_lt (Outboxed.le_announcedAt E s o since) h) h
  · exact Direct.commit_unheard hdirect
  · exact Direct.sameRun_commit hdirect

/-- A stage whose transport takes five milliseconds. -/
def slowTransport : Stage := { script := { dispatch := .delay 5 }, start := .epoch }

/-- A session with an outbox before it is opened. -/
def beforeOpen : Outboxed :=
  { store := "db", staging := 0, router := {}, processorAddress := "processor" }

/-- The session, opened on the stage. -/
def slowOutboxed : Outboxed :=
  ((beforeOpen.openWith { sessionId := some "session" }).run (Stage.ensemble.answer none)
    (0, slowTransport)).1.1

/-- A session without an outbox, opened on the stage. -/
def slowDirect : Direct :=
  ((Direct.openWith { staging := 0, router := {} } { sessionId := some "session" }).run
    (Stage.ensemble.answer none) (0, slowTransport)).1.1

/-- The session on the slow stage has been opened like any other. -/
theorem used_slowOutboxed : ∃ uses,
    Used (fun _ _ => True) (.outboxed beforeOpen) uses (.outboxed slowOutboxed) := by
  have hrun := Stage.ensemble.runs_trace none ((Session.outboxed beforeOpen).perform
    (.openWith { sessionId := some "session" })) (0, slowTransport)
  exact ⟨[⟨.openWith { sessionId := some "session" }, _, .ok ()⟩], .next hrun (.none _)⟩

/-- The announcement is answered after five milliseconds: a cancellation at once, one at that very
moment, and one a millisecond later. -/
theorem commit_cancelled_slowTransport :
    New (.outboxed beforeOpen) ∧
    (∃ uses, Used (fun _ _ => True) (.outboxed beforeOpen) uses (.outboxed slowOutboxed)) ∧
    slowOutboxed.phase = .opened ∧ slowDirect.phase = .opened ∧
    (slowOutboxed.commit.run (Stage.ensemble.answer (some 0)) (0, slowTransport)).1.2 =
      .error .cancelled ∧
    (slowOutboxed.commit.run (Stage.ensemble.answer (some 5)) (0, slowTransport)).1.2 =
      .error .cancelled ∧
    (slowOutboxed.commit.run (Stage.ensemble.answer (some 5)) (0, slowTransport)).1.1.phase =
      .failed ∧
    Stage.ensemble.SameRun (some 6) none slowOutboxed.commit (0, slowTransport) ∧
    Stage.ensemble.SameRun (some 6) none slowDirect.commit (0, slowTransport) ∧
    (slowOutboxed.commit.run (Stage.ensemble.answer none) (0, slowTransport)).1.1.phase =
      .committed := by
  have hnew : New (.outboxed beforeOpen) := .outboxed ..
  obtain ⟨uses, hused⟩ := used_slowOutboxed
  have hopen : slowOutboxed.phase = .opened := by decide +kernel
  have hdirect : slowDirect.phase = .opened := by decide +kernel
  -- the announcement is what takes the five milliseconds
  have hanswered : (slowOutboxed.opened.map fun o =>
      Outboxed.announcedAt Stage.ensemble slowOutboxed o (0, slowTransport)) = some 5 := by
    decide +kernel
  -- the theorem is used at three moments: at once, at five and at six milliseconds
  obtain ⟨_, _, -, -, hearly, -⟩ :=
    commit_cancelled Stage.ensemble (0, slowTransport) 0 hnew hused hopen hdirect
  obtain ⟨o, _, ho, -, -, htie, -⟩ :=
    commit_cancelled Stage.ensemble (0, slowTransport) 5 hnew hused hopen hdirect
  obtain ⟨o', _, ho', -, -, -, hlate, -, hdirectLate⟩ :=
    commit_cancelled Stage.ensemble (0, slowTransport) 6 hnew hused hopen hdirect
  have hat : Outboxed.announcedAt Stage.ensemble slowOutboxed o (0, slowTransport) = 5 := by
    rw [ho, Option.map_some] at hanswered
    exact Option.some.inj hanswered
  obtain rfl : o = o' := Option.some.inj (ho.symm.trans ho')
  obtain ⟨hrefused, -⟩ := hearly (Nat.le_refl 0)
  obtain ⟨hstopped, hfailed, -⟩ := htie (by decide) (Nat.le_of_eq hat.symm)
  exact ⟨hnew, ⟨uses, hused⟩, hopen, hdirect, by rw [hrefused], hstopped, hfailed,
    hlate (hat ▸ by decide), hdirectLate (by decide), by decide +kernel⟩

end Session

end Outbox
