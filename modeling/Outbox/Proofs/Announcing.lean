import Outbox.Proofs.Life

/-!
# What sessions announce

A session with an outbox tells no outcomes. What it holds since it was opened stays in order: the
opening was valid, and the countdown has its durations. So has the control message with which it is
announced.

* `Session.obeys_perform`  every request keeps this
-/

namespace Outbox

open Program

/-- What an opening has left in a session is regular. -/
structure Session.Opened.Regular (o : Session.Opened) : Prop where
  valid : o.opening.validate = .ok ()
  countdown : Countdown.initial o.sessionId o.opening.commitBudget o.opening.firstDelay none =
    .ok o.countdown

/-- The call tells nothing. -/
abbrev Call.Mute {β : Type} (c : Call β) : Prop := c.kind ≠ .observe

/-- A program that asks nobody outside tells nothing. -/
theorem Program.Quiet.mute {α : Type} {p : Program α} (hp : p.Quiet) :
    p.Obeys Call.Mute fun _ => True :=
  hp.obeys.imp fun _ hinward hobserve => nomatch hinward.symm.trans hobserve

namespace Session.Outboxed

variable {s : Session.Outboxed}

/-- What the session holds, if it has been opened, is regular. -/
def Prepared (s : Outboxed) : Prop := ∀ o, s.opened = some o → o.Regular

/-- A session keeps what it has been opened with when it lets its transaction go. -/
theorem Prepared.withoutTransaction (h : s.Prepared) : s.withoutTransaction.Prepared := by
  -- the transaction is no part of what is regular
  intro o ho
  obtain ⟨o', ho', rfl⟩ := Option.map_eq_some_iff.1 ho
  exact ⟨(h o' ho').valid, (h o' ho').countdown⟩

/-- A release keeps it too. -/
theorem Prepared.release (h : s.Prepared) : s.release.Obeys Call.Mute Prepared := by
  refine (obeys_release (fun _ => nofun) nofun).mono ?_
  rintro _ rfl
  exact h.withoutTransaction

/-- So does the end of a commit, whatever its result. -/
theorem Prepared.finish (h : s.Prepared) (phase : Phase) (result : Except CallError Unit) :
    (s.finish phase result).Obeys Call.Mute fun r => r.1.Prepared :=
  h.release.bind fun _ hreleased => hreleased

/-- So does giving an opening up. -/
theorem Prepared.abandon (h : s.Prepared) (tx : TransactionId) (e : CallError) :
    (s.abandon tx e).Obeys Call.Mute fun r => r.1.Prepared :=
  h.release.bind fun _ hreleased => ⟨nofun, fun _ => hreleased⟩

/-- An opening in order that starts leaves something regular behind, or nothing new. -/
theorem Prepared.start (h : s.Prepared) {opening : Opening} {id : String} {countdown : Countdown}
    (horder : ∀ tx, Opened.Regular ⟨id, countdown, opening, tx⟩) :
    (s.start opening id countdown).Obeys Call.Mute fun r => r.1.Prepared := by
  refine ⟨nofun, fun begun => ?_⟩
  match begun with
  -- the store has not begun a transaction, so the session is as it was
  | none => exact h
  | some (.error e) => exact h
  | some (.ok tx) =>
    refine ⟨nofun, fun joined => ?_⟩
    match joined with
    -- the staging has not joined, so the session gives up what it had not yet taken
    | none => exact h.abandon tx _
    | some (.error e) => exact h.abandon tx _
    | some (.ok false) => exact h.abandon tx _
    | some (.ok true) =>
      -- only here does the session hold something new, and it is what was prepared
      intro o ho
      obtain rfl := Option.some.inj ho
      exact horder (some tx)

/-- An open checks the opening and computes the countdown before it starts. -/
theorem Prepared.openWith (h : s.Prepared) (opening : Opening) :
    (s.openWith opening).Obeys Call.Mute fun r => r.1.Prepared := by
  -- first the gate, then the opening, then the id, then the countdown
  refine (quiet_passIf _).mute.bind fun passed _ => ?_
  cases passed with
  | error e => exact h
  | ok _ =>
    dsimp only
    -- in each exit before the last nothing has been changed
    split
    · exact h
    · next hvalid =>
      refine (quiet_chooseId opening).mute.bind fun choice _ => ?_
      cases choice with
      | error e => exact h
      | ok id =>
        dsimp only
        split
        · exact h
        · next countdown hcountdown => exact h.start fun _ => ⟨hvalid, hcountdown⟩

/-- A commit announces the session and makes its batch durable, neither of which is an outcome. -/
theorem Prepared.commit (h : s.Prepared) :
    s.commit.Obeys Call.Mute fun r => r.1.Prepared := by
  -- the same gate, and behind it the three stages of a commit
  refine (quiet_passIf _).mute.bind fun passed _ => ?_
  cases passed with
  | error e => exact h
  | ok _ =>
    dsimp only
    split
    · exact h.finish _ _
    · next o ho =>
      -- what is said to the processor is a message, not an outcome
      have hannounce : (s.announce o).Obeys Call.Mute fun _ => True := by
        refine ⟨nofun, fun now => ⟨nofun, fun reply => ?_⟩⟩
        match reply with
        | none => exact trivial
        | some (.error e) => exact trivial
        | some (.ok _) => exact trivial
      refine hannounce.bind fun announced _ => ?_
      cases announced with
      | error e => exact h.finish _ _
      | ok _ =>
        dsimp only
        split
        · exact h.finish _ _
        · refine (obeys_makeDurable nofun nofun nofun nofun).bind fun durable _ => ?_
          -- whatever came of it, the session without its transaction is finished
          exact h.withoutTransaction.finish _ _

/-- A session that is disposed of releases what it holds, once. -/
theorem Prepared.dispose (h : s.Prepared) : s.dispose.Obeys Call.Mute Prepared := by
  unfold Outboxed.dispose
  split
  · exact h
  · exact h.release.bind fun _ hreleased => hreleased

/-- An operation is added to the batch, or the session stays as it is. -/
theorem Prepared.collect (h : s.Prepared) {p : Program (Except CallError Operation)}
    (hp : p.Quiet) :
    (p >>= fun collected => match collected with
      | .error e => (done (s, .error e) : Program (Outboxed × Except CallError Unit))
      | .ok op => done (s.add op, .ok ())).Obeys Call.Mute fun r => r.1.Prepared := by
  refine hp.mute.bind fun collected _ => ?_
  cases collected with
  | error e => exact h
  | ok op => exact h

end Session.Outboxed

/-- The session has an outbox, and what it holds is regular. -/
def Session.Prepared (session : Session) : Prop :=
  ∃ s, session = .outboxed s ∧ s.Prepared

/-- What holds of a request on a session with an outbox holds of it on any session of that kind. -/
theorem Session.obeys_request {p : Program (Session.Outboxed × Except CallError Unit)}
    (h : p.Obeys Call.Mute fun r => r.1.Prepared) :
    (p >>= (fun r => done (r.map .outboxed id)) >>= fun r => done (r.map some id)).Obeys Call.Mute
      fun r : Option Session × Except CallError Unit =>
        ∀ session, r.1 = some session → session.Prepared := by
  rw [bind_assoc]
  refine h.bind fun r hr session hsession => ?_
  exact ⟨r.1, (Option.some.inj hsession).symm, hr⟩

/-- No request tells an outcome, and every request leaves what the session holds regular. -/
theorem Session.obeys_perform {session : Session} (h : session.Prepared) (what : Session.Request) :
    (session.perform what).Obeys Call.Mute fun r => ∀ s, r.1 = some s → s.Prepared := by
  obtain ⟨s, rfl, hs⟩ := h
  -- one case for each request; a session that is gone is not asked about
  cases what with
  | openWith opening => exact obeys_request (hs.openWith opening)
  | send m how => exact obeys_request (hs.collect (quiet_collectSend ..))
  | publish m how => exact obeys_request (hs.collect (quiet_collectPublish ..))
  | commit => exact obeys_request hs.commit
  | dispose =>
    have hdispose : (Session.dispose (.outboxed s)).Obeys Call.Mute Prepared :=
      hs.dispose.bind fun s' hs' => ⟨s', rfl, hs'⟩
    exact hdispose.bind fun left hleft session hsession => Option.some.inj hsession ▸ hleft
  | drop =>
    have hdrop : s.drop.Obeys Call.Mute fun _ => True := hs.release.bind fun _ _ => trivial
    exact hdrop.bind fun _ _ session hsession => nomatch hsession

end Outbox
