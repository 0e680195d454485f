import Outbox.Proofs.Contract.Timely
import Outbox.Proofs.Course
import Outbox.Session

/-!
# The life of a session takes one of its courses

Whatever the owner of a session with an outbox requests of it, and whatever the collaborators reply,
the calls that the session makes from its start to its end are one of the courses of `Course`.

A session between two requests is unopened, open, or over, and `Ahead` says which calls can still
come. Each request makes the first of them and leaves the rest ahead of the session.

* `Session.Outboxed.Advances`  what a request does to the calls ahead
* `Session.live_course`        the calls of a whole life
-/

namespace Outbox

open Program

/-- Makes requests on a session one after the other, and then destroys it. -/
def Session.live (session : Session) : List Session.Request → Program Unit
  | [] => session.drop
  | what :: rest => do
    match (← session.perform what).1 with
    | some session => session.live rest
    | none => return ()

section

variable {α β : Type} {may : {β : Type} → Call β → β → Prop} {calls : List Exchange}

/-! ### Programs that call no collaborator -/

/-- The program calls nothing but the clock, the source of ids and the caller. -/
abbrev Program.Quiet (p : Program α) : Prop := p.Only (· = .inward)

/-- No collaborator takes notice of a quiet program. -/
theorem Program.Quiet.outward_eq_nil {p : Program α} {a : α} (hp : p.Quiet)
    (h : p.Runs may calls a) : outward calls = [] := by
  refine List.filter_eq_nil_iff.2 fun e he => ?_
  rw [hp.of_runs h e he]
  decide

/-- To ask for permission makes no outward call. -/
theorem quiet_passIf (allowed : Except Misuse Unit) : (passIf allowed).Quiet := by
  unfold passIf
  cases allowed with
  | error e => exact trivial
  | ok _ => exact ⟨rfl, fun b => by cases b <;> exact trivial⟩

/-- To give a message its id and time makes no outward call. -/
theorem quiet_identify (r : Router) (m : Draft) (id : Option String) (extra : Headers)
    (intent : Router.Intent) : (r.identify m id extra intent).Quiet := by
  unfold Router.identify
  cases id with
  | none => exact ⟨rfl, fun id => ⟨rfl, fun now => trivial⟩⟩
  | some id => exact ⟨rfl, fun now => trivial⟩

/-- To prepare an operation to send makes no outward call. -/
theorem quiet_operationToSend (r : Router) (m : Draft) (how : Sending) :
    (r.operationToSend m how).Quiet := by
  unfold Router.operationToSend
  split
  · exact trivial
  · exact (quiet_identify ..).bind fun message => trivial

/-- To prepare an operation to publish makes no outward call. -/
theorem quiet_operationToPublish (r : Router) (m : Draft) (how : Publishing) :
    (r.operationToPublish m how).Quiet :=
  (quiet_identify ..).bind fun _ => trivial

/-- To collect what is sent makes no outward call. -/
theorem quiet_collectSend (phase : Session.Phase) (r : Router) (m : Draft) (how : Sending) :
    (collectSend phase r m how).Quiet := by
  unfold collectSend
  refine (quiet_passIf _).bind fun result => ?_
  cases result with
  | error e => exact trivial
  | ok _ => exact (quiet_operationToSend ..).bind fun op => by cases op <;> exact trivial

/-- To collect what is published makes no outward call. -/
theorem quiet_collectPublish (phase : Session.Phase) (r : Router) (m : Draft)
    (how : Publishing) : (collectPublish phase r m how).Quiet := by
  unfold collectPublish
  refine (quiet_passIf _).bind fun result => ?_
  cases result with
  | error e => exact trivial
  | ok _ => exact (quiet_operationToPublish ..).bind fun op => trivial

/-- To choose an id makes no outward call. -/
theorem quiet_chooseId (opening : Opening) : opening.chooseId.Quiet := by
  unfold Opening.chooseId
  split
  · exact ⟨rfl, fun id => trivial⟩
  · exact trivial

namespace Session.Outboxed

variable {s s' : Session.Outboxed} {result : Outboxed × Except CallError Unit}

/-! ### Where a session stands, and what is ahead of it -/

/-- What holds of a session between two requests. -/
structure Tidy (s : Outboxed) : Prop where
  unopened : s.phase = .unopened → s.transaction? = none ∧ s.released = false
  opened : s.phase = .opened → s.released = false ∧ ∃ o tx, s.opened = some o ∧
    o.transaction = some tx ∧ o.countdown.sessionId = o.sessionId
  finished : s.phase ≠ .unopened → s.phase ≠ .opened → s.transaction? = none ∧ s.released = true

/-- The calls that can still come. -/
def Ahead (s : Outboxed) (calls : List Exchange) : Prop :=
  match s.phase with
  | .unopened => Course s.store s.staging s.processorAddress calls
  | .opened => ∃ tx, s.transaction? = some tx ∧
      Course.Opened s.store s.staging s.processorAddress tx calls
  | _ => calls = []

/-- A request has made calls, and leaves the session with the rest of what was ahead of it. -/
structure Advances (s : Outboxed) (calls : List Exchange) (s' : Outboxed) : Prop where
  tidy : s'.Tidy
  ahead : ∀ rest, s'.Ahead rest → s.Ahead (calls ++ rest)

/-- A new session is tidy. -/
theorem tidy_of_unopened (hphase : s.phase = .unopened) (hopened : s.opened = none)
    (hreleased : s.released = false) : s.Tidy where
  unopened _ := ⟨by rw [transaction?, hopened, Option.bind_none], hreleased⟩
  opened hp := absurd (hphase.symm.trans hp) nofun
  finished hu _ := absurd hphase hu

/-- A session that stays as it is has all calls ahead that it had. -/
theorem Tidy.stays (h : s.Tidy) : s.Advances [] s := ⟨h, fun _ hrest => hrest⟩

/-- The batch does not count for what is ahead. -/
theorem Tidy.add (h : s.Tidy) (op : Operation) : s.Advances [] (s.add op) :=
  ⟨⟨h.unopened, h.opened, h.finished⟩, fun _ hrest => hrest⟩

/-- What is not allowed leaves the session alone, and so does a caller who has cancelled. -/
theorem advances_passIf {allowed : Except Misuse Unit}
    {rest : Program (Outboxed × Except CallError Unit)} (h : s.Tidy)
    (hrun : (passIf allowed >>= fun passed => match passed with
      | .error e => done (s, .error e)
      | .ok () => rest).Runs may calls result)
    (hrest : ∀ later, allowed = .ok () → rest.Runs may later result →
      s.Advances (outward later) result.1) :
    s.Advances (outward calls) result.1 := by
  obtain ⟨first, second, passed, hfirst, hsecond, rfl⟩ := runs_bind.1 hrun
  rw [outward_append, (quiet_passIf _).outward_eq_nil hfirst, List.nil_append]
  -- an error ends the request before it does anything
  cases passed with
  | error e =>
    obtain ⟨rfl, rfl⟩ := runs_done.1 hsecond
    exact h.stays
  | ok _ =>
    cases allowed with
    | error e => exact nomatch (runs_done.1 hfirst).2
    | ok _ => exact hrest second rfl hsecond

/-- A session that has released what it held. -/
def ended (s : Outboxed) (phase : Phase) : Outboxed :=
  { s.withoutTransaction with released := true, phase }

/-- A session without a transaction has none. -/
theorem transaction?_withoutTransaction (s : Outboxed) :
    s.withoutTransaction.transaction? = none := by
  unfold withoutTransaction transaction?
  cases s.opened <;> rfl

/-- A session ends with the last calls that were ahead of it. -/
theorem advances_ended {phase : Phase} (hu : phase ≠ .unopened) (ho : phase ≠ .opened)
    (h : s.Ahead calls) : s.Advances calls (s.ended phase) where
  tidy :=
    { unopened := fun hp => absurd hp hu
      opened := fun hp => absurd hp ho
      finished := fun _ _ => ⟨transaction?_withoutTransaction s, rfl⟩ }
  ahead rest hrest := by
    -- a session that is over has no call ahead of it
    have hnil : rest = [] := by
      cases phase with
      | unopened => exact absurd rfl hu
      | opened => exact absurd rfl ho
      | committed | failed | disposed => exact hrest
    rw [hnil, List.append_nil]
    exact h

/-! ### Letting go -/

/-- The calls that release what a session holds. -/
def releases (s : Outboxed) : List Exchange :=
  (match s.transaction? with
    | some tx => [⟨.rollback tx, ()⟩]
    | none => []) ++
  if s.released then [] else [⟨.closeStaging s.staging, ()⟩]

/-- A staging is closed once: a session that has closed it makes no call for it. -/
theorem runs_closeOnce (h : s.closeOnce.Runs may calls s') : s' = { s with released := true } ∧
    outward calls = if s.released then [] else [⟨.closeStaging s.staging, ()⟩] := by
  by_cases hreleased : s.released = true
  · rw [closeOnce_of_released hreleased] at h
    obtain ⟨rfl, rfl⟩ := runs_done.1 h
    exact ⟨rfl, (if_pos hreleased).symm⟩
  · rw [closeOnce, if_neg hreleased] at h
    obtain ⟨reply, rest, -, hrest, rfl⟩ := runs_call.1 h
    obtain ⟨rfl, rfl⟩ := runs_done.1 hrest
    exact ⟨rfl, (if_neg hreleased).symm⟩

/-- A session that lets go makes the calls that its releases say. -/
theorem runs_release (h : s.release.Runs may calls s') :
    s' = { s.withoutTransaction with released := true } ∧ outward calls = s.releases := by
  -- the transaction first, if there is one, and then the staging
  cases htx : s.transaction? with
  | some tx =>
    rw [release_of_some htx] at h
    obtain ⟨reply, rest, -, hrest, rfl⟩ := runs_call.1 h
    obtain ⟨hs', hout⟩ := runs_closeOnce hrest
    refine ⟨hs', ?_⟩
    show ⟨.rollback tx, reply⟩ :: outward rest = _
    rw [hout, releases, htx]
    rfl
  | none =>
    rw [release_of_none htx] at h
    obtain ⟨hs', hout⟩ := runs_closeOnce h
    rw [releases, htx]
    exact ⟨hs', hout⟩

/-- A session that lets go makes two calls at most. -/
theorem obeys_release {P : {β : Type} → Call β → Prop} (hrollback : ∀ tx, P (.rollback tx))
    (hclose : P (.closeStaging s.staging)) :
    s.release.Obeys P fun s' => s' = { s.withoutTransaction with released := true } := by
  have honce : s.withoutTransaction.closeOnce.Obeys P
      fun s' => s' = { s.withoutTransaction with released := true } := by
    -- the staging has been closed before, or it is closed now
    by_cases hreleased : s.withoutTransaction.released = true
    · rw [closeOnce_of_released hreleased]
      exact rfl
    · rw [closeOnce, if_neg hreleased]
      exact ⟨hclose, fun _ => rfl⟩
  cases htx : s.transaction? with
  | some tx =>
    rw [release_of_some htx]
    exact ⟨hrollback tx, fun _ => honce⟩
  | none =>
    rw [release_of_none htx]
    exact honce

/-- A session that is finished ends with its releases. -/
theorem runs_finish {phase : Phase} {outcome : Except CallError Unit}
    (h : (s.finish phase outcome).Runs may calls result) :
    result.1 = s.ended phase ∧ outward calls = s.releases := by
  obtain ⟨first, second, s', hfirst, hsecond, rfl⟩ := runs_bind.1 h
  obtain ⟨rfl, rfl⟩ := runs_done.1 hsecond
  obtain ⟨rfl, hout⟩ := runs_release hfirst
  rw [List.append_nil]
  exact ⟨rfl, hout⟩

/-- A session that is abandoned releases what it has and lets the new transaction go. -/
theorem runs_abandon {tx : TransactionId} {e : CallError}
    (h : (s.abandon tx e).Runs may calls result) :
    result.1 = s.ended .disposed ∧ outward calls = s.releases ++ [⟨.rollback tx, ()⟩] := by
  obtain ⟨first, second, s', hfirst, hsecond, rfl⟩ := runs_bind.1 h
  obtain ⟨reply, rest, -, hrest, rfl⟩ := runs_call.1 hsecond
  obtain ⟨rfl, rfl⟩ := runs_done.1 hrest
  obtain ⟨rfl, hout⟩ := runs_release hfirst
  rw [outward_append, hout]
  exact ⟨rfl, rfl⟩

/-- An open session lets go of its transaction and of its staging. -/
theorem releases_opened {o : Opened} {tx : TransactionId} (ho : s.opened = some o)
    (htx : o.transaction = some tx) (hreleased : s.released = false) :
    s.releases = [⟨.rollback tx, ()⟩, ⟨.closeStaging s.staging, ()⟩] := by
  simp [releases, transaction?, ho, htx, hreleased]

/-- A session without a transaction has at most its staging to close. -/
theorem releases_of_none (h : s.transaction? = none) : s.releases =
    if s.released then [] else [⟨.closeStaging s.staging, ()⟩] := by
  rw [releases, h]
  rfl

/-! ### Opening -/

/-- All calls of a course are ahead of a session that is unopened. -/
theorem ahead_of_unopened (hphase : s.phase = .unopened) (calls : List Exchange) :
    s.Ahead calls ↔ Course s.store s.staging s.processorAddress calls := by
  rw [Ahead, hphase]

/-- A session whose staging has not joined closes it, lets the transaction go, and has ended. -/
theorem advances_abandon {tx : TransactionId} {e : CallError} (hints : Hints)
    {joined : Option (Except StoreError Bool)} (h : s.Tidy) (hphase : s.phase = .unopened)
    (hjoined : joined ≠ some (.ok true)) (hrun : (s.abandon tx e).Runs may calls result) :
    s.Advances ([⟨.unlessCancelled (.beginTransaction s.store hints), some (.ok tx)⟩,
      ⟨.unlessCancelled (.attach s.staging tx hints), joined⟩] ++ outward calls) result.1 := by
  obtain ⟨hnone, hreleased⟩ := h.unopened hphase
  obtain ⟨hself, hout⟩ := runs_abandon hrun
  rw [hself, hout, releases_of_none hnone, hreleased]
  refine advances_ended nofun nofun ?_
  rw [ahead_of_unopened hphase]
  exact .notJoined hints tx joined hjoined

/-- A session that starts makes the first calls of a course. -/
theorem advances_start {opening : Opening} {id : String} {countdown : Countdown}
    (h : s.Tidy) (hphase : s.phase = .unopened) (hid : countdown.sessionId = id)
    (hrun : (s.start opening id countdown).Runs may calls result) :
    s.Advances (outward calls) result.1 := by
  unfold start at hrun
  rw [ask_bind] at hrun
  obtain ⟨reply, rest, -, hrest, rfl⟩ := runs_call.1 hrun
  -- without a transaction the session stays unopened
  have hnotBegun : (∀ tx, reply ≠ some (.ok tx)) → s.Advances
      [⟨.unlessCancelled (.beginTransaction s.store opening.hints), reply⟩] s := by
    refine fun hreply => ⟨h, fun later hlater => ?_⟩
    rw [ahead_of_unopened hphase] at hlater ⊢
    exact .notBegun _ _ _ hreply hlater
  -- cancelled, refused, or begun
  match reply with
  | none =>
    obtain ⟨rfl, rfl⟩ := runs_done.1 hrest
    exact hnotBegun nofun
  | some (.error e) =>
    obtain ⟨rfl, rfl⟩ := runs_done.1 hrest
    exact hnotBegun nofun
  | some (.ok tx) =>
    obtain ⟨joined, rest, -, hjoin, rfl⟩ := runs_call.1 hrest
    -- a transaction has begun, and the staging has not joined it
    match joined with
    | none => exact advances_abandon opening.hints h hphase nofun hjoin
    | some (.error e) => exact advances_abandon opening.hints h hphase nofun hjoin
    | some (.ok false) => exact advances_abandon opening.hints h hphase nofun hjoin
    | some (.ok true) =>
      obtain ⟨rfl, rfl⟩ := runs_done.1 hjoin
      -- the session is open, and what is ahead of it is what an open session may do
      have hreleased := (h.unopened hphase).2
      refine ⟨⟨nofun, fun _ => ⟨hreleased, _, tx, rfl, rfl, hid⟩, fun _ hp => absurd rfl hp⟩,
        fun later hlater => ?_⟩
      obtain ⟨tx', htx', hopened⟩ := hlater
      obtain rfl : tx = tx' := Option.some.inj htx'
      rw [ahead_of_unopened hphase]
      exact .opened opening.hints tx later hopened

/-- A session advances with a request to open it. -/
theorem advances_openWith {opening : Opening} (h : s.Tidy)
    (hrun : (s.openWith opening).Runs may calls result) :
    s.Advances (outward calls) result.1 := by
  refine advances_passIf h hrun fun later hallowed hrest => ?_
  have hphase := (Phase.requireUnopened_eq_ok_iff _).1 hallowed
  -- the opening is not valid, there is no id, or the durations make no countdown
  split at hrest
  · obtain ⟨rfl, rfl⟩ := runs_done.1 hrest
    exact h.stays
  · obtain ⟨first, second, choice, hfirst, hsecond, rfl⟩ := runs_bind.1 hrest
    rw [outward_append, (quiet_chooseId _).outward_eq_nil hfirst, List.nil_append]
    cases choice with
    | error e =>
      obtain ⟨rfl, rfl⟩ := runs_done.1 hsecond
      exact h.stays
    | ok id =>
      dsimp only at hsecond
      split at hsecond
      · obtain ⟨rfl, rfl⟩ := runs_done.1 hsecond
        exact h.stays
      · next countdown hcountdown =>
        exact advances_start h hphase (Countdown.nanos_initial hcountdown).1 hsecond

/-! ### Collecting -/

/-- To collect an operation is to add it to the batch, or to leave the session alone. -/
theorem advances_collect {p : Program (Except CallError Operation)} (h : s.Tidy) (hp : p.Quiet)
    (hrun : (p >>= fun collected => match collected with
      | .error e => done (s, .error e)
      | .ok op => done (s.add op, .ok ())).Runs may calls result) :
    s.Advances (outward calls) result.1 := by
  obtain ⟨first, second, collected, hfirst, hsecond, rfl⟩ := runs_bind.1 hrun
  rw [outward_append, hp.outward_eq_nil hfirst, List.nil_append]
  -- an operation that cannot be made leaves the session as it is
  cases collected with
  | error e =>
    obtain ⟨rfl, rfl⟩ := runs_done.1 hsecond
    exact h.stays
  | ok op =>
    obtain ⟨rfl, rfl⟩ := runs_done.1 hsecond
    exact h.add op

/-- A session advances with a send. -/
theorem advances_send {m : Draft} {how : Sending} (h : s.Tidy)
    (hrun : (s.send m how).Runs may calls result) : s.Advances (outward calls) result.1 :=
  advances_collect h (quiet_collectSend ..) hrun

/-- A session advances with a publish. -/
theorem advances_publish {m : Draft} {how : Publishing} (h : s.Tidy)
    (hrun : (s.publish m how).Runs may calls result) : s.Advances (outward calls) result.1 :=
  advances_collect h (quiet_collectPublish ..) hrun

/-! ### Committing -/

/-- The control message is an announcement to the processor. -/
theorem isAnnouncement (s : Outboxed) (o : Opened) (now : Time.Instant) :
    (s.announcement o now).IsAnnouncement s.processorAddress :=
  ⟨rfl, (Countdown.isControl_write _ _).trans (Countdown.isControl_marked _ _), rfl, rfl⟩

/-- To announce is to dispatch the control message, and it goes well when that is accepted. -/
theorem runs_announce {o : Opened} {announced : Except CallError Unit}
    (h : (s.announce o).Runs may calls announced) : ∃ now reply,
      outward calls = [⟨.unlessCancelled (.dispatch [s.announcement o now]), reply⟩] ∧
      (announced = .ok () ↔ reply = some (.ok ())) := by
  unfold announce at h
  rw [ask_bind] at h
  obtain ⟨now, rest, -, hrest, rfl⟩ := runs_call.1 h
  rw [ask_bind] at hrest
  obtain ⟨reply, last, -, hlast, rfl⟩ := runs_call.1 hrest
  -- cancelled, rejected, or accepted
  match reply with
  | none =>
    obtain ⟨rfl, rfl⟩ := runs_done.1 hlast
    exact ⟨now, none, rfl, by simp⟩
  | some (.error e) =>
    obtain ⟨rfl, rfl⟩ := runs_done.1 hlast
    exact ⟨now, some (.error e), rfl, by simp⟩
  | some (.ok _) =>
    obtain ⟨rfl, rfl⟩ := runs_done.1 hlast
    exact ⟨now, some (.ok ()), rfl, by simp⟩

/-- What follows an announcement, when the staging is closed at the end. -/
theorem runs_makeDurable {id : String} {tx : TransactionId} {durable : Except CallError Unit}
    (h : (s.makeDurable id tx).Runs may calls durable) :
    Course.Announced s.store s.staging id tx
      (outward calls ++ [⟨.closeStaging s.staging, ()⟩]) := by
  -- after a failure the transaction is let go
  have hfailed : ∀ {calls : List Exchange} (e : StoreError), (call (.rollback tx) fun _ =>
      done (.error (.ofStore e) : Except CallError Unit)).Runs may calls durable →
      outward calls = [⟨.rollback tx, ()⟩] := by
    intro calls e hrun
    obtain ⟨reply, rest, -, hrest, rfl⟩ := runs_call.1 hrun
    obtain ⟨rfl, rfl⟩ := runs_done.1 hrest
    rfl
  unfold makeDurable at h
  obtain ⟨first, last, applied, happly, hlast, rfl⟩ := runs_bind.1 h
  unfold applyIn at happly
  rw [ask_bind] at happly
  obtain ⟨completed, second, -, hsecond, rfl⟩ := runs_call.1 happly
  rw [outward_append]
  -- the staging is completed, the record is added, and the transaction is committed; the first of
  -- these that fails is the last one
  match completed with
  | .error e =>
    obtain ⟨rfl, rfl⟩ := runs_done.1 hsecond
    rw [hfailed e hlast]
    exact .notCompleted e
  | .ok _ =>
    dsimp only at hsecond
    rw [ask_bind] at hsecond
    obtain ⟨added, third, -, hthird, rfl⟩ := runs_call.1 hsecond
    match added with
    | .error e =>
      obtain ⟨rfl, rfl⟩ := runs_done.1 hthird
      rw [hfailed e hlast]
      exact .notStored s.batch e
    | .ok _ =>
      obtain ⟨committed, fourth, -, hfourth, rfl⟩ := runs_call.1 hthird
      obtain ⟨rfl, rfl⟩ := runs_done.1 hfourth
      match applied with
      | .error e =>
        rw [hfailed e hlast]
        exact .notCommitted s.batch e
      | .ok _ =>
        obtain ⟨rfl, rfl⟩ := runs_done.1 hlast
        exact .committed s.batch

/-- Four calls at most, of which one adds the record, and no failure but that of a store. -/
theorem obeys_makeDurable {P : {β : Type} → Call β → Prop} {id : String} {tx : TransactionId}
    (hcomplete : P (.complete s.staging)) (hrecord : P (.addRecord s.store (.new id s.batch) tx))
    (hcommit : P (.commit tx)) (hrollback : P (.rollback tx)) :
    (s.makeDurable id tx).Obeys P
      fun durable => ∀ e, durable = .error e → ∃ e', e = .ofStore e' := by
  have happly : (s.applyIn id tx).Obeys P fun _ => True := by
    -- after each call the program goes on only when there was no error
    refine ⟨hcomplete, fun completed => ?_⟩
    cases completed with
    | error e => exact trivial
    | ok _ =>
      refine ⟨hrecord, fun added => ?_⟩
      cases added with
      | error e => exact trivial
      | ok _ => exact ⟨hcommit, fun _ => trivial⟩
  refine happly.bind fun applied _ => ?_
  cases applied with
  | error e => exact ⟨hrollback, fun _ e' he' => ⟨e, (Except.error.inj he').symm⟩⟩
  | ok _ => exact nofun

/-- A session that has lost its transaction ends like one that has it. -/
theorem ended_withoutTransaction (s : Outboxed) (phase : Phase) :
    s.withoutTransaction.ended phase = s.ended phase := by
  unfold ended withoutTransaction
  cases s.opened <;> rfl

/-- A session advances with a commit. -/
theorem advances_commit (h : s.Tidy) (hrun : s.commit.Runs may calls result) :
    s.Advances (outward calls) result.1 := by
  refine advances_passIf h hrun fun later hallowed hrest => ?_
  have hphase := (Phase.requireOpen_eq_ok_iff _).1 hallowed
  obtain ⟨hreleased, o, tx, ho, htx, hid⟩ := h.opened hphase
  have hahead : ∀ calls, Course.Opened s.store s.staging s.processorAddress tx calls →
      s.Ahead calls := by
    intro calls hcalls
    rw [Ahead, hphase]
    exact ⟨tx, by rw [transaction?, ho, Option.bind_some, htx], hcalls⟩
  rw [ho] at hrest
  obtain ⟨first, second, announced, hfirst, hsecond, rfl⟩ := runs_bind.1 hrest
  obtain ⟨now, reply, hout, hiff⟩ := runs_announce hfirst
  rw [outward_append, hout]
  have hop := isAnnouncement s o now
  -- the announcement is accepted or not, and without it nothing is made durable
  cases announced with
  | error e =>
    have hreply : reply ≠ some (.ok ()) := fun hok => nomatch hiff.2 hok
    obtain ⟨hself, hfinish⟩ := runs_finish hsecond
    rw [hself, hfinish, releases_opened ho htx hreleased]
    exact advances_ended nofun nofun (hahead _ (.notAnnounced _ reply hop hreply))
  | ok _ =>
    obtain rfl : reply = some (.ok ()) := hiff.1 rfl
    dsimp only at hsecond
    rw [htx] at hsecond
    obtain ⟨durable, last, made, hmade, hlast, rfl⟩ := runs_bind.1 hsecond
    have hrest := runs_makeDurable hmade
    -- the transaction has been committed or let go, so only the staging is left to be closed
    have hclose : s.withoutTransaction.releases = [⟨.closeStaging s.staging, ()⟩] := by
      have hopen : s.withoutTransaction.released = false := hreleased
      rw [releases_of_none (transaction?_withoutTransaction s), hopen]
      rfl
    have hended : ∃ phase, phase ≠ .unopened ∧ phase ≠ .opened ∧ result.1 = s.ended phase ∧
        outward last = [⟨.closeStaging s.staging, ()⟩] := by
      -- the phase differs, and the calls do not
      cases made with
      | error e =>
        have hfinish := runs_finish hlast
        rw [ended_withoutTransaction, hclose] at hfinish
        exact ⟨.failed, nofun, nofun, hfinish⟩
      | ok _ =>
        have hfinish := runs_finish hlast
        rw [ended_withoutTransaction, hclose] at hfinish
        exact ⟨.committed, nofun, nofun, hfinish⟩
    obtain ⟨phase, hu, hopen, hself, hfinish⟩ := hended
    rw [hself, outward_append, hfinish]
    refine advances_ended hu hopen (hahead _ (.announced _ _ hop ?_))
    rw [show (s.announcement o now).message.id = o.sessionId from hid]
    exact hrest

/-! ### Letting go -/

/-- A session can be released at any time. -/
theorem Tidy.ahead_releases (h : s.Tidy) : s.Ahead s.releases := by
  unfold Ahead
  split
  · next hphase =>
    obtain ⟨hnone, hreleased⟩ := h.unopened hphase
    rw [releases_of_none hnone, hreleased]
    exact .neverOpened
  · next hphase =>
    obtain ⟨hreleased, o, tx, ho, htx, -⟩ := h.opened hphase
    rw [releases_opened ho htx hreleased]
    exact ⟨tx, by rw [transaction?, ho, Option.bind_some, htx], .letGo⟩
  · next hu ho =>
    obtain ⟨hnone, hreleased⟩ := h.finished hu ho
    rw [releases_of_none hnone, if_pos hreleased]

/-- A session advances when it is disposed of. -/
theorem advances_dispose (h : s.Tidy) (hrun : s.dispose.Runs may calls s') :
    s.Advances (outward calls) s' := by
  unfold dispose at hrun
  split at hrun
  · obtain ⟨rfl, rfl⟩ := runs_done.1 hrun
    exact h.stays
  · obtain ⟨first, second, released, hfirst, hsecond, rfl⟩ := runs_bind.1 hrun
    obtain ⟨rfl, rfl⟩ := runs_done.1 hsecond
    obtain ⟨rfl, hout⟩ := runs_release hfirst
    rw [List.append_nil, hout]
    exact advances_ended nofun nofun h.ahead_releases

/-- To destroy a session is to make the last calls that were ahead of it. -/
theorem Tidy.ahead_drop (h : s.Tidy) (hrun : s.drop.Runs may calls ()) :
    s.Ahead (outward calls) := by
  obtain ⟨first, second, released, hfirst, hsecond, rfl⟩ := runs_bind.1 hrun
  obtain ⟨rfl, -⟩ := runs_done.1 hsecond
  rw [List.append_nil, (runs_release hfirst).2]
  exact h.ahead_releases

end Session.Outboxed

/-! ### Requests -/

namespace Session

variable {s : Session.Outboxed}

/-- What a request leaves of the session, and of the calls ahead of it. -/
def Follows (s : Session.Outboxed) (calls : List Exchange) (left : Option Session) : Prop :=
  (left = none ∧ s.Ahead calls) ∨ ∃ s', left = some (.outboxed s') ∧ s.Advances calls s'

/-- What holds of a request on an outbox session holds of it as a request on a session. -/
theorem follows_request {p : Program (Session.Outboxed × Except CallError Unit)}
    {result : Option Session × Except CallError Unit}
    (hrun : (p >>= (fun r => done (r.map .outboxed id)) >>=
      fun r => done (r.map some id)).Runs may calls result)
    (h : ∀ {calls result}, p.Runs may calls result → s.Advances (outward calls) result.1) :
    Follows s (outward calls) result.1 := by
  rw [bind_assoc] at hrun
  obtain ⟨first, second, inner, hfirst, hsecond, rfl⟩ := runs_bind.1 hrun
  obtain ⟨rfl, rfl⟩ := runs_done.1 hsecond
  rw [List.append_nil]
  exact .inr ⟨inner.1, rfl, h hfirst⟩

/-- Every request makes the first of the calls that were ahead. -/
theorem follows_perform {what : Session.Request} {result : Option Session × Except CallError Unit}
    (h : s.Tidy) (hrun : ((Session.outboxed s).perform what).Runs may calls result) :
    Follows s (outward calls) result.1 := by
  cases what with
  | openWith opening => exact follows_request hrun (Outboxed.advances_openWith h)
  | send m how => exact follows_request hrun (Outboxed.advances_send h)
  | publish m how => exact follows_request hrun (Outboxed.advances_publish h)
  | commit => exact follows_request hrun (Outboxed.advances_commit h)
  | dispose =>
    unfold Session.perform Session.dispose at hrun
    simp only [bind_assoc, pure_eq, done_bind] at hrun
    -- a session that was disposed of is still there
    obtain ⟨first, second, s', hfirst, hsecond, rfl⟩ := runs_bind.1 hrun
    obtain ⟨rfl, rfl⟩ := runs_done.1 hsecond
    rw [List.append_nil]
    exact .inr ⟨s', rfl, Outboxed.advances_dispose h hfirst⟩
  | drop =>
    obtain ⟨first, second, _, hfirst, hsecond, rfl⟩ := runs_bind.1 hrun
    obtain ⟨rfl, rfl⟩ := runs_done.1 hsecond
    rw [List.append_nil]
    -- a session that was dropped is not, and it makes all calls that were ahead of it
    exact .inl ⟨rfl, h.ahead_drop hfirst⟩

/-- By induction on the requests: together they make all the calls that were ahead. -/
theorem ahead_live {requests : List Session.Request} (h : s.Tidy)
    (hrun : ((Session.outboxed s).live requests).Runs may calls ()) : s.Ahead (outward calls) := by
  induction requests generalizing s calls with
  | nil => exact h.ahead_drop hrun
  | cons what rest ih =>
    obtain ⟨first, second, left, hfirst, hsecond, rfl⟩ := runs_bind.1 hrun
    rw [outward_append]
    obtain ⟨hleft, hahead⟩ | ⟨s', hleft, hadvances⟩ := follows_perform h hfirst
    -- the session is gone, or it lives on with what is ahead of it then
    · rw [hleft] at hsecond
      obtain ⟨rfl, -⟩ := runs_done.1 hsecond
      rw [outward_nil, List.append_nil]
      exact hahead
    · rw [hleft] at hsecond
      exact hadvances.ahead _ (ih hadvances.tidy hsecond)

/-- Whatever is requested of a new session, and whatever the collaborators reply, its calls from
start to end are one of the courses: the staging is closed once and nothing is called on it
afterwards, there is at most one control message and at most one commit, and every transaction that
is begun is committed or let go. -/
theorem live_course {store : String} {staging : StagingId} {router : Router} {processor : String}
    {requests : List Session.Request}
    (h : ((Session.outboxed { store, staging, router, processorAddress := processor }).live
      requests).Runs may calls ()) :
    Course store staging processor (outward calls) ∧
      Course.count .closeStaging (outward calls) = 1 ∧
      Course.ClosedAtLast staging (outward calls) ∧
      Course.count .dispatch (outward calls) ≤ 1 ∧ Course.count .commit (outward calls) ≤ 1 ∧
      (outward calls).countP Exchange.begun = (outward calls).countP Exchange.settles := by
  have hcourse := ahead_live (Outboxed.tidy_of_unopened rfl rfl rfl) h
  exact ⟨hcourse, Course.tallies hcourse⟩

/-- The life of a session that is opened, sends one message, commits and is disposed. -/
def oneLife : Program Unit :=
  (Session.outboxed { store := "db", staging := 0, router := {}, processorAddress := "processor" }
    ).live [.openWith { sessionId := some "a" },
      .send { messageType := "greeting" } { destination := some "inbox" }, .commit, .dispose]

/-- What it calls on collaborators in memory. -/
def oneLifeCalls : List Exchange :=
  oneLife.trace (World.answer false)
    { clock := { start := .epoch }, database := (Database.newStaging {} "db").2 }

/-- One life with an open, a send, a commit and a drop: its calls are those of a course. -/
theorem live_course_oneLife :
    oneLife.Runs (fun _ _ => True) oneLifeCalls () ∧
    (outward oneLifeCalls).map Exchange.kind = [.beginTransaction, .attach, .dispatch, .complete,
      .addRecord, .commit, .closeStaging] ∧
    Course "db" 0 "processor" (outward oneLifeCalls) ∧
    Course.count .closeStaging (outward oneLifeCalls) = 1 ∧
    Course.ClosedAtLast 0 (outward oneLifeCalls) ∧
    Course.count .dispatch (outward oneLifeCalls) ≤ 1 ∧
    Course.count .commit (outward oneLifeCalls) ≤ 1 ∧
    (outward oneLifeCalls).countP Exchange.begun =
      (outward oneLifeCalls).countP Exchange.settles := by
  have hrun : oneLife.Runs (fun _ _ => True) oneLifeCalls () :=
    runs_trace (fun _ _ => trivial) _ _
  exact ⟨hrun, by decide +kernel, live_course hrun⟩

end Session

end

end Outbox
