import Outbox.Proofs.Batch
import Outbox.Proofs.Opened

/-!
# The course of a session without an outbox

Which calls a session that dispatches its batch itself makes on its collaborators from its start to
its end, how each of them ends, and what that says of the phase that the session is in.

A request on such a session has few ways to go, and `Turn` lists them all: which calls are made on
collaborators, with which replies, what becomes of the session, and how the request ends. Everything
below is a case analysis on turns, carried through the uses of a session by induction.

* `turns`            every request is one of the turns, or it destroys the session
* `course_of_used`   the calls of a whole life are one of the courses
* `Course.orderly`   what all courses have in common
* `phase_iff`        a phase lasts from the use that brings it about until the session is disposed
-/

namespace Outbox

open Program

/-- Whether a call was to hand something over, and failed. -/
def Exchange.failed : Exchange → Bool
  | ⟨.complete _, reply⟩ => !reply.isOk
  | ⟨.dispatch _, reply⟩ => !reply.isOk
  | _ => false

/-- Whether a request was refused: the caller misused the session, or has cancelled. -/
def CallError.isRefusal : CallError → Bool
  | .misuse _ | .cancelled => true
  | .incompatible _ | .store _ | .dispatch _ => false

/-- A call that failed to hand something over is one on a collaborator. -/
theorem any_failed_outward (calls : List Exchange) :
    (outward calls).any Exchange.failed = calls.any Exchange.failed := by
  -- on the calls; only those that hand something over can fail
  induction calls with
  | nil => rfl
  | cons e rest ih =>
    by_cases hinward : e.kind = .inward
    -- of the calls that can fail none is inward
    · have hfailed : e.failed = false := by
        obtain ⟨c, reply⟩ := e
        cases c with
        | complete _ | dispatch _ => exact nomatch hinward
        | _ => rfl
      rw [outward_cons_of_inward hinward, ih, List.any_cons, hfailed, Bool.false_or]
    · rw [outward_cons_of_ne hinward, List.any_cons, List.any_cons, ih]

namespace Session.Direct

variable {may : {β : Type} → Call β → β → Prop} {calls : List Exchange} {s t : Direct}
  {what : Request} {result : Except CallError Unit}

/-! ### What one request does -/

/-- The call that releases the staging, unless it has been made. -/
def releases (s : Direct) : List Exchange :=
  if s.released then [] else [⟨.closeStaging s.staging, ()⟩]

/-- A session that has released its staging. -/
def ended (s : Direct) (phase : Phase) : Direct := { s with released := true, phase }

/-- The ways in which a request goes: the calls that it makes on collaborators, what becomes of the
session, and how it ends. -/
inductive Turn (s : Direct) :
    Request → List Exchange → Direct → Except CallError Unit → Prop
  /-- The phase or the router says no, or the caller has cancelled before anything was called. -/
  | refused (what : Request) (e : CallError) : what.takesToken = true → e.isRefusal = true →
      Turn s what [] s (.error e)
  | notOpened (opening : Opening) (reply : Option (Except StoreError Unit)) (e : CallError) :
      s.phase = .unopened → reply ≠ some (.ok ()) → Turn s (.openWith opening)
      (⟨.unlessCancelled (.openStaging s.staging opening.hints), reply⟩ :: s.releases)
      (s.ended .disposed) (.error e)
  | opened (opening : Opening) (id : String) : s.phase = .unopened → Turn s (.openWith opening)
      [⟨.unlessCancelled (.openStaging s.staging opening.hints), some (.ok ())⟩]
      { s with phase := .opened, opened := some (id, opening) } (.ok ())
  | collected (p : Posting) (op : Operation) : s.phase = .opened →
      Turn s p.request [] (s.add op) (.ok ())
  | notCompleted (e : StoreError) : s.phase = .opened → Turn s .commit
      (⟨.complete s.staging, .error e⟩ :: s.releases) (s.ended .failed) (.error (.ofStore e))
  | notDispatched (e : DispatchError) : s.phase = .opened → s.batch ≠ [] → Turn s .commit
      (⟨.complete s.staging, .ok ()⟩ :: ⟨.dispatch (s.batch.map (·.toShipment)), .error e⟩ ::
        s.releases) (s.ended .failed) (.error (.dispatch e))
  /-- There was nothing to dispatch. -/
  | completed : s.phase = .opened → s.batch = [] → Turn s .commit
      (⟨.complete s.staging, .ok ()⟩ :: s.releases) (s.ended .committed) (.ok ())
  | dispatched : s.phase = .opened → s.batch ≠ [] → Turn s .commit
      (⟨.complete s.staging, .ok ()⟩ :: ⟨.dispatch (s.batch.map (·.toShipment)), .ok ()⟩ ::
        s.releases) (s.ended .committed) (.ok ())
  | disposed : Turn s .dispose s.releases (s.ended .disposed) (.ok ())

/-- A session lets go of its staging once. -/
theorem runs_release (h : s.release.Runs may calls t) :
    t = { s with released := true } ∧ outward calls = s.releases := by
  unfold release at h
  unfold releases
  -- the staging was closed before, or this is the time
  by_cases hreleased : s.released = true
  · rw [if_pos hreleased] at h ⊢
    obtain ⟨rfl, rfl⟩ := runs_done.1 h
    have hself : { t with released := true } = t := by rw [← hreleased]
    exact ⟨hself.symm, rfl⟩
  · rw [if_neg hreleased] at h ⊢
    obtain ⟨reply, rest, -, hrest, rfl⟩ := runs_call.1 h
    obtain ⟨rfl, rfl⟩ := runs_done.1 hrest
    exact ⟨rfl, rfl⟩

/-- A session that is finished lets go of what it holds, and has the outcome that it was given. -/
theorem runs_finish {phase : Phase} {outcome : Except CallError Unit}
    {r : Direct × Except CallError Unit} (h : (s.finish phase outcome).Runs may calls r) :
    r = (s.ended phase, outcome) ∧ outward calls = s.releases := by
  obtain ⟨first, second, t, hfirst, hsecond, rfl⟩ := runs_bind.1 h
  obtain ⟨rfl, rfl⟩ := runs_done.1 hsecond
  obtain ⟨rfl, hout⟩ := runs_release hfirst
  rw [List.append_nil]
  exact ⟨rfl, hout⟩

/-- A turn may end with the release of the staging. -/
theorem turn_finish {phase : Phase} {outcome : Except CallError Unit}
    {r : Direct × Except CallError Unit} (front : List Exchange)
    (h : (s.finish phase outcome).Runs may calls r)
    (hturn : s.Turn what (front ++ s.releases) (s.ended phase) outcome) :
    s.Turn what (front ++ outward calls) r.1 r.2 := by
  obtain ⟨rfl, hout⟩ := runs_finish h
  rw [hout]
  exact hturn

/-- A program behind the gate brings about a turn if all of its runs do. -/
theorem turn_gate {allowed : Except Misuse Unit}
    {rest : Program (Direct × Except CallError Unit)} {r : Direct × Except CallError Unit}
    (htoken : what.takesToken = true)
    (h : (gate allowed (fun e => (s, .error e)) rest).Runs may calls r)
    (hrest : ∀ later, allowed = .ok () → rest.Runs may later r →
      s.Turn what (outward later) r.1 r.2) : s.Turn what (outward calls) r.1 r.2 := by
  obtain ⟨e, -, rfl, rfl⟩ | ⟨-, rfl, rfl⟩ | ⟨hallowed, later, rfl, hlater⟩ := runs_gate h
  · exact .refused what _ htoken rfl
  · exact .refused what _ htoken rfl
  · exact hrest later hallowed hlater

/-- To open a session is a turn. -/
theorem turn_openWith {opening : Opening} {r : Direct × Except CallError Unit}
    (h : (s.openWith opening).Runs may calls r) :
    s.Turn (.openWith opening) (outward calls) r.1 r.2 := by
  apply turn_gate rfl h
  intro later hallowed hlater
  have hphase := (Phase.requireUnopened_eq_ok_iff _).1 hallowed
  obtain ⟨first, second, choice, hfirst, hsecond, rfl⟩ := runs_bind.1 hlater
  rw [outward_append, (quiet_chooseId _).outward_eq_nil hfirst, List.nil_append]
  cases choice with
  | error e =>
    obtain ⟨rfl, rfl⟩ := runs_done.1 hsecond
    exact .refused _ _ rfl rfl
  | ok id =>
    -- the id was chosen, so the staging is opened with it
    obtain ⟨reply, last, -, hlast, rfl⟩ := runs_call.1 hsecond
    -- without a reply, or with an error, the staging is closed and the session is over
    match reply with
    | none => exact turn_finish [_] hlast (.notOpened opening none .cancelled hphase nofun)
    | some (.error e) =>
      exact turn_finish [_] hlast (.notOpened opening (some (.error e)) (.ofStore e) hphase nofun)
    | some (.ok _) =>
      obtain ⟨rfl, rfl⟩ := runs_done.1 hlast
      exact .opened opening id hphase

/-- To commit is a turn. -/
theorem turn_commit {r : Direct × Except CallError Unit} (h : s.commit.Runs may calls r) :
    s.Turn .commit (outward calls) r.1 r.2 := by
  apply turn_gate rfl h
  intro later hallowed hlater
  have hphase := (Phase.requireOpen_eq_ok_iff _).1 hallowed
  rw [ask_bind] at hlater
  obtain ⟨completed, rest, -, hrest, rfl⟩ := runs_call.1 hlater
  cases completed with
  -- a staging that is not completed ends the commit before anything is dispatched
  | error e => exact turn_finish [_] hrest (.notCompleted e hphase)
  | ok _ =>
    -- only a batch that is not empty is dispatched
    obtain ⟨first, second, dispatched, hfirst, hsecond, rfl⟩ := runs_bind.1 hrest
    unfold dispatchBatch at hfirst
    by_cases hempty : s.batch = []
    · rw [if_pos (List.isEmpty_iff.2 hempty)] at hfirst
      obtain ⟨rfl, rfl⟩ := runs_done.1 hfirst
      exact turn_finish [_] hsecond (.completed hphase hempty)
    · rw [if_neg fun hnil => hempty (List.isEmpty_iff.1 hnil)] at hfirst
      obtain ⟨reply, last, -, hlast, rfl⟩ := runs_call.1 hfirst
      obtain ⟨rfl, rfl⟩ := runs_done.1 hlast
      cases dispatched with
      | error e => exact turn_finish [_, _] hsecond (.notDispatched e hphase hempty)
      | ok _ => exact turn_finish [_, _] hsecond (.dispatched hphase hempty)

/-- To send and to publish are turns. -/
theorem turn_posting {p : Posting} {left : Option Session}
    (h : ((direct s).perform p.request).Runs may calls (left, result)) :
    ∃ t, left = some (direct t) ∧ s.Turn p.request (outward calls) t result := by
  have htoken : p.request.takesToken = true := by cases p <;> rfl
  rw [perform_posting] at h
  -- refused by the phase, refused by the token, or allowed
  obtain ⟨e, -, rfl, heq⟩ | ⟨-, rfl, heq⟩ | ⟨hallowed, later, rfl, hlater⟩ := runs_gate h
  · cases heq
    exact ⟨s, rfl, .refused _ _ htoken rfl⟩
  · cases heq
    exact ⟨s, rfl, .refused _ _ htoken rfl⟩
  · have hphase := (Phase.requireOpen_eq_ok_iff _).1 hallowed
    -- ids and times are asked for, but no collaborator is called
    obtain ⟨e, hprepare, rfl, rfl⟩ | ⟨op, hprepare, rfl, rfl⟩ := runs_collect hlater
    all_goals
      have hout : outward later = [] := (quiet_prepare _ _).outward_eq_nil hprepare
      show ∃ t, _ ∧ s.Turn p.request (outward later) t _
      rw [hout]
    · exact ⟨s, rfl, .refused _ _ htoken rfl⟩
    · exact ⟨s.add op, rfl, .collected p op hphase⟩

/-- To destroy a session is to release its staging. -/
theorem outward_drop (h : s.drop.Runs may calls ()) : outward calls = s.releases := by
  obtain ⟨first, second, released, hfirst, hsecond, rfl⟩ := runs_bind.1 h
  obtain ⟨rfl, -⟩ := runs_done.1 hsecond
  rw [List.append_nil]
  exact (runs_release hfirst).2

/-- A session can be disposed of at any time, and lets go of what it holds. -/
theorem runs_dispose (h : s.dispose.Runs may calls t) :
    t = s.ended .disposed ∧ outward calls = s.releases := by
  obtain ⟨first, second, released, hfirst, hsecond, rfl⟩ := runs_bind.1 h
  obtain ⟨rfl, rfl⟩ := runs_done.1 hsecond
  obtain ⟨rfl, hout⟩ := runs_release hfirst
  rw [List.append_nil]
  exact ⟨rfl, hout⟩

/-- Every request is one of the turns, or it destroys the session. -/
theorem turns {left : Option Session}
    (h : ((direct s).perform what).Runs may calls (left, result)) :
    (∃ t, left = some (direct t) ∧ s.Turn what (outward calls) t result) ∨
      (what = .drop ∧ left = none ∧ result = .ok () ∧ outward calls = s.releases) := by
  -- a posting, or one of the four requests that are none
  obtain ⟨p, rfl⟩ | hwhat := what.posting_or
  · exact .inl (turn_posting h)
  · cases what with
    | send m how => exact absurd rfl (hwhat (.send m how))
    | publish m how => exact absurd rfl (hwhat (.publish m how))
    | openWith opening =>
      obtain ⟨r, hr, rfl, rfl⟩ := runs_wrapped h
      exact .inl ⟨r.1, rfl, turn_openWith hr⟩
    | commit =>
      obtain ⟨r, hr, rfl, rfl⟩ := runs_wrapped h
      exact .inl ⟨r.1, rfl, turn_commit hr⟩
    | dispose =>
      obtain ⟨first, second, _, hfirst, hsecond, rfl⟩ := runs_bind.1 h
      obtain ⟨rfl, heq⟩ := runs_done.1 hsecond
      obtain ⟨rfl, rfl⟩ := Prod.mk.inj heq
      obtain ⟨first, last, d, hdispose, hlast, rfl⟩ := runs_bind.1 hfirst
      obtain ⟨rfl, rfl⟩ := runs_done.1 hlast
      obtain ⟨rfl, hout⟩ := runs_dispose hdispose
      simp only [List.append_nil, hout]
      exact .inl ⟨s.ended .disposed, rfl, .disposed⟩
    -- a session that is dropped is not there afterwards, so this is no turn
    | drop =>
      obtain ⟨first, second, _, hfirst, hsecond, rfl⟩ := runs_bind.1 h
      obtain ⟨rfl, heq⟩ := runs_done.1 hsecond
      obtain ⟨rfl, rfl⟩ := Prod.mk.inj heq
      rw [List.append_nil]
      exact .inr ⟨rfl, rfl, rfl, outward_drop hfirst⟩

/-- A request that leaves a session behind is a turn. -/
theorem turn_perform {left : Session}
    (h : ((direct s).perform what).Runs may calls (some left, result)) :
    ∃ t, left = direct t ∧ s.Turn what (outward calls) t result := by
  obtain ⟨t, hleft, hturn⟩ | ⟨-, hleft, -⟩ := turns h
  · exact ⟨t, Option.some.inj hleft, hturn⟩
  · exact nomatch hleft

/-! ### The courses -/

section

variable (staging : StagingId) (batch : Batch)

/-- The rest of a course from when the staging has been opened, when the session has `batch` to hand
over. -/
inductive Course.Opened : List Exchange → Prop
  | letGo : Opened [⟨.closeStaging staging, ()⟩]
  | notCompleted (e : StoreError) :
      Opened [⟨.complete staging, .error e⟩, ⟨.closeStaging staging, ()⟩]
  | completed : batch = [] → Opened [⟨.complete staging, .ok ()⟩, ⟨.closeStaging staging, ()⟩]
  | dispatched (reply : Except DispatchError Unit) : batch ≠ [] → Opened
      [⟨.complete staging, .ok ()⟩, ⟨.dispatch (batch.map (·.toShipment)), reply⟩,
        ⟨.closeStaging staging, ()⟩]

/-- The courses that the life of a session can take. -/
inductive Course : List Exchange → Prop
  | neverOpened : Course [⟨.closeStaging staging, ()⟩]
  | notOpened (hints : Hints) (reply : Option (Except StoreError Unit)) : reply ≠ some (.ok ()) →
      Course [⟨.unlessCancelled (.openStaging staging hints), reply⟩, ⟨.closeStaging staging, ()⟩]
  | opened (hints : Hints) (rest : List Exchange) : Course.Opened staging batch rest →
      Course (⟨.unlessCancelled (.openStaging staging hints), some (.ok ())⟩ :: rest)

/-- The calls that a session has made so far, in each of its phases. -/
inductive Past (s : Direct) : List Exchange → Prop
  | unopened : s.phase = .unopened → s.released = false → Past s []
  | opened (hints : Hints) : s.phase = .opened → s.released = false →
      Past s [⟨.unlessCancelled (.openStaging s.staging hints), some (.ok ())⟩]
  | finished {calls : List Exchange} : s.phase ≠ .unopened → s.phase ≠ .opened → s.released = true →
      Course s.staging s.batch calls → Past s calls

end

/-- What a session holds it still has to close. -/
theorem releases_of_held (h : s.released = false) :
    s.releases = [⟨.closeStaging s.staging, ()⟩] := by
  simp [releases, h]

/-- A session that has let go closes nothing again. -/
theorem releases_of_released (h : s.released = true) : s.releases = [] := by
  simp [releases, h]

/-- Whenever a session lets go of its staging, its calls are one of the courses. -/
theorem Past.course (h : s.Past calls) : Course s.staging s.batch (calls ++ s.releases) := by
  -- the last phase has let go of the staging before, and the others do so now
  cases h with
  | unopened _ hheld =>
    rw [releases_of_held hheld]
    exact .neverOpened
  | opened hints _ hheld =>
    rw [releases_of_held hheld]
    exact .opened hints _ .letGo
  | finished _ _ hreleased hcourse =>
    rw [releases_of_released hreleased, List.append_nil]
    exact hcourse

/-- An open session has opened its staging, and made no other call. -/
theorem Past.eq_of_opened (h : s.Past calls) (hphase : s.phase = .opened) : s.released = false ∧
    ∃ hints, calls = [⟨.unlessCancelled (.openStaging s.staging hints), some (.ok ())⟩] := by
  cases h with
  | unopened hunopened _ => exact nomatch hphase.symm.trans hunopened
  | opened hints _ hheld => exact ⟨hheld, hints, rfl⟩
  | finished _ hopen _ _ => exact absurd hphase hopen

/-- An unopened session holds its staging and has made no call. -/
theorem Past.eq_of_unopened (h : s.Past calls) (hphase : s.phase = .unopened) :
    s.released = false ∧ calls = [] := by
  cases h with
  | unopened _ hheld => exact ⟨hheld, rfl⟩
  | opened hints hopen _ => exact nomatch hphase.symm.trans hopen
  | finished hunopened _ _ _ => exact absurd hphase hunopened

/-- A session that has released its staging is over. -/
theorem past_ended {phase : Phase} (h : Course s.staging s.batch calls)
    (hphase : phase ≠ .unopened ∧ phase ≠ .opened) : (s.ended phase).Past calls :=
  .finished hphase.1 hphase.2 rfl h

/-- An open session that lets go of its staging is over. -/
theorem Past.settle {phase : Phase} (h : s.Past calls) (hopen : s.phase = .opened)
    (rest : List Exchange)
    (hrest : Course.Opened s.staging s.batch (rest ++ [⟨.closeStaging s.staging, ()⟩]))
    (hphase : phase ≠ .unopened ∧ phase ≠ .opened) :
    (s.ended phase).Past (calls ++ (rest ++ s.releases)) := by
  obtain ⟨hheld, hints, rfl⟩ := h.eq_of_opened hopen
  rw [releases_of_held hheld]
  exact past_ended (.opened hints _ hrest) hphase

/-- Each turn makes the next calls of a course. -/
theorem Past.turn {later : List Exchange} (h : s.Past calls) (hturn : s.Turn what later t result) :
    t.staging = s.staging ∧ t.Past (calls ++ later) := by
  -- the phase that a turn starts from tells which calls have been made before it
  cases hturn with
  | refused => exact ⟨rfl, (List.append_nil calls).symm ▸ h⟩
  | collected p op hphase =>
    obtain ⟨hheld, hints, rfl⟩ := h.eq_of_opened hphase
    exact ⟨rfl, .opened hints hphase hheld⟩
  | notOpened opening reply e hphase hreply =>
    obtain ⟨hheld, rfl⟩ := h.eq_of_unopened hphase
    rw [releases_of_held hheld]
    exact ⟨rfl, past_ended (.notOpened opening.hints reply hreply) (by decide)⟩
  | opened opening id hphase =>
    obtain ⟨hheld, rfl⟩ := h.eq_of_unopened hphase
    exact ⟨rfl, .opened opening.hints rfl hheld⟩
  | notCompleted e hphase =>
    -- these end the session, each with the calls that it has come to
    exact ⟨rfl, h.settle hphase [_] (.notCompleted e) (by decide)⟩
  | notDispatched e hphase hbatch =>
    exact ⟨rfl, h.settle hphase [_, _] (.dispatched (.error e) hbatch) (by decide)⟩
  | completed hphase hbatch =>
    exact ⟨rfl, h.settle hphase [_] (.completed hbatch) (by decide)⟩
  | dispatched hphase hbatch =>
    exact ⟨rfl, h.settle hphase [_, _] (.dispatched (.ok ()) hbatch) (by decide)⟩
  | disposed => exact ⟨rfl, past_ended h.course (by decide)⟩

/-- The calls of a whole life are one of the courses. -/
theorem course_of_used {s' : Session} {uses : List Use} {last : List Exchange}
    (h : Used may (direct s) uses s') (hdrop : s'.drop.Runs may last ()) (hpast : s.Past calls) :
    Course s.staging s'.batch (calls ++ outward (uses.flatMap (·.calls) ++ last)) := by
  -- by induction on the uses, with whatever calls have been made before them
  induction uses generalizing s calls with
  | nil =>
    cases h
    rw [List.flatMap_nil, List.nil_append, outward_drop hdrop]
    exact hpast.course
  | cons use rest ih =>
    -- the first use is a turn, and the rest is the life of the session that it leaves
    cases h with
    | next hrun hrest =>
      obtain ⟨t, rfl, hturn⟩ := turn_perform hrun
      obtain ⟨hstaging, hpast⟩ := hpast.turn hturn
      have hcourse := ih hrest hpast
      simpa [hstaging] using hcourse

/-! ### What all courses have in common -/

/-- A call of the second kind is made only after one of the first. -/
def Follows (first second : Exchange → Prop) (calls : List Exchange) : Prop :=
  ∀ front e back, calls = front ++ e :: back → second e → ∃ e' ∈ front, first e'

section

variable {first second : Exchange → Prop} {e : Exchange}

/-- Without calls nothing follows anything. -/
theorem follows_nil : Follows first second [] := by
  intro front e back h
  simp at h

/-- A call that needs none before it can be put in front. -/
theorem Follows.cons (h : Follows first second calls) (he : ¬ second e) :
    Follows first second (e :: calls) := by
  intro front e' back heq he'
  cases front with
  | nil => exact absurd ((List.cons.inj heq).1 ▸ he') he
  | cons _ front =>
    obtain ⟨rfl, hrest⟩ := List.cons.inj heq
    obtain ⟨e₁, hmem, he₁⟩ := h front e' back hrest he'
    exact ⟨e₁, List.mem_cons_of_mem _ hmem, he₁⟩

/-- When the first call is the one that must come first, it comes before all that need it. -/
theorem follows_of_first (he : ¬ second e) (hfirst : first e) :
    Follows first second (e :: calls) := by
  intro front e' back heq he'
  cases front with
  | nil => exact absurd ((List.cons.inj heq).1 ▸ he') he
  | cons _ front =>
    obtain ⟨rfl, -⟩ := List.cons.inj heq
    exact ⟨_, List.mem_cons_self, hfirst⟩

end

/-- What was opened is completed at most once and then closed for good, and what is dispatched is
the whole batch, once it has been completed. -/
structure Course.Settled (staging : StagingId) (batch : Batch) (calls : List Exchange) : Prop where
  completed : Session.Course.count .complete calls ≤ 1
  closed : Session.Course.count .closeStaging calls = 1
  closedAtLast : Session.Course.ClosedAtLast staging calls
  dispatched : Session.Course.count .dispatch calls ≤ 1
  dispatchedAfter : Follows (· = ⟨.complete staging, .ok ()⟩) (·.kind = .dispatch) calls
  whole : ∀ ops ∈ dispatches calls, ops ≠ [] ∧ ops = batch.map (·.toShipment)
  /-- No other collaborator is called, and no record is added. -/
  only : ∀ e ∈ calls,
    e.kind = .openStaging ∨ e.kind = .complete ∨ e.kind = .dispatch ∨ e.kind = .closeStaging

/-- What all courses have in common. -/
structure Course.Orderly (staging : StagingId) (batch : Batch) (calls : List Exchange) : Prop
    extends Course.Settled staging batch calls where
  opened : Session.Course.count .openStaging calls ≤ 1
  completedAfter : Follows
    (fun e => ∃ hints, e = ⟨.unlessCancelled (.openStaging staging hints), some (.ok ())⟩)
    (·.kind = .complete) calls

section

variable {staging : StagingId} {batch : Batch}

/-- A staging that has been closed and nothing else. -/
theorem Course.settled_closed : Course.Settled staging batch [⟨.closeStaging staging, ()⟩] where
  completed := Nat.zero_le 1
  closed := rfl
  closedAtLast := .last
  dispatched := Nat.zero_le 1
  dispatchedAfter := follows_nil.cons nofun
  whole _ hops := absurd hops List.not_mem_nil
  only e he := by
    obtain rfl := List.mem_singleton.1 he
    exact .inr (.inr (.inr rfl))

/-- A staging that has been completed, or was to be, and that has been closed then. -/
theorem Course.settled_completed (reply : Except StoreError Unit) : Course.Settled staging batch
    [⟨.complete staging, reply⟩, ⟨.closeStaging staging, ()⟩] where
  completed := Nat.le_refl 1
  closed := rfl
  closedAtLast := Session.Course.ClosedAtLast.last.cons _
  dispatched := Nat.zero_le 1
  dispatchedAfter := (follows_nil.cons nofun).cons nofun
  whole _ hops := absurd hops List.not_mem_nil
  only := List.forall_mem_cons.2 ⟨.inr (.inl rfl), (settled_closed : Settled staging batch _).only⟩

/-- A batch that has been dispatched, or was to be, between the one and the other. -/
theorem Course.settled_dispatched (h : batch ≠ []) (reply : Except DispatchError Unit) :
    Course.Settled staging batch [⟨.complete staging, .ok ()⟩,
      ⟨.dispatch (batch.map (·.toShipment)), reply⟩, ⟨.closeStaging staging, ()⟩] where
  completed := Nat.le_refl 1
  closed := rfl
  closedAtLast := (Session.Course.ClosedAtLast.last.cons _).cons _
  dispatched := Nat.le_refl 1
  dispatchedAfter := follows_of_first nofun rfl
  whole := by
    -- the batch is handed over as a whole, since it is not empty
    intro _ hops
    obtain rfl := List.mem_singleton.1 hops
    exact ⟨fun hnil => h (List.map_eq_nil_iff.1 hnil), rfl⟩
  only := List.forall_mem_cons.2 ⟨.inr (.inl rfl),
    List.forall_mem_cons.2 ⟨.inr (.inr (.inl rfl)),
      (settled_closed : Settled staging batch _).only⟩⟩

/-- An open session settles everything and opens no staging again. -/
theorem Course.Opened.settled (h : Course.Opened staging batch calls) :
    Course.Settled staging batch calls ∧ Session.Course.count .openStaging calls = 0 := by
  cases h with
  | letGo => exact ⟨settled_closed, rfl⟩
  | notCompleted e => exact ⟨settled_completed _, rfl⟩
  | completed hbatch => exact ⟨settled_completed _, rfl⟩
  | dispatched reply hbatch => exact ⟨settled_dispatched hbatch reply, rfl⟩

/-- An open that comes first, whatever became of it. -/
theorem Course.Settled.afterOpen (h : Course.Settled staging batch calls) (hints : Hints)
    (reply : Option (Except StoreError Unit)) : Course.Settled staging batch
      (⟨.unlessCancelled (.openStaging staging hints), reply⟩ :: calls) where
  completed := h.completed
  closed := h.closed
  closedAtLast := h.closedAtLast.cons _
  dispatched := h.dispatched
  dispatchedAfter := h.dispatchedAfter.cons nofun
  whole := h.whole
  only := List.forall_mem_cons.2 ⟨.inl rfl, h.only⟩

/-- Every course is in order. -/
theorem Course.orderly (h : Course staging batch calls) : Course.Orderly staging batch calls := by
  cases h with
  | neverOpened => exact ⟨settled_closed, Nat.zero_le 1, follows_nil.cons nofun⟩
  | notOpened hints reply hreply =>
    exact ⟨settled_closed.afterOpen hints reply, Nat.le_refl 1, (follows_nil.cons nofun).cons nofun⟩
  | opened hints rest hrest =>
    obtain ⟨hsettled, hcount⟩ := hrest.settled
    refine ⟨hsettled.afterOpen hints _, ?_, follows_of_first nofun ⟨hints, rfl⟩⟩
    rw [Session.Course.count, List.countP_cons_of_pos rfl]
    exact Nat.le_of_eq (congrArg (· + 1) hcount)

end

/-! ### Phases -/

/-- Some use has the property, and the session has not been disposed since. -/
def Lasts (P : Use → Prop) (uses : List Use) : Prop :=
  ∃ before use after, uses = before ++ use :: after ∧ P use ∧
    ∀ later ∈ after, later.what ≠ .dispose

/-- The use that lasts is the first one, or one of those behind it. -/
theorem lasts_cons {P : Use → Prop} {use : Use} {uses : List Use} : Lasts P (use :: uses) ↔
    (P use ∧ ∀ later ∈ uses, later.what ≠ .dispose) ∨ Lasts P uses := by
  constructor
  · intro ⟨before, use', after, heq, huse, hafter⟩
    -- the use is the first of the list, or it is behind the first
    cases before with
    | nil =>
      obtain ⟨rfl, rfl⟩ := List.cons.inj heq
      exact .inl ⟨huse, hafter⟩
    | cons _ before =>
      obtain ⟨rfl, rfl⟩ := List.cons.inj heq
      exact .inr ⟨before, use', after, rfl, huse, hafter⟩
  · intro h
    obtain ⟨huse, hafter⟩ | ⟨before, use', after, rfl, huse, hafter⟩ := h
    · exact ⟨[], use, uses, rfl, huse, hafter⟩
    · exact ⟨use :: before, use', after, rfl, huse, hafter⟩

/-- Without a use there is none that lasts. -/
theorem not_lasts_nil {P : Use → Prop} : ¬ Lasts P [] := by
  intro ⟨before, use, after, heq, _⟩
  simp at heq

/-- What takes a token is not to dispose. -/
theorem Request.ne_dispose_of_takesToken (h : what.takesToken = true) : what ≠ .dispose := by
  rintro rfl
  exact nomatch h

/-- A session has committed when it had and is not disposed of, or when its commit has just ended
well. -/
theorem Turn.committed_iff (h : s.Turn what calls t result) : t.phase = .committed ↔
    (s.phase = .committed ∧ what ≠ .dispose) ∨ (what = .commit ∧ result = .ok ()) := by
  cases h with
  | refused what e htoken => simp [Request.ne_dispose_of_takesToken htoken]
  | collected p op hphase => cases p <;> simp [Posting.request, add, hphase]
  | notOpened | opened | notCompleted | notDispatched | completed | dispatched | disposed =>
    simp_all [ended]

/-- A commit has failed when one of the two calls of which it is made has. -/
theorem Turn.failed_iff (h : s.Turn what calls t result) : t.phase = .failed ↔
    (s.phase = .failed ∧ what ≠ .dispose) ∨
      (what = .commit ∧ calls.any Exchange.failed = true) := by
  have hreleases : s.releases.any Exchange.failed = false := by
    -- to close a staging cannot fail
    unfold releases
    split <;> rfl
  -- by the turn, whose calls show whether one of them has failed
  cases h with
  | refused what e htoken => simp [Request.ne_dispose_of_takesToken htoken]
  | collected p op hphase => cases p <;> simp [Posting.request, add, hphase]
  | notOpened | opened | notCompleted | notDispatched | completed | dispatched | disposed =>
    simp_all [ended, Exchange.failed, Except.isOk, Except.toBool]

/-- A phase that a request brings about, and that only a dispose ends, lasts from the one to the
other. -/
theorem phase_iff {phase : Phase} {P : Use → Prop}
    (hturn : ∀ {s t : Direct} {use : Use}, s.Turn use.what (outward use.calls) t use.result →
      (t.phase = phase ↔ (s.phase = phase ∧ use.what ≠ .dispose) ∨ P use))
    {s' : Session} {uses : List Use} (h : Used may (direct s) uses s') : s'.phase = phase ↔
      (s.phase = phase ∧ ∀ use ∈ uses, use.what ≠ .dispose) ∨ Lasts P uses := by
  -- on the uses, with the phase that the first one leaves
  induction uses generalizing s with
  | nil =>
    cases h
    simp [not_lasts_nil, Session.phase]
  | cons use rest ih =>
    cases h with
    | next hrun hrest =>
      obtain ⟨t, rfl, ht⟩ := turn_perform hrun
      rw [ih hrest, hturn ht, lasts_cons, List.forall_mem_cons]
      -- what is left is to tell the first use from the later ones
      tauto

end Session.Direct

end Outbox
