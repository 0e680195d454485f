import Outbox.Proofs.Actions
import Outbox.Proofs.Contract.Invariant
import Outbox.Proofs.Direct.Course
import Outbox.Proofs.Paths
import Outbox.Proofs.Traffic

/-!
# What a session without an outbox leaves behind

What becomes of stores and transport when the collaborators of such a session are in memory: its
changes are made when it is committed, all of them or none, and stay when the dispatch after them
fails; no record is ever added.

What a turn of the session has called is called again in the world, call by call, so the world
afterwards follows from the turn alone.

* `World.answers_trace`  the world after a program is what the calls on collaborators make of it
* `Worked.holds`         what the staging of a session at work holds
* `outcome_perform`      what a request makes of stores and transport
* `keeps_protocol`       the calls of a whole life, the phase, and what is left behind
-/

namespace Outbox

open Program

namespace World

variable {cancelled : Bool} {w w' : World} {calls : List Exchange}

/-! ### Calls that a world answers -/

/-- The collaborators of a world answer the calls one after the other, and leave another world. How
many ids the session has taken in between is left open. -/
def Answers (cancelled : Bool) : World → List Exchange → World → Prop
  | w, [], w' => ∃ n, w' = { w with ids := n }
  | w, e :: rest, w' => e.reply = (answer cancelled e.call w).1 ∧
      Answers cancelled (answer cancelled e.call w).2 rest w'

/-- An inward call changes nothing but the number of ids that have been made. -/
theorem ids_answer_inward (cancelled : Bool) {β : Type} {c : Call β} (h : c.kind = .inward)
    (w : World) :
    ∃ n, (answer cancelled c w).2 = { w with ids := n } := by
  induction c with
  | now | isCancelled => exact ⟨w.ids, rfl⟩
  | freshId => exact ⟨w.ids + 1, rfl⟩
  | unlessCancelled c ih =>
    cases cancelled with
    | true => exact ⟨w.ids, rfl⟩
    | false => exact ih h
  | _ => exact nomatch h

/-- A collaborator takes no notice of the ids that have been made. -/
theorem answer_withIds {β : Type} {c : Call β} (h : c.kind ≠ .inward) (w : World) (n : Nat) :
    answer cancelled c { w with ids := n } =
      ((answer cancelled c w).1, { (answer cancelled c w).2 with ids := n }) := by
  induction c with
  | now | isCancelled | freshId => exact absurd rfl h
  -- what a call on a collaborator reads and writes are stores and transport
  | getRecord store id =>
    simp only [answer, getRecord]
    split
    · rfl
    · split <;> rfl
  | setDispatched store id =>
    simp only [answer, setDispatched]
    split <;> rfl
  | unlessCancelled c ih =>
    cases cancelled with
    | true => rfl
    | false => simp only [answer, Bool.false_eq_true, if_false, ih h]
  | _ => rfl

/-- Ids that were made before do not count for what the collaborators are asked. -/
theorem Answers.of_ids {w₁ : World} (h : Answers cancelled w₁ calls w')
    (hcalls : ∀ e ∈ calls, e.kind ≠ .inward) (hw : ∃ n, w₁ = { w with ids := n }) :
    Answers cancelled w calls w' := by
  obtain ⟨n, rfl⟩ := hw
  induction calls generalizing w with
  | nil => exact h
  | cons e rest ih =>
    obtain ⟨he, hrest⟩ := List.forall_mem_cons.1 hcalls
    obtain ⟨hreply, hlater⟩ := h
    rw [answer_withIds he] at hreply hlater
    exact ⟨hreply, ih hrest hlater⟩

/-- The world after a program is what the calls on collaborators make of it. -/
theorem answers_trace {α : Type} (p : Program α) (w : World) :
    Answers cancelled w (outward (p.trace (answer cancelled) w)) (w.run cancelled p).2 := by
  induction p generalizing w with
  | done a => exact ⟨w.ids, rfl⟩
  -- an inward call drops out on both sides, and an outward one is answered on both
  | call c next ih =>
    have hlater := ih (answer cancelled c w).1 (answer cancelled c w).2
    rw [trace]
    by_cases hinward : Exchange.kind ⟨c, (answer cancelled c w).1⟩ = .inward
    · rw [outward_cons_of_inward hinward]
      apply hlater.of_ids _ (ids_answer_inward cancelled hinward w)
      intro e he
      simpa using (List.mem_filter.1 he).2
    · rw [outward_cons_of_ne hinward]
      exact ⟨rfl, hlater⟩

/-! ### What is left -/

/-- Stores and transport are as they were. -/
structure Kept (w w' : World) : Prop where
  stores : ∀ name, w'.database.store name = w.database.store name
  transport : w'.transport = w.transport

/-- The changes have been made in the store under a name, and no other store has changed. -/
structure Applied (name : String) (changes : List Change) (w w' : World) : Prop where
  store : w'.database.store name = changes.foldl Store.apply (w.database.store name)
  others : ∀ other, other ≠ name → w'.database.store other = w.database.store other

/-- A world is kept when nothing happens. -/
theorem Kept.refl (w : World) : Kept w w := ⟨fun _ => rfl, rfl⟩

/-- It is kept by two parts that both keep it. -/
theorem Kept.trans {w₁ : World} (h : Kept w w₁) (h₁ : Kept w₁ w') : Kept w w' :=
  ⟨fun name => (h₁.stores name).trans (h.stores name), h₁.transport.trans h.transport⟩

/-- What has been applied stays applied while the stores stay the same. -/
theorem Applied.later {name : String} {changes : List Change} {w₁ : World}
    (h : Applied name changes w w₁)
    (hstores : ∀ other, w'.database.store other = w₁.database.store other) :
    Applied name changes w w' where
  store := (hstores name).trans h.store
  others other hother := (hstores other).trans (h.others other hother)

end World

namespace Database

variable {d : Database} {id : StagingId} {name : String} {partition : Option String}
  {staged : List Change}

/-- A staging that stands by itself hands what is staged to its store. -/
theorem handOver_standalone (hplain : recordIds staged = []) :
    d.handOver .standalone name staged =
      (.ok (), d.setStore name (staged.foldl Store.apply (d.store name))) := by
  have happly : (d.store name).applyAll staged =
      .ok (staged.foldl Store.apply (d.store name)) :=
    Store.applyAll_eq_ok_iff.2 ⟨by simp [hplain], by simp [hplain], rfl⟩
  simp only [handOver, happly]

/-- A staging that stands alone and holds changes of documents is completed, unless its store is
told to fail. -/
theorem complete_standalone (hplain : recordIds staged = [])
    (hu : d.stagings[id]? = some { store := name, mode := .standalone, partition, staged }) :
    (∃ reason, (d.store name).faults.complete = some reason ∧ d.complete id =
      (.error (.backend reason), d.setStore name ((d.store name).disarm .complete).2)) ∨
    ((d.store name).faults.complete = none ∧ d.complete id =
      (.ok (), (d.setStaging id { store := name, mode := .standalone, partition }).setStore name
        (staged.foldl Store.apply (d.store name)))) := by
  -- the store fails when it has been told to, and then the staging keeps its changes
  cases hfault : (d.store name).faults.complete with
  | some reason =>
    have hdisarm : (d.store name).disarm .complete =
        (some reason, ((d.store name).disarm .complete).2) := Prod.ext hfault rfl
    refine .inl ⟨reason, rfl, ?_⟩
    simp only [complete, hu]
    rw [hdisarm]
  | none =>
    have hfault' : (d.store name).faults.get .complete = none := hfault
    refine .inr ⟨rfl, ?_⟩
    simp only [complete, hu, Store.disarm_of_none hfault']
    exact handOver_standalone hplain

end Database

namespace Store

/-- Changes of documents leave the records alone. -/
theorem records_foldl_apply {s : Store} {changes : List Change} (h : recordIds changes = []) :
    (changes.foldl apply s).records = s.records := by
  induction changes generalizing s with
  | nil => rfl
  | cons c rest ih =>
    cases c with
    | put key value => exact ih h
    | delete key => exact ih h
    | record r => exact nomatch h

end Store

namespace Session.Direct

variable {name : String} {staged : List Change} {s t : Direct} {w w' : World} {cancelled : Bool}
  {calls : List Exchange} {what : Request} {result : Except CallError Unit}

/-! ### Sessions at work -/

/-- The partition of the documents, once the session is open. -/
def partition? (s : Direct) : Option String := (direct s).opening?.bind (·.hints.partitionKey)

/-- A session at work in a world, on a staging of the store `name` that was made for it, with the
changes that its owner has staged so far. -/
inductive Worked (name : String) (staging : StagingId) (router : Router) :
    World → Direct → List Change → Prop
  | start (w : World) : w.database.stagings[staging]? = some { store := name } →
      Worked name staging router w { staging, router } []
  /-- A request is made, with a token that is cancelled or not. -/
  | request {w w' : World} {s t : Direct} {staged : List Change} {what : Request}
      {cancelled : Bool} {result : Except CallError Unit} :
      Worked name staging router w s staged →
      w.run cancelled ((direct s).perform what) = ((some (direct t), result), w') →
      Worked name staging router w' t staged
  /-- The owner of the session edits a document. -/
  | edit {w : World} {s : Direct} {staged : List Change} {id : StagingId} {database : Database}
      (e : Edit) : Worked name staging router w s staged → s.stagingIfOpen = .ok id →
      e.stage w.database id = (.ok (), database) →
      Worked name staging router { w with database } s (staged ++ [e.within s.partition?])
  /-- Others do what they like, but not on the staging of the session. -/
  | others {w w' : World} {s : Direct} {staged : List Change} :
      Worked name staging router w s staged →
      w'.database.stagings[staging]? = w.database.stagings[staging]? →
      Worked name staging router w' s staged

/-- What the staging of a session holds. -/
structure Holds (name : String) (w : World) (s : Direct) (staged : List Change) : Prop where
  plain : recordIds staged = []
  unopened : s.phase = .unopened → staged = [] ∧
    w.database.stagings[s.staging]? = some { store := name }
  opened : s.phase = .opened → w.database.stagings[s.staging]? =
    some { store := name, mode := .standalone, partition := s.partition?, staged }

/-- What one request makes of stores and transport. -/
inductive Outcome (name : String) (staged : List Change) (s : Direct) (cancelled : Bool)
    (w w' : World) : Request → Except CallError Unit → Prop
  /-- Nothing has been handed over: it was another request, or a commit that was refused, because
  the session is not open or the caller has cancelled. -/
  | kept (what : Request) (result : Except CallError Unit) :
      (what = .commit → (∃ e, result = .error e ∧ e.isRefusal = true) ∧
        (s.phase = .opened → cancelled = true)) →
      w.Kept w' → Outcome name staged s cancelled w w' what result
  /-- The store was told to fail. -/
  | notCompleted (reason : String) : s.phase = .opened →
      (w.database.store name).faults.complete = some reason →
      (∀ other, (w.database.store other).SameContent (w'.database.store other)) →
      w'.transport = w.transport →
      Outcome name staged s cancelled w w' .commit (.error (.ofStore (.backend reason)))
  /-- The changes were made, and then the dispatch was rejected. -/
  | notDispatched (reason : String) : s.phase = .opened → s.batch ≠ [] →
      (w.database.store name).faults.complete = none → w.transport.rejection = some reason →
      w.Applied name staged w' → w'.transport = { w.transport with rejection := none } →
      Outcome name staged s cancelled w w' .commit (.error (.dispatch (.rejected reason)))
  /-- The changes were made, and there was nothing to dispatch. -/
  | completed : s.phase = .opened → s.batch = [] →
      (w.database.store name).faults.complete = none →
      w.Applied name staged w' → w'.transport = w.transport →
      Outcome name staged s cancelled w w' .commit (.ok ())
  /-- The changes were made, and the batch was accepted. -/
  | dispatched : s.phase = .opened → s.batch ≠ [] →
      (w.database.store name).faults.complete = none → w.Applied name staged w' →
      w.transport.dispatch w.clock.elapsed (s.batch.map (·.toShipment)) = (.ok (), w'.transport) →
      w'.transport.dispatched = w.transport.dispatched ++ s.batch.map (·.toShipment) →
      Outcome name staged s cancelled w w' .commit (.ok ())

/-! ### What a turn leaves -/

/-- To release a staging is to leave stores and transport alone. -/
theorem kept_of_releases (h : w.Answers cancelled s.releases w') : w.Kept w' := by
  unfold releases at h
  split at h
  · obtain ⟨n, rfl⟩ := h
    exact ⟨fun _ => rfl, rfl⟩
  · obtain ⟨-, n, rfl⟩ := h
    exact ⟨fun other => Database.store_closeStaging w.database s.staging other, rfl⟩

/-- To open a staging, too. -/
theorem kept_openStaging (cancelled : Bool) (w : World) (id : StagingId) (hints : Hints) :
    w.Kept (World.answer cancelled (.unlessCancelled (.openStaging id hints)) w).2 := by
  cases cancelled with
  | true => exact .refl w
  | false => exact ⟨fun other => Database.store_openStaging w.database id hints other, rfl⟩

/-- Only a store that is told to fail refuses what an open session has staged. -/
theorem Holds.of_complete_error (h : Holds name w s staged) (hphase : s.phase = .opened)
    {e : StoreError} (hreply : .error e = (World.answer cancelled (.complete s.staging) w).1) :
    ∃ reason, e = .backend reason ∧ (w.database.store name).faults.complete = some reason ∧
      ∀ other, (w.database.store other).SameContent
        ((World.answer cancelled (.complete s.staging) w).2.database.store other) := by
  simp only [World.answer, World.withDatabase] at hreply ⊢
  obtain ⟨reason, hfault, heq⟩ | ⟨-, heq⟩ :=
    Database.complete_standalone h.plain (h.opened hphase)
  · rw [heq] at hreply ⊢
    obtain rfl := Except.error.inj hreply
    exact ⟨reason, rfl, hfault, Database.sameContent_disarm w.database name .complete⟩
  · rw [heq] at hreply
    cases hreply

/-- What an open session has staged is completed as a whole. -/
theorem Holds.of_complete_ok (h : Holds name w s staged) (hphase : s.phase = .opened)
    (hreply : .ok () = (World.answer cancelled (.complete s.staging) w).1) :
    (w.database.store name).faults.complete = none ∧
      w.Applied name staged (World.answer cancelled (.complete s.staging) w).2 := by
  simp only [World.answer, World.withDatabase] at hreply ⊢
  obtain ⟨reason, -, heq⟩ | ⟨hfault, heq⟩ :=
    Database.complete_standalone h.plain (h.opened hphase)
  · rw [heq] at hreply
    cases hreply
  · rw [heq]
    refine ⟨hfault, ?_, fun other hother => ?_⟩
    · exact (Database.store_setStore ..).trans (if_pos rfl)
    · exact (Database.store_setStore ..).trans (if_neg (Ne.symm hother))

/-- What a turn makes of stores and transport. -/
theorem outcome_turn (h : Holds name w s staged) (hturn : s.Turn what calls t result)
    (hw : w.Answers cancelled calls w')
    (hlive : what = .commit → s.phase = .opened → cancelled = false → calls ≠ []) :
    Outcome name staged s cancelled w w' what result := by
  -- the turn tells which calls were made, and the world has answered each of them
  cases hturn with
  | refused what e htoken hrefusal =>
    obtain ⟨n, rfl⟩ := hw
    refine .kept what _ (fun hcommit => ⟨⟨e, rfl, hrefusal⟩, fun hphase => ?_⟩) ⟨fun _ => rfl, rfl⟩
    -- an open session refuses a commit only when the caller has cancelled
    by_contra hcancelled
    exact hlive hcommit hphase (Bool.eq_false_iff.2 hcancelled) rfl
  | collected p op hphase =>
    obtain ⟨n, rfl⟩ := hw
    have hcommit : p.request ≠ .commit := by cases p <;> nofun
    exact .kept _ _ (fun heq => absurd heq hcommit) ⟨fun _ => rfl, rfl⟩
  | notOpened opening reply e hphase hreply =>
    exact .kept _ _ nofun ((kept_openStaging cancelled w _ _).trans (kept_of_releases hw.2))
  | opened opening id hphase =>
    obtain ⟨-, n, rfl⟩ := hw
    have hkept := kept_openStaging cancelled w s.staging opening.hints
    exact .kept _ _ nofun ⟨hkept.stores, hkept.transport⟩
  | notCompleted e hphase =>
    obtain ⟨hreply, hlast⟩ := hw
    -- the staging is closed at the end in any case, which leaves stores and transport alone
    have hkept := kept_of_releases hlast
    obtain ⟨reason, rfl, hfault, hsame⟩ := h.of_complete_error hphase hreply
    apply Outcome.notCompleted reason hphase hfault _ hkept.transport
    intro other
    rw [hkept.stores]
    exact hsame other
  | completed hphase hbatch =>
    obtain ⟨hreply, hlast⟩ := hw
    have hkept := kept_of_releases hlast
    obtain ⟨hfault, happlied⟩ := h.of_complete_ok hphase hreply
    exact .completed hphase hbatch hfault (happlied.later hkept.stores) hkept.transport
  -- to complete a staging leaves the transport alone, so the batch meets it as it was
  | notDispatched e hphase hbatch =>
    obtain ⟨hreply, hdispatch, hlast⟩ := hw
    have hkept := kept_of_releases hlast
    obtain ⟨hfault, happlied⟩ := h.of_complete_ok hphase hreply
    -- the changes are applied before the batch is rejected, and they stay
    obtain ⟨⟨reason, hrejection, rfl⟩, hrejected⟩ := Transport.dispatch_of_error hdispatch.symm
    exact .notDispatched reason hphase hbatch hfault hrejection
      (happlied.later hkept.stores) (hkept.transport.trans hrejected)
  | dispatched hphase hbatch =>
    obtain ⟨hreply, hdispatch, hlast⟩ := hw
    have hkept := kept_of_releases hlast
    obtain ⟨hfault, happlied⟩ := h.of_complete_ok hphase hreply
    have hrejection : w.transport.rejection = none := Transport.rejection_of_ok hdispatch.symm
    have hlog := Transport.dispatched_dispatch w.transport w.clock.elapsed
      (s.batch.map (·.toShipment))
    rw [if_pos hrejection] at hlog
    exact .dispatched hphase hbatch hfault (happlied.later hkept.stores)
      (Prod.ext hdispatch.symm hkept.transport.symm)
      ((congrArg Transport.dispatched hkept.transport).trans hlog)
  | disposed => exact .kept _ _ nofun (kept_of_releases hw)

/-- What a session that is over has staged is no longer of interest. -/
theorem holds_ended {phase : Phase} (h : Holds name w s staged)
    (hphase : phase ≠ .unopened ∧ phase ≠ .opened) : Holds name w' (s.ended phase) staged where
  plain := h.plain
  unopened hunopened := absurd hunopened hphase.1
  opened hopened := absurd hopened hphase.2

/-- A turn keeps what is known of the staging. -/
theorem Holds.turn (h : Holds name w s staged) (hturn : s.Turn what calls t result)
    (hw : w.Answers cancelled calls w') : t.staging = s.staging ∧ Holds name w' t staged := by
  -- only an opening and the end of a session touch its staging
  cases hturn with
  | refused what e htoken =>
    obtain ⟨n, rfl⟩ := hw
    exact ⟨rfl, h.plain, h.unopened, h.opened⟩
  | collected p op hphase =>
    obtain ⟨n, rfl⟩ := hw
    exact ⟨rfl, h.plain, h.unopened, h.opened⟩
  | opened opening id hphase =>
    obtain ⟨hreply, n, rfl⟩ := hw
    obtain ⟨rfl, hstaging⟩ := h.unopened hphase
    refine ⟨rfl, h.plain, nofun, fun _ => ?_⟩
    -- a caller that has cancelled gets no answer, and the staging would not have been opened
    cases cancelled with
    | true => exact nomatch hreply
    | false =>
      show (w.database.openStaging s.staging opening.hints).stagings[s.staging]? = _
      rw [Database.openStaging, hstaging]
      exact Database.getElem?_setStaging_self hstaging
  | notOpened | notCompleted | notDispatched | completed | dispatched | disposed =>
    exact ⟨rfl, holds_ended h (by decide)⟩

/-- An open session gives its staging to an edit, and no other session does. -/
theorem stagingIfOpen_eq_ok_iff {id : StagingId} :
    s.stagingIfOpen = .ok id ↔ s.staging = id ∧ s.phase = .opened := by
  unfold stagingIfOpen
  cases s.phase <;> simp [Phase.requireOpen, Except.map]

/-- An edit of an open session is one more change in its staging. -/
theorem Holds.edit {id : StagingId} {database : Database} (h : Holds name w s staged) (e : Edit)
    (hid : s.stagingIfOpen = .ok id) (hedit : e.stage w.database id = (.ok (), database)) :
    Holds name { w with database } s (staged ++ [e.within s.partition?]) := by
  obtain ⟨rfl, hphase⟩ := stagingIfOpen_eq_ok_iff.1 hid
  obtain ⟨key, change, hstage, hwithin, hplain⟩ := e.eq_stage
  have hstaging := h.opened hphase
  -- the change stands behind the others, with the partition of the session on it
  have hset : (e.stage w.database s.staging).2 = w.database.setStaging s.staging
      ⟨name, .standalone, s.partition?, staged ++ [e.within s.partition?]⟩ := by
    rw [hstage, hwithin]
    simp [Database.stage, hstaging]
  obtain rfl : _ = database := congrArg Prod.snd hedit
  refine ⟨?_, fun hunopened => ?_, fun _ => ?_⟩
  · rw [recordIds_append, h.plain, hplain]
    rfl
  · cases hphase.symm.trans hunopened
  · rw [hset]
    exact Database.getElem?_setStaging_self hstaging

/-- A commit of an open session calls its collaborators, unless the caller has cancelled. -/
theorem outward_commit_ne_nil {may : {β : Type} → Call β → β → Prop}
    {r : Direct × Except CallError Unit} (h : s.commit.Runs may calls r)
    (hphase : s.phase = .opened) (hlive : ⟨.isCancelled, true⟩ ∉ calls) : outward calls ≠ [] := by
  -- the gate lets an open session pass, and the first thing behind it is to complete the staging
  obtain ⟨e, he, -⟩ | ⟨-, rfl, -⟩ | ⟨-, later, rfl, hlater⟩ := runs_gate h
  · rw [hphase] at he
    exact nomatch he
  · exact absurd List.mem_cons_self hlive
  · obtain ⟨completed, rest, -, -, rfl⟩ := runs_call.1 hlater
    exact List.cons_ne_nil _ _

/-- A request that is made in a world is one of the turns, and the world answers its calls. -/
theorem turns_in_world {left : Option Session}
    (h : w.run cancelled ((direct s).perform what) = ((left, result), w')) :
    (∃ t calls, left = some (direct t) ∧ s.Turn what calls t result ∧
      w.Answers cancelled calls w' ∧
      (what = .commit → s.phase = .opened → cancelled = false → calls ≠ [])) ∨
    (what = .drop ∧ left = none ∧ w.Answers cancelled s.releases w') := by
  have hanswers : w.Answers cancelled
      (outward (((direct s).perform what).trace (World.answer cancelled) w))
      (w.run cancelled ((direct s).perform what)).2 := World.answers_trace _ w
  have hruns : ((direct s).perform what).Runs (fun _ _ => True)
      (((direct s).perform what).trace (World.answer cancelled) w)
      (w.run cancelled ((direct s).perform what)).1 := runs_trace (fun _ _ => trivial) _ _
  rw [h] at hanswers hruns
  -- the calls of the run make a turn, and the world was what answered them
  obtain ⟨t, rfl, hturn⟩ | ⟨rfl, rfl, -, hout⟩ := turns hruns
  · refine .inl ⟨t, _, rfl, hturn, hanswers, ?_⟩
    rintro rfl hphase rfl
    obtain ⟨r, hcommit, -⟩ := runs_wrapped hruns
    exact outward_commit_ne_nil hcommit hphase (World.live_trace _ w)
  · rw [hout] at hanswers
    exact .inr ⟨rfl, rfl, hanswers⟩

/-- What is known of the staging of a session at work. -/
theorem Worked.holds {staging : StagingId} {router : Router}
    (h : Worked name staging router w s staged) :
    s.staging = staging ∧ Holds name w s staged := by
  -- by induction on what the session has been through; others may come in between
  induction h with
  | start w hw => exact ⟨rfl, rfl, fun _ => ⟨rfl, hw⟩, nofun⟩
  | request _ hrun ih =>
    obtain ⟨t, calls, hleft, hturn, hanswers, -⟩ | ⟨-, hnone, -⟩ := turns_in_world hrun
    · obtain rfl := Session.direct.inj (Option.some.inj hleft)
      obtain ⟨hstaging, hholds⟩ := ih.2.turn hturn hanswers
      exact ⟨hstaging.trans ih.1, hholds⟩
    · exact nomatch hnone
  | edit e _ hid hedit ih => exact ⟨ih.1, ih.2.edit e hid hedit⟩
  | others _ hsame ih =>
    -- whatever else has changed, nothing is known but of this staging
    obtain ⟨hid, hholds⟩ := ih
    rw [← hid] at hsame
    exact ⟨hid, hholds.plain, hsame ▸ hholds.unopened, hsame ▸ hholds.opened⟩

/-- What a request makes of stores and transport. -/
theorem outcome_perform {staging : StagingId} {router : Router} {left : Option Session}
    (h : Worked name staging router w s staged)
    (hrun : w.run cancelled ((direct s).perform what) = ((left, result), w')) :
    Outcome name staged s cancelled w w' what result := by
  obtain ⟨t, calls, -, hturn, hanswers, hlive⟩ | ⟨rfl, -, hanswers⟩ := turns_in_world hrun
  · exact outcome_turn h.holds.2 hturn hanswers hlive
  · exact .kept _ _ nofun (kept_of_releases hanswers)

/-- No record is added, whatever the outcome. -/
theorem Outcome.records (h : Outcome name staged s cancelled w w' what result)
    (hplain : recordIds staged = []) (other : String) :
    (w'.database.store other).records = (w.database.store other).records := by
  -- to apply what was staged adds no record, because it is about documents only
  have happlied (hw : w.Applied name staged w') :
      (w'.database.store other).records = (w.database.store other).records := by
    by_cases hother : other = name
    · rw [hother, hw.store, Store.records_foldl_apply hplain]
    · rw [hw.others other hother]
  -- in each outcome the changes were applied or nothing was
  cases h with
  | kept _ _ _ hkept => rw [hkept.stores]
  | notCompleted _ _ _ hsame _ => exact (hsame other).records
  | notDispatched _ _ _ _ _ hw _ => exact happlied hw
  | completed _ _ _ hw _ => exact happlied hw
  | dispatched _ _ _ hw _ _ => exact happlied hw

/-- However a new session has been used, its batch is what its sends and publishes have prepared
that went well, it is committed from a commit that went well until it is disposed, and failed from
one whose complete or dispatch failed. When it is destroyed then, its calls from start to end are
one of the courses. And with collaborators in memory every request of a session at work has one of
the outcomes, and adds no record. -/
theorem keeps_protocol {may : {β : Type} → Call β → β → Prop} {staging : StagingId}
    {router : Router} {uses : List Use} {s : Session}
    (h : Used may (direct { staging, router }) uses s) :
    List.Forall₂ (Use.Prepares may router) (uses.filter Use.collected) s.batch ∧
    (s.phase = .committed ↔
      Lasts (fun use => use.what = .commit ∧ use.result = .ok ()) uses) ∧
    (s.phase = .failed ↔
      Lasts (fun use => use.what = .commit ∧ use.calls.any Exchange.failed = true) uses) ∧
    (∀ last, s.drop.Runs may last () →
      Course staging s.batch (outward (uses.flatMap (·.calls) ++ last)) ∧
      Course.Orderly staging s.batch (outward (uses.flatMap (·.calls) ++ last))) ∧
    ∀ {name staged t w w' cancelled what left result}, Worked name staging router w t staged →
      w.run cancelled ((direct t).perform what) = ((left, result), w') →
      Outcome name staged t cancelled w w' what result ∧
        ∀ other, (w'.database.store other).records = (w.database.store other).records := by
  -- one after the other: the batch, both ends of a commit, the calls, and the stores
  refine ⟨(batch_exact (.direct staging router) h).1, ?_, ?_, fun last hdrop => ?_, ?_⟩
  · have hphase := phase_iff Turn.committed_iff h
    simpa using hphase
  · have hphase := phase_iff Turn.failed_iff h
    simpa [any_failed_outward] using hphase
  · have hcourse := course_of_used h hdrop (.unopened rfl rfl)
    exact ⟨hcourse, hcourse.orderly⟩
  · intro name staged t w w' cancelled what left result hworked hrun
    have houtcome := outcome_perform hworked hrun
    exact ⟨houtcome, houtcome.records hworked.holds.2.plain⟩

/-- A session that knows where greetings go. -/
def courier : Direct := { staging := 0, router := { routes := .ofList [("greeting", "inbox")] } }

/-- Its world, where the next dispatch is to be rejected. -/
def courierWorld : World where
  clock := { start := .epoch }
  transport := { rejection := some "broker down" }
  database := (Database.newStaging {} "db").2

/-- It is opened. -/
def courierOpened : (Direct × Except CallError Unit) × World :=
  courierWorld.run false (courier.openWith { sessionId := some "a" })

/-- Its owner edits a document. -/
def courierEdited : World :=
  { courierOpened.2 with
    database := ((Edit.put "order" [1]).stage courierOpened.2.database courier.staging).2 }

/-- It collects a greeting. -/
def courierSent : (Direct × Except CallError Unit) × World :=
  courierEdited.run false (courierOpened.1.1.send { messageType := "greeting" } {})

/-- It is committed. -/
def courierCommitted : (Direct × Except CallError Unit) × World :=
  courierSent.2.run false courierSent.1.1.commit

/-- All of its uses. -/
def courierUses : List Use :=
  [⟨.openWith { sessionId := some "a" },
      ((direct courier).perform (.openWith { sessionId := some "a" })).trace (World.answer false)
        courierWorld, courierOpened.1.2⟩,
    ⟨.send { messageType := "greeting" } {},
      ((direct courierOpened.1.1).perform (.send { messageType := "greeting" } {})).trace
        (World.answer false) courierEdited, courierSent.1.2⟩,
    ⟨.commit, ((direct courierSent.1.1).perform .commit).trace (World.answer false) courierSent.2,
      courierCommitted.1.2⟩]

/-- A commit whose batch the broker rejects: the document is stored, nothing waits in the queue, and
no record is added. -/
theorem keeps_protocol_brokerDown :
    Used (fun _ _ => True) (direct courier) courierUses (direct courierCommitted.1.1) ∧
    courierCommitted.1.1.drop.Runs (fun _ _ => True) [] () ∧
    Worked "db" 0 courier.router courierSent.2 courierSent.1.1 [.put "order" [1]] ∧
    courierSent.2.run false ((direct courierSent.1.1).perform .commit) =
      ((some (direct courierCommitted.1.1), .error (.dispatch (.rejected "broker down"))),
        courierCommitted.2) ∧
    courierCommitted.1.1.phase = .failed ∧
    Course 0 courierCommitted.1.1.batch (outward (courierUses.flatMap (·.calls))) ∧
    (outward (courierUses.flatMap (·.calls))).map Exchange.kind =
      [.openStaging, .complete, .dispatch, .closeStaging] ∧
    Outcome "db" [.put "order" [1]] courierSent.1.1 false courierSent.2 courierCommitted.2 .commit
      (.error (.dispatch (.rejected "broker down"))) ∧
    (courierCommitted.2.database.store "db").document? "order" = some [1] ∧
    courierCommitted.2.transport.pending "inbox" = [] ∧
    (courierCommitted.2.database.store "db").records =
      (courierSent.2.database.store "db").records := by
  -- the three requests, each in the world that the one before has left
  have hopen : courierWorld.run false ((direct courier).perform
      (.openWith { sessionId := some "a" })) =
      ((some (direct courierOpened.1.1), .ok ()), courierOpened.2) := rfl
  have hsend : courierEdited.run false ((direct courierOpened.1.1).perform
      (.send { messageType := "greeting" } {})) =
      ((some (direct courierSent.1.1), .ok ()), courierSent.2) := rfl
  have hcommit : courierSent.2.run false ((direct courierSent.1.1).perform .commit) =
      ((some (direct courierCommitted.1.1), .error (.dispatch (.rejected "broker down"))),
        courierCommitted.2) := rfl
  have hused : Used (fun _ _ => True) (direct courier) courierUses
      (direct courierCommitted.1.1) :=
    .next (runs_trace (fun _ _ => trivial) _ courierWorld)
      (.next (runs_trace (fun _ _ => trivial) _ courierEdited)
        (.next (runs_trace (fun _ _ => trivial) _ courierSent.2) (.none _)))
  have hdrop : courierCommitted.1.1.drop.Runs (fun _ _ => True) [] () :=
    .done ()
  have hworked : Worked "db" 0 courier.router courierSent.2 courierSent.1.1 [.put "order" [1]] :=
    .request (.edit (.put "order" [1]) (.request (.start courierWorld rfl) hopen) rfl rfl) hsend
  obtain ⟨-, -, hfailed, hcourse, houtcome⟩ := keeps_protocol hused
  obtain ⟨houtcome, hrecords⟩ := houtcome hworked hcommit
  -- of the three uses it is the last one that has failed
  have hphase := hfailed.2 ⟨courierUses.take 2, _, [], rfl, ⟨rfl, by decide +kernel⟩,
    fun _ hlater => absurd hlater List.not_mem_nil⟩
  have hcourse := (hcourse [] hdrop).1
  rw [List.append_nil] at hcourse
  exact ⟨hused, hdrop, hworked, hcommit, hphase, hcourse, by decide +kernel, houtcome,
    by decide +kernel, by decide +kernel, hrecords "db"⟩

end Session.Direct

end Outbox
