import Outbox.Proofs.Contract.Requests

/-!
# Commits under any interleaving

Sessions and deliveries share a store, in any number and in any order of their calls. At every
moment the store is what the commits that have succeeded make of an empty one, in the order of
their success, and no two commits have used one id.

* `System.Fresh.reaches`        what holds in every state that is reached
* `System.store_agrees_replay`  the store is the replay of the log
-/

namespace Outbox

/-- The terms of participants that share a store, and nothing beyond that. -/
def Terms.sharing (store : String) : Terms where
  store := store
  address _ := True
  opening _ := True
  time _ := True
  reliable := False
  sound _ := False
  isControl_of_sound h := h.elim
  tracked_of_sound h := h.elim
  sound_successor _ h := h.elim
  reliable_of_sound h := h.elim

/-- An id that changes have used is taken afterwards. -/
theorem Store.record?_foldl_apply_ne_none {s : Store} {changes : List Change} {id : String}
    (hnd : (recordIds changes).Nodup) (h : id ∈ recordIds changes) :
    (changes.foldl apply s).record? id ≠ none := by
  obtain ⟨r, hr, rfl⟩ := List.mem_map.1 h
  obtain ⟨c, hc, hcr⟩ := List.mem_filterMap.1 hr
  obtain rfl : c = .record r := by
    cases c <;> simp_all [Change.record?]
  rw [record?_foldl_apply_self hnd hc]
  exact Option.some_ne_none r

namespace System

variable {T : Terms} {G : Standings} {s : System}

/-- A system in which nothing has happened yet. -/
structure Fresh (s : System) : Prop where
  tasks : s.tasks = []
  log : s.log = []
  database : s.world.database = {}
  dispatched : s.world.transport.dispatched = []
  visible : s.world.faults.hiddenRecords = 0

/-- A fresh system is in order, with nobody who holds or owes anything. -/
theorem Fresh.inv (h : s.Fresh) (htime : T.time s.world.clock.now) :
    Inv T (fun _ => {}) s where
  shared := by
    refine ⟨h.visible, htime, fun id r hr => ?_, fun id r hr => ?_⟩ <;>
      simp [World.record?, h.database, Database.store, Store.record?] at hr
  keeps i t ht := by simp [h.tasks] at ht
  absent _ _ := rfl
  stagings := ⟨nofun, nofun⟩
  transactions := ⟨nofun, nofun⟩

/-- Nobody has made a request of it either. -/
theorem Fresh.requests (h : s.Fresh) : Requests (fun _ => {}) s where
  tasks i t ht := by simp [h.tasks] at ht
  who_lt e he := by simp [h.log] at he
  result i n what result hmem := by simp [h.log] at hmem

/-- A system whose clock stands at the start of 1970. -/
def untouched : System where
  world := { clock := { start := .epoch } }

/-- Nothing has happened in it. -/
theorem fresh_untouched : untouched.Fresh where
  tasks := rfl
  log := rfl
  database := rfl
  dispatched := rfl
  visible := rfl

/-- A session puts a document, sends a message and commits. -/
def oneCommit : List Event :=
  [.create "db" {} "processor", .request 0 (.openWith { sessionId := some "a" })] ++
    List.replicate 3 (.call 0 false) ++
    [.edit 0 (.put "k" [1]),
      .request 0 (.send { messageType := "greeting" } { destination := some "inbox" })] ++
    List.replicate 3 (.call 0 false) ++ [.request 0 .commit] ++ List.replicate 7 (.call 0 false)

/-! ### The store and the log -/

/-- The store is what the log tells, and the log has no id twice. -/
structure Recorded (store : String) (s : System) : Prop where
  agrees : (s.world.database.store store).Agrees (replay s.log)
  nodup : (recordIds (committedChanges s.log)).Nodup

/-- An empty store is what an empty log tells of. -/
theorem Fresh.recorded (h : s.Fresh) (store : String) : Recorded store s where
  agrees := by
    simp only [h.database, h.log]
    exact ⟨rfl, fun _ => rfl⟩
  nodup := by simp [h.log]

/-- A record that the log tells of is in the store. -/
theorem Recorded.record?_ne_none {store id : String} (h : Recorded store s)
    (hid : id ∈ recordIds (committedChanges s.log)) :
    (s.world.database.store store).record? id ≠ none := by
  -- the replay has a record under the id, and the store agrees with the replay
  intro hnone
  have hreplay := h.agrees.records id
  rw [hnone, Option.map_none] at hreplay
  exact Store.record?_foldl_apply_ne_none h.nodup hid (Option.map_eq_none_iff.1 hreplay.symm)

/-- A step on the store and the changes that the log then tells of belong together. -/
theorem Recorded.storeStep {s' : System} {role : Role} {changes : List Change}
    (h : Recorded T.store s) (hlog : committedChanges s'.log = committedChanges s.log ++ changes)
    (hstep : StoreStep T role s.world s'.world changes) : Recorded T.store s' := by
  -- the log is replayed up to here, and then the changes of this step
  have hreplay : replay s'.log = changes.foldl Store.apply (replay s.log) := by
    rw [replay, hlog, List.foldl_append]
    rfl
  refine ⟨?_, ?_⟩
  · rw [hreplay]
    -- a step leaves the store, marks a record, or applies the changes that it logs
    cases hstep with
    | kept hsame => exact hsame.agrees h.agrees
    | marked id _ _ hstore =>
      rw [hstore]
      exact Store.agrees_setDispatched h.agrees id
    | committed _ _ happly =>
      obtain ⟨-, -, hstore⟩ := Store.applyAll_eq_ok_iff.1 happly
      rw [hstore]
      exact Store.agrees_foldl_apply h.agrees _
  · rw [hlog]
    -- only a commit adds ids, and the store has refused those that are taken
    cases hstep with
    | kept _ => simpa using h.nodup
    | marked id _ _ _ => simpa using h.nodup
    | committed _ _ happly =>
      obtain ⟨hnd, hfree, -⟩ := Store.applyAll_eq_ok_iff.1 happly
      rw [recordIds_append]
      refine List.nodup_append.2 ⟨h.nodup, hnd, ?_⟩
      rintro id hid _ hid' rfl
      exact h.record?_ne_none hid (hfree id hid')

/-- What leaves content and commits alone keeps store and log together. -/
theorem Recorded.of_sameContent {s' : System} {store : String} (h : Recorded store s)
    (hlog : committedChanges s'.log = committedChanges s.log)
    (hsame : (s.world.database.store store).SameContent (s'.world.database.store store)) :
    Recorded store s' where
  agrees := by
    rw [replay, hlog]
    exact hsame.agrees h.agrees
  nodup := by
    rw [hlog]
    exact h.nodup

/-- A change that is staged is not yet in the store. -/
theorem sameContent_stage (e : Edit) (d : Database) (id : StagingId) (name : String) :
    (d.store name).SameContent ((e.stage d id).2.store name) := by
  obtain ⟨key, change, hstage, -⟩ := e.eq_stage
  rw [hstage]
  unfold Database.stage
  split
  · exact .refl _
  · split <;> exact .refl _

/-- So an edit of a document leaves the content of the stores alone. -/
theorem sameContent_edit (s : System) (who : Nat) (e : Edit) (name : String) :
    (s.world.database.store name).SameContent ((s.edit who e).world.database.store name) := by
  rcases s.edit_cases who e with heq | ⟨staged, n, session, id, database, -, -, hd, heq⟩
  · rw [heq]
    exact .refl _
  · have hsame := sameContent_stage e s.world.database id name
    rw [hd] at hsame
    rw [heq]
    exact hsame

/-- What happens from outside leaves the content of the stores alone. -/
theorem sameContent_disturb (w : World) (d : Disturbance) (name : String) :
    (w.database.store name).SameContent ((w.disturb d).database.store name) := by
  -- an armed failure changes what will happen, and not what is there
  cases d with
  | failStore store call reason =>
    have harm : (w.database.store store).SameContent ((w.database.store store).arm call reason) :=
      ⟨rfl, rfl⟩
    -- the failure that was armed is no part of the content
    exact Database.sameContent_setStore harm name
  | receive queue =>
    simp only [World.disturb]
    split <;> exact .refl _
  | _ => exact .refl _

/-- Documents and records change only with the calls of participants. -/
theorem sameContent_step {e : Event} (he : ∀ who cancelled, e ≠ .call who cancelled)
    (name : String) :
    (s.world.database.store name).SameContent ((s.step e).world.database.store name) := by
  -- edits stage, and the rest touches no store
  cases e with
  | create store router address => exact .refl _
  | request who what =>
    simp only [System.step, System.request]
    split <;> exact .refl _
  | edit who e => exact sameContent_edit s who e name
  | take worker =>
    simp only [System.step, System.take]
    split <;> exact .refl _
  | hand p m => exact .refl _
  | call who cancelled => exact absurd rfl (he who cancelled)
  | disturb d => exact sameContent_disturb s.world d name

/-- An edit leaves the log alone. -/
theorem log_edit (s : System) (who : Nat) (e : Edit) : (s.edit who e).log = s.log := by
  rcases s.edit_cases who e with heq | ⟨staged, n, session, id, database, -, -, -, heq⟩ <;> rw [heq]

/-- So does a worker that takes a message. -/
theorem log_take (s : System) (worker : Worker) : (s.take worker).log = s.log := by
  unfold System.take
  split <;> rfl

/-- So does what has been committed. -/
theorem committedChanges_step {e : Event} (he : ∀ who cancelled, e ≠ .call who cancelled) :
    committedChanges (s.step e).log = committedChanges s.log := by
  cases e with
  | create store router address => rfl
  -- a request can end without a call, and then its end is logged
  | request who what =>
    simp only [System.step, System.request]
    split
    · next staged n session _ =>
      have hnone : committedChanges (Task.ending who (n + 1) what (session.perform what)) = [] := by
        refine List.flatMap_eq_nil_iff.2 fun entry hentry => ?_
        obtain ⟨result, -, rfl⟩ := mem_ending.1 hentry
        rfl
      rw [committedChanges_append, hnone, List.append_nil]
    · rfl
  | edit who e => exact congrArg committedChanges (log_edit s who e)
  | take worker => exact congrArg committedChanges (log_take s worker)
  | hand p m => rfl
  | call who cancelled => exact absurd rfl (he who cancelled)
  | disturb d => rfl

/-- A call keeps store and log together. -/
theorem Recorded.call {who : Nat} {cancelled : Bool} (h : Recorded T.store s) (hinv : Inv T G s)
    (hfits : Fits T s (.call who cancelled)) : Recorded T.store (s.call who cancelled) := by
  unfold System.call
  split
  · exact h
  · next turn hturn =>
    -- the call is lawful, so it is a step on the store of the kind that the log tells of
    obtain ⟨t, ht, hturn'⟩ := Option.bind_eq_some_iff.1 hturn
    obtain ⟨role, n, tail, -, hlawful, hlog, htail, -⟩ := hinv.lawful cancelled ht hturn' hfits
    refine h.storeStep ?_ (storeStep_answer cancelled who n hlawful)
    -- the end of a request tells of no commit
    have hnone : committedChanges (tail (World.answer cancelled turn.call s.world).1) = [] := by
      refine List.flatMap_eq_nil_iff.2 fun entry hentry => ?_
      obtain ⟨what, result, rfl⟩ := htail _ entry hentry
      rfl
    simp only [hlog, committedChanges_append, hnone, List.append_nil]

/-- Every event keeps store and log together. -/
theorem Recorded.step {e : Event} (h : Recorded T.store s) (hinv : Inv T G s)
    (hfits : Fits T s e) : Recorded T.store (s.step e) := by
  by_cases he : ∃ who cancelled, e = .call who cancelled
  -- only calls change content, and only calls log commits
  · obtain ⟨who, cancelled, rfl⟩ := he
    exact h.call hinv hfits
  · have hother : ∀ who cancelled, e ≠ .call who cancelled :=
      fun who cancelled heq => he ⟨who, cancelled, heq⟩
    exact h.of_sameContent (committedChanges_step hother) (sameContent_step hother T.store)

/-- What holds of every system that a run leads to from a fresh one. -/
theorem Fresh.reaches {s₀ : System} (hfresh : s₀.Fresh) (htime : T.time s₀.world.clock.now)
    (h : Reaches (Fits T) s₀ s) : ∃ G, Inv T G s ∧ Requests G s ∧ Recorded T.store s := by
  -- what participants hold and owe is not determined by the system, so it is carried along
  refine h.invariant (I := fun s => ∃ G, Inv T G s ∧ Requests G s ∧ Recorded T.store s)
    ⟨_, hfresh.inv htime, hfresh.requests, hfresh.recorded T.store⟩ ?_
  rintro s e ⟨G, hinv, hrequests, hrecorded⟩ hfits
  exact ⟨_, hinv.step hfits, hrequests.step hinv hfits, hrecorded.step hinv hfits⟩

/-! ### The store as a replay -/

/-- All participants work on one store. -/
def OnStore (store : String) (_ : System) : Event → Prop
  | .create name _ _ => name = store
  | .take worker => worker.receiver.store = store
  | .hand p _ => p.store = store
  | .request _ _ | .edit _ _ | .call _ _ | .disturb _ => True

/-- Participants that share a store are within the terms that ask for nothing else. -/
theorem OnStore.fits {store : String} {e : Event} (h : OnStore store s e) :
    Fits (.sharing store) s e := by
  -- every event in turn; nothing is asked of calls and of what happens outside
  cases e with
  | create name router address => exact ⟨h, trivial⟩
  | request who what => exact fun _ _ => trivial
  | edit who e => trivial
  | take worker => exact ⟨h, trivial⟩
  | hand p m => exact h
  | call who cancelled => exact fun hreliable => hreliable.elim
  | disturb d => exact fun _ _ => trivial

/-- At every moment the store holds what the commits that have succeeded make of an empty one, in
the order of their success, marks aside; and the commits that have succeeded are those of the
requests to commit that ended well, of tombstones, and of requests to commit that are about to end
well. -/
theorem store_agrees_replay {store : String} {s₀ s : System} (hfresh : s₀.Fresh)
    (h : Reaches (OnStore store) s₀ s) :
    (s.world.database.store store).Agrees (replay s.log) ∧
    ∀ who n what result, .returned who n what result ∈ s.log →
      ((∃ changes, .committed who n changes ∈ s.log) ↔ what = .commit ∧ result = .ok ()) := by
  obtain ⟨G, -, hrequests, hrecorded⟩ :=
    hfresh.reaches (T := .sharing store) trivial (h.mono fun _ _ => OnStore.fits)
  exact ⟨hrecorded.agrees, hrequests.result⟩

/-- All events of the session are on the one store. -/
theorem onStore_oneCommit {e : Event} (he : e ∈ oneCommit) : OnStore "db" s e := by
  simp only [oneCommit, List.mem_append, List.mem_cons, List.mem_replicate, List.not_mem_nil,
    or_false] at he
  rcases he with (((((rfl | rfl) | ⟨-, rfl⟩) | rfl | rfl) | ⟨-, rfl⟩) | rfl) | ⟨-, rfl⟩ <;>
    first | rfl | trivial

set_option maxRecDepth 10000 in
/-- The document and the record of the session are in the store when it has committed. -/
theorem store_agrees_replay_oneCommit :
    (committedChanges (untouched.run oneCommit).log).length = 2 ∧
    ((untouched.run oneCommit).world.database.store "db").Agrees
      (replay (untouched.run oneCommit).log) := by
  -- no event of this run depends on the state in which it happens
  have hreaches : Reaches (OnStore "db") untouched (untouched.run oneCommit) :=
    reaches_run (P := fun _ => True) oneCommit (fun _ _ _ he => onStore_oneCommit he)
      fun _ _ => trivial
  exact ⟨by decide +kernel, (store_agrees_replay fresh_untouched hreaches).1⟩

end System

end Outbox
