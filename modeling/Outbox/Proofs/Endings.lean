import Mathlib.Data.List.Basic
import Outbox.Proofs.Blocked
import Outbox.Proofs.Others

/-!
# How the delivery of a control message ends

Stores and transport may be in any state, any failure but that of a mark may be armed, and others
make any moves between the calls of the delivery. There are about ten ways through it, and three
ways in which it can end: completed, and then there is a record under the id of its message with
every operation dispatched; replaced by a successor, and then there was no record when it looked,
and it has handed over that one operation and touched no store; or failed, and then nothing that
it did has changed documents, records, queues or the log of the transport.

* `amid_forwardRecord`  what waits in a record is dispatched, or nothing is
* `amid_tombstone`      an id is blocked, or the record that came first is dispatched
* `receive_ends`        the three endings
-/

namespace Outbox

open Program

/-! ### Acts that change nothing -/

/-- The act has changed neither documents and records nor queues and log. -/
structure Act.Harmless (a : Act) : Prop where
  stores : ∀ name, (a.world.database.store name).SameContent (a.after.database.store name)
  queues : a.after.transport.queues = a.world.transport.queues
  dispatched : a.after.transport.dispatched = a.world.transport.dispatched

/-- The acts tell outcomes and do nothing else. -/
def Telling (acts : List Act) : Prop := ∀ a ∈ acts, ∃ o v, a = ⟨.observe o, v⟩

namespace Act

/-- What keeps the content of the stores and the transport is harmless. -/
theorem harmless_of_database {a : Act}
    (h : ∀ name, (a.world.database.store name).SameContent (a.after.database.store name))
    (ht : a.after.transport = a.world.transport) : a.Harmless := by
  refine ⟨h, ?_, ?_⟩ <;> rw [ht]

/-- To read the clock is harmless. -/
theorem harmless_now (v : World) : (⟨.now, v⟩ : Act).Harmless :=
  ⟨fun _ => .refl _, rfl, rfl⟩

/-- To begin a transaction is harmless. -/
theorem harmless_beginTransaction (store : String) (hints : Hints) (v : World) :
    (⟨.beginTransaction store hints, v⟩ : Act).Harmless :=
  ⟨fun _ => .refl _, rfl, rfl⟩

/-- To add a record to a transaction is harmless. -/
theorem harmless_addRecord (store : String) (r : Record) (tx : TransactionId) (v : World) :
    (⟨.addRecord store r tx, v⟩ : Act).Harmless :=
  ⟨Database.sameContent_addRecord v.database store r tx, rfl, rfl⟩

/-- A look-up is harmless. -/
theorem harmless_getRecord (store id : String) (v : World) :
    (⟨.getRecord store id, v⟩ : Act).Harmless := by
  refine harmless_of_database (fun name => ?_) ?_
  · simp only [after, World.answer, World.database_getRecord]
    exact .refl _
  · simp only [after, World.answer, World.transport_getRecord]

/-- A dispatch that fails leaves queues and log alone. -/
theorem harmless_dispatch {ops : List Shipment} {v : World} {e : DispatchError}
    (h : (World.answer false (.dispatch ops) v).1 = .error e) :
    (⟨.dispatch ops, v⟩ : Act).Harmless := by
  have hfails : (v.transport.dispatch v.clock.elapsed ops).1 = .error e := h
  obtain ⟨-, ht⟩ := Transport.dispatch_of_error hfails
  refine ⟨fun _ => .refl _, ?_, ?_⟩
  · show (v.transport.dispatch v.clock.elapsed ops).2.queues = _
    rw [ht]
  · show (v.transport.dispatch v.clock.elapsed ops).2.dispatched = _
    rw [ht]

end Act

/-- To tell outcomes is harmless. -/
theorem Telling.harmless {acts : List Act} (h : Telling acts) : ∀ a ∈ acts, a.Harmless := by
  intro a ha
  obtain ⟨o, v, rfl⟩ := h a ha
  exact ⟨fun _ => .refl _, rfl, rfl⟩

/-! ### What is there -/

/-- There is a record under an id, and every operation of it is dispatched. -/
def World.HasDispatched (store id : String) (w : World) : Prop :=
  ∃ r, w.record? store id = some r ∧ r.isDispatched = true

/-- What has been dispatched stays so while the world grows. -/
theorem World.HasDispatched.grow {store id : String} {w w' : World}
    (h : w.HasDispatched store id) (hg : w.Grows w') : w'.HasDispatched store id := by
  obtain ⟨r, hr, hd⟩ := h
  obtain ⟨r', hr', hbecomes⟩ := hg.record? hr
  exact ⟨r', hr', hbecomes.isDispatched hd⟩

/-- A look-up fails, or it tells what is there. -/
theorem World.Sound.getRecord_cases {w : World} (hw : w.Sound) (store id : String) :
    (∃ e, (World.answer false (.getRecord store id) w).1 = .error e) ∨
      (World.answer false (.getRecord store id) w).1 = .ok (w.record? store id) := by
  simp only [World.answer, World.getRecord, hw.seen, World.record?]
  split
  · exact .inl ⟨_, rfl⟩
  · exact .inr rfl

/-- A look-up leaves every record where it is. -/
theorem World.record?_getRecord (w : World) (store id other name : String) :
    (World.answer false (.getRecord store id) w).2.record? name other = w.record? name other := by
  simp only [World.answer, World.record?, World.database_getRecord]

/-- A mark succeeds, and the record is dispatched afterwards. -/
theorem World.Sound.setDispatched {w : World} (hw : w.Sound) {store id : String} {r : Record}
    (hr : w.record? store id = some r) :
    (World.answer false (.setDispatched store id) w).1 = .ok () ∧
      (World.answer false (.setDispatched store id) w).2.HasDispatched store id := by
  simp only [World.answer, World.setDispatched, hw.marks]
  refine ⟨trivial, r.markDispatched, ?_, Record.isDispatched_markDispatched r⟩
  rw [World.record?] at hr
  simp [World.record?, Database.setDispatched, hr]

namespace Program

variable {α : Type} {q : Program α} {a : α} {past acts : List Act} {w w' : World}

/-- Neither the participant nor the others make a sound world unsound, or take a record back. -/
theorem Amid.since (h : q.Amid others past w acts a w') :
    (w.Sound → w'.Sound) ∧ w.Grows w' := by
  induction h with
  | done hmoves =>
    have hsince := since_of_moves hmoves
    exact ⟨hsince.sound, hsince.grows⟩
  | call hmoves _ ih =>
    have hsince := since_of_moves hmoves
    obtain ⟨hsound, hgrows⟩ := ih
    exact ⟨fun hw => hsound ((hsince.sound hw).answer false _),
      (hsince.grows.trans (World.grows_answer false _ _)).trans hgrows⟩

end Program

/-- How a part of a delivery ends that has a record dispatched or blocks an id: well, with a
dispatched record under the id, or without a change. -/
def Closes {α : Type} (store id : String) (acts : List Act) (w' : World) :
    Except DeliveryError α → Prop
  | .ok _ => w'.HasDispatched store id
  | .error _ => ∀ a ∈ acts, a.Harmless

section

variable {p : Receiver} {m : Message} {c : Countdown} {past acts : List Act} {w w' : World}

/-! ### Records and blocked ids -/

/-- What waits in a record is dispatched and the record is marked, or nothing has been done. -/
theorem amid_forwardRecord {r : Record} {result : Except DeliveryError Unit} (hw : w.Sound)
    (hr : w.record? p.store r.id = some r)
    (h : (p.forwardRecord r).Amid others past w acts result w') :
    Closes p.store r.id acts w' result := by
  unfold Receiver.forwardRecord at h
  split at h
  -- nothing waited in the record when it was read
  · next hd =>
    obtain ⟨rfl, rfl, hmoves⟩ := amid_done.1 h
    exact World.HasDispatched.grow ⟨r, hr, hd⟩ (since_of_moves hmoves).grows
  · rw [ask_bind] at h
    obtain ⟨v, rest, hmoves, hrest, rfl⟩ := amid_call.1 h
    cases hreply : (World.answer false (.dispatch (r.undispatched.map (·.toShipment))) v).1 with
    -- rejected: the record is not marked, and nothing has been handed over
    | error e =>
      rw [hreply] at hrest
      obtain ⟨rfl, rfl, -⟩ := amid_done.1 hrest
      exact List.forall_mem_singleton.2 (Act.harmless_dispatch hreply)
    | ok _ =>
      rw [hreply] at hrest
      dsimp only at hrest
      rw [ask_bind] at hrest
      -- the record is still there when it is marked
      have hsince := since_of_moves hmoves
      obtain ⟨u, last, hmoves', hlast, rfl⟩ := amid_call.1 hrest
      have hsince' := since_of_moves hmoves'
      have hu := hsince'.sound ((hsince.sound hw).answer false _)
      have hgrows := (hsince.grows.trans (World.grows_answer false _ v)).trans hsince'.grows
      obtain ⟨r', hr', -⟩ := hgrows.record? hr
      -- whatever was done in between, the record can be marked where it stands
      obtain ⟨hok, hmarked⟩ := hu.setDispatched hr'
      rw [hok] at hlast
      obtain ⟨rfl, rfl, hmoves''⟩ := amid_done.1 hlast
      exact hmarked.grow (since_of_moves hmoves'').grows

/-- A commit that fails changes nothing that can be seen. -/
theorem harmless_commit {tx : TransactionId} {v : World} {e : StoreError}
    (h : (World.answer false (.commit tx) v).1 = .error e) : (⟨.commit tx, v⟩ : Act).Harmless := by
  refine Act.harmless_of_database (fun name => ?_) rfl
  show (v.database.store name).SameContent ((v.database.commit tx).2.store name)
  have he : (v.database.commit tx).1 = .error e := h
  -- a commit can fail in four ways, and each of them leaves the content of the stores
  cases v.database.commits tx with
  | unknown _ heq | again t _ _ heq =>
    rw [heq]
    exact .refl _
  | failed t reason _ _ heq =>
    rw [heq]
    exact Database.sameContent_disarm v.database t.store .commit name
  | refused t e _ _ _ heq =>
    rw [heq]
    exact .refl _
  | applied t s _ _ _ heq =>
    rw [heq] at he
    cases he

/-- A commit of an empty record alone succeeds, or it changes nothing; when it is for an id that is
taken, then there is a record under the id. -/
theorem commit_tombstone {id store : String} {tx : TransactionId} {v : World}
    (ht : v.database.transactions[tx]? = some { store, changes := [.record (.tombstone id)] }) :
    ((World.answer false (.commit tx) v).1 = .ok () ∧
      (World.answer false (.commit tx) v).2.HasDispatched store id) ∨
    ∃ e, (World.answer false (.commit tx) v).1 = .error e ∧
      ((∃ taken, e = .conflict taken) → ∃ r, v.record? store id = some r) := by
  have hreply : World.answer false (.commit tx) v =
      ((v.database.commit tx).1, { v with database := (v.database.commit tx).2 }) := rfl
  rw [hreply]
  -- the store fails, the id is taken, or the record is there
  obtain ⟨reason, heq⟩ | ⟨e, happly, heq⟩ | ⟨s, happly, heq⟩ := Database.commit_cases ht rfl
  · refine .inr ⟨_, congrArg Prod.fst heq, ?_⟩
    rintro ⟨taken, hconflict⟩
    cases hconflict
  · refine .inr ⟨e, congrArg Prod.fst heq, fun _ => ?_⟩
    -- had the id been free, the changes would have been made
    refine Option.ne_none_iff_exists'.1 fun hfree => ?_
    have hok : (v.database.store store).applyAll [.record (.tombstone id)] = .ok _ :=
      Store.applyAll_eq_ok_iff.2 ⟨by simp, by simpa [World.record?] using hfree, rfl⟩
    rw [hok] at happly
    cases happly
  · obtain ⟨-, -, rfl⟩ := Store.applyAll_eq_ok_iff.1 happly
    refine .inl ⟨congrArg Prod.fst heq, .tombstone id, ?_, Record.isDispatched_tombstone id⟩
    rw [heq]
    simp [World.record?, Database.setTransaction, Database.store, Database.setStore]

/-- An empty record is written, or nothing has been; when an id is taken, then there is a record
under it. -/
theorem amid_writeTombstone {id : String} {written : Except StoreError Unit}
    (h : (p.writeTombstone id).Amid others past w acts written w') :
    (written = .ok () ∧ w'.HasDispatched p.store id) ∨
    ∃ e, written = .error e ∧ (∀ a ∈ acts, a.Harmless) ∧
      ((∃ taken, e = .conflict taken) → ∃ r, w'.record? p.store id = some r) := by
  unfold Receiver.writeTombstone at h
  rw [ask_bind] at h
  obtain ⟨v₁, rest₁, -, hrest₁, rfl⟩ := amid_call.1 h
  -- the transaction is the delivery's own, so it stays as the delivery leaves it
  obtain ⟨tx, htx⟩ : ∃ tx, tx = (v₁.database.begin p.store).1 := ⟨_, rfl⟩
  have hown : begun (past ++ [⟨.beginTransaction p.store p.hints, v₁⟩]) tx :=
    ⟨p.store, p.hints, v₁, by simp, htx⟩
  have ht₁ : (v₁.database.begin p.store).2.transactions[tx]? = some { store := p.store } := by
    rw [htx]
    exact (Database.transactions_begin_fst v₁.database p.store).2
  have hfirst := Act.harmless_beginTransaction p.store p.hints v₁
  have hreply₁ : (World.answer false (.beginTransaction p.store p.hints) v₁).1 = .ok tx := by
    rw [htx]
    rfl
  rw [hreply₁] at hrest₁
  dsimp only at hrest₁
  rw [ask_bind] at hrest₁
  obtain ⟨v₂, rest₂, hmoves₂, hrest₂, rfl⟩ := amid_call.1 hrest₁
  have ht₂ := (since_of_moves hmoves₂).transaction hown ht₁
  have hsecond := Act.harmless_addRecord p.store (.tombstone id) tx v₂
  have hreply₂ : World.answer false (.addRecord p.store (.tombstone id) tx) v₂ =
      ((v₂.database.addRecord p.store (.tombstone id) tx).1,
        { v₂ with database := (v₂.database.addRecord p.store (.tombstone id) tx).2 }) := rfl
  rw [hreply₂] at hrest₂
  -- the record could not be added, and nothing of the transaction can be seen
  obtain ⟨reason, hadded⟩ | hadded := Database.addRecord_cases (.tombstone id) ht₂ rfl
  · rw [hadded] at hrest₂
    obtain ⟨rfl, rfl, -⟩ := amid_done.1 hrest₂
    refine .inr ⟨_, rfl, by simp [hfirst, hsecond], ?_⟩
    rintro ⟨taken, hconflict⟩
    cases hconflict
  · rw [hadded] at hrest₂
    obtain ⟨v₃, rest₃, hmoves₃, hrest₃, rfl⟩ := amid_call.1 hrest₂
    have ht₃ := (since_of_moves hmoves₃).transaction (begun_append hown)
      (Database.getElem?_setTransaction_self ht₂)
    obtain ⟨rfl, rfl, hmoves⟩ := amid_done.1 hrest₃
    have hgrows := (since_of_moves hmoves).grows
    -- the commit is made of the one record, since nobody else can touch the transaction
    obtain ⟨hok, hthere⟩ | ⟨e, he, htaken⟩ := commit_tombstone ht₃
    · exact .inl ⟨hok, hthere.grow hgrows⟩
    · refine .inr ⟨e, he, by simp [hfirst, hsecond, harmless_commit he], fun hconflict => ?_⟩
      obtain ⟨r, hr⟩ := htaken hconflict
      obtain ⟨r', hr', -⟩ := ((World.grows_answer false _ v₃).trans hgrows).record? hr
      exact ⟨r', hr'⟩

/-- An id is blocked, or the record that came first is dispatched, or nothing has been done. -/
theorem amid_tombstone {id : String} {result : Except DeliveryError Unit} (hw : w.Sound)
    (h : (p.tombstone id).Amid others past w acts result w') :
    Closes p.store id acts w' result := by
  unfold Receiver.tombstone at h
  obtain ⟨first, second, written, v, hfirst, hsecond, rfl⟩ := amid_bind.1 h
  obtain ⟨hv, -⟩ := hfirst.since
  -- the id was free, or it was not and the first record under it is looked for
  obtain ⟨rfl, hthere⟩ | ⟨e, rfl, hharmless, htaken⟩ := amid_writeTombstone hfirst
  · obtain ⟨rfl, rfl, hmoves⟩ := amid_done.1 hsecond
    exact hthere.grow (since_of_moves hmoves).grows
  · cases e with
    | conflict taken =>
      obtain ⟨r, hr⟩ := htaken ⟨taken, rfl⟩
      dsimp only at hsecond
      rw [ask_bind] at hsecond
      obtain ⟨u, rest, hmoves, hrest, rfl⟩ := amid_call.1 hsecond
      have hsince := since_of_moves hmoves
      have hu := hsince.sound (hv hw)
      obtain ⟨r', hr', -⟩ := hsince.grows.record? hr
      have hlook := Act.harmless_getRecord p.store id u
      -- a record is never taken back, so the second look-up finds it
      obtain ⟨e, hreply⟩ | hreply := hu.getRecord_cases p.store id
      · rw [hreply] at hrest
        obtain ⟨rfl, rfl, -⟩ := amid_done.1 hrest
        simpa [Closes, or_imp, forall_and, hlook] using hharmless
      · rw [hreply, hr'] at hrest
        have hid : r'.id = id := hu.keyed p.store id r' hr'
        have hthere : (World.answer false (.getRecord p.store id) u).2.record? p.store r'.id =
            some r' := by
          rw [World.record?_getRecord, hid, hr']
        have hcloses := amid_forwardRecord (hu.answer false _) hthere hrest
        rw [hid] at hcloses
        cases result with
        | ok _ => exact hcloses
        | error e =>
          exact List.forall_mem_append.2 ⟨hharmless, List.forall_mem_cons.2 ⟨hlook, hcloses⟩⟩
    -- any other failure ends the delivery, and what was done before was harmless
    | incompatible _ | serialization _ | backend _ =>
      obtain ⟨rfl, rfl, -⟩ := amid_done.1 hsecond
      simpa [Closes] using hharmless

/-- A delivery that goes on to complete ends as the part before does. -/
theorem amid_completing {q : Program (Except DeliveryError Unit)} {store id : String}
    {result : Except DeliveryError Disposition}
    (hq : ∀ {acts : List Act} {part : Except DeliveryError Unit} {v : World},
      q.Amid others past w acts part v → Closes store id acts v part)
    (h : (q >>= fun part => match part with
      | .error e => (done (.error e) : Program (Except DeliveryError Disposition))
      | .ok () => done (.ok .completed)).Amid others past w acts result w') :
    Closes store id acts w' result ∧ result ≠ .ok .retryScheduled := by
  obtain ⟨first, second, part, v, hfirst, hsecond, rfl⟩ := amid_bind.1 h
  have hcloses := hq hfirst
  -- with an error the delivery ends there, and without one it ends as completed
  cases part with
  | error e =>
    obtain ⟨rfl, rfl, -⟩ := amid_done.1 hsecond
    rw [List.append_nil]
    exact ⟨hcloses, nofun⟩
  | ok _ =>
    obtain ⟨rfl, rfl, hmoves⟩ := amid_done.1 hsecond
    exact ⟨World.HasDispatched.grow hcloses (since_of_moves hmoves).grows, nofun⟩

/-! ### Retrying and giving up -/

/-- An outcome is told, or there is nobody to tell it to. -/
theorem amid_report {moves : List Act → World → World → Prop} {reports : Bool} {o : Outcome}
    {x : Unit} (h : (report reports o).Amid moves past w acts x w') : Telling acts := by
  unfold report at h
  split at h
  · obtain ⟨v, rest, -, hrest, rfl⟩ := amid_call.1 h
    obtain ⟨rfl, -, -⟩ := amid_done.1 hrest
    exact List.forall_mem_singleton.2 ⟨o, v, rfl⟩
  · obtain ⟨rfl, -, -⟩ := amid_done.1 h
    exact fun a ha => absurd ha List.not_mem_nil

/-- What is done to reach a verdict on a message at a reading of the clock. -/
inductive Judged (queue : String) (m : Message) (now : Time.Instant) :
    Option Countdown → List Act → Verdict → Prop
  | goOn : Judged queue m now none [] .goOn
  | gaveUp (c : Countdown) (told : List Act) : c.isExhausted = true → Telling told →
      Judged queue m now (some c) told .gaveUp
  | retried (c : Countdown) (v : World) (told : List Act) : v.transport.rejection = none →
      Telling told →
      Judged queue m now (some c) (⟨.dispatch [c.successor m queue now], v⟩ :: told) .retried
  | failed (c : Countdown) (v : World) (e : DispatchError) :
      (World.answer false (.dispatch [c.successor m queue now]) v).1 = .error e →
      Judged queue m now (some c) [⟨.dispatch [c.successor m queue now], v⟩] (.failed e)

/-- What the judgement of a countdown does, by its verdict. -/
theorem amid_judge {moves : List Act → World → World → Prop} {queue : String} {reports : Bool}
    {countdown : Option Countdown} {now : Time.Instant} {verdict : Verdict}
    (h : (judge queue reports m countdown now).Amid moves past w acts verdict w') :
    Judged queue m now countdown acts verdict := by
  -- no countdown; one that is used up; one that still has budget
  cases countdown with
  | none =>
    obtain ⟨rfl, rfl, -⟩ := amid_done.1 h
    exact .goOn
  | some c =>
    unfold judge at h
    dsimp only at h
    split at h
    · next hexhausted =>
      obtain ⟨told, rest, _, _, htold, hrest, rfl⟩ := amid_bind.1 h
      obtain ⟨rfl, rfl, -⟩ := amid_done.1 hrest
      rw [List.append_nil]
      exact .gaveUp c told hexhausted (amid_report htold)
    · rw [ask_bind] at h
      obtain ⟨v, rest, -, hrest, rfl⟩ := amid_call.1 h
      cases hreply : (World.answer false (.dispatch [c.successor m queue now]) v).1 with
      | error e =>
        rw [hreply] at hrest
        obtain ⟨rfl, rfl, -⟩ := amid_done.1 hrest
        exact .failed c v e hreply
      | ok _ =>
        rw [hreply] at hrest
        obtain ⟨told, none, _, _, htold, hnone, rfl⟩ := amid_bind.1 hrest
        obtain ⟨rfl, rfl, -⟩ := amid_done.1 hnone
        rw [List.append_nil]
        exact .retried c v told (Transport.rejection_of_ok hreply) (amid_report htold)

/-- What a delivery has done that is replaced by a successor: it has read the clock, handed over
the successor, which was accepted, and told so. -/
inductive Replaced (p : Receiver) (m : Message) (c : Countdown) : List Act → Prop
  | intro (t v : World) (told : List Act) : v.transport.rejection = none → Telling told →
      Replaced p m c (⟨.now, t⟩ :: ⟨.dispatch [c.successor m p.address t.clock.now], v⟩ :: told)

/-- A message that is passed on is not retried. -/
theorem passOn_ne_retryScheduled {moves : List Act → World → World → Prop}
    {result : Except DeliveryError Disposition}
    (h : (p.passOn m).Amid moves past w acts result w') : result ≠ .ok .retryScheduled := by
  unfold Receiver.passOn at h
  split at h
  · obtain ⟨-, rfl, -⟩ := amid_done.1 h
    exact nofun
  · rw [ask_bind] at h
    obtain ⟨v, rest, -, hrest, -⟩ := amid_call.1 h
    cases hreply : (World.answer false (.handle m) v).1 with
    | error e | ok _ =>
      rw [hreply] at hrest
      obtain ⟨-, rfl, -⟩ := amid_done.1 hrest
      exact nofun

/-- A delivery of any message without a record that ends in a retry. -/
theorem amid_retry_retryScheduled {moves : List Act → World → World → Prop}
    {countdown : Option Countdown}
    (h : (p.retry m countdown).Amid moves past w acts (.ok .retryScheduled) w') :
    ∃ c, countdown = some c ∧ Replaced p m c acts := by
  unfold Receiver.retry at h
  rw [ask_bind] at h
  obtain ⟨t, rest, -, hrest, rfl⟩ := amid_call.1 h
  obtain ⟨judging, ending, verdict, u, hjudging, hending, rfl⟩ := amid_bind.1 hrest
  -- only one verdict ends with a retry
  cases amid_judge hjudging with
  | goOn => exact absurd rfl (passOn_ne_retryScheduled hending)
  | failed c v e _ => exact nomatch (amid_done.1 hending).2.1
  | retried c v told haccepted htold =>
    obtain ⟨rfl, -, -⟩ := amid_done.1 hending
    rw [List.append_nil]
    exact ⟨c, rfl, .intro t v told haccepted htold⟩
  | gaveUp c told _ _ =>
    dsimp only at hending
    split at hending
    · obtain ⟨_, last, blocked, _, _, hlast, rfl⟩ := amid_bind.1 hending
      cases blocked with
      | error e | ok _ => exact nomatch (amid_done.1 hlast).2.1
    · exact nomatch (amid_done.1 hending).2.1

/-- How the delivery of a control message without a record ends when it is not replaced. -/
theorem amid_retry {result : Except DeliveryError Disposition} (hw : w.Sound)
    (hm : m.isControl = true) (hresult : result ≠ .ok .retryScheduled)
    (h : (p.retry m (some c)).Amid others past w acts result w') :
    Closes p.store m.id acts w' result := by
  unfold Receiver.retry at h
  rw [ask_bind] at h
  obtain ⟨t, rest, hmoves, hrest, rfl⟩ := amid_call.1 h
  have ht : t.Sound := (since_of_moves hmoves).sound hw
  obtain ⟨judging, ending, verdict, u, hjudging, hending, rfl⟩ := amid_bind.1 hrest
  have hu : u.Sound := hjudging.since.1 (ht.answer false .now)
  have hnow := Act.harmless_now t
  -- as long as the delivery is not retried, its verdict is a failure or to give up
  cases amid_judge hjudging with
  | retried c v told _ _ => exact absurd (amid_done.1 hending).2.1 hresult
  | failed c v e hreply =>
    obtain ⟨rfl, rfl, -⟩ := amid_done.1 hending
    simp [Closes, hnow, Act.harmless_dispatch hreply]
  -- to give up is to tell it and to block the id
  | gaveUp c told _ htold =>
    dsimp only at hending
    rw [if_pos hm] at hending
    obtain ⟨hcloses, -⟩ := amid_completing (amid_tombstone hu) hending
    cases result with
    | ok _ => exact hcloses
    | error e =>
      exact List.forall_mem_cons.2 ⟨hnow, List.forall_mem_append.2 ⟨htold.harmless, hcloses⟩⟩

/-! ### The whole delivery -/

/-- The three endings of a delivery of a control message with a countdown. -/
def Ends (p : Receiver) (m : Message) (c : Countdown) (acts : List Act) (w' : World) :
    Except DeliveryError Disposition → Prop
  | .ok .completed => w'.HasDispatched p.store m.id
  | .ok .retryScheduled =>
    ∃ v rest, acts = ⟨.getRecord p.store m.id, v⟩ :: rest ∧ v.record? p.store m.id = none ∧
      Replaced p m c rest ∧ ∀ a ∈ acts, a.after.database = a.world.database
  | .error _ => ∀ a ∈ acts, a.Harmless

/-- A delivery that is replaced touches no store. -/
theorem Replaced.database (h : Replaced p m c acts) :
    ∀ a ∈ acts, a.after.database = a.world.database := by
  obtain ⟨t, v, told, -, htold⟩ := h
  intro a ha
  rcases List.mem_cons.1 ha with rfl | ha
  · rfl
  · rcases List.mem_cons.1 ha with rfl | ha
    · rfl
    · obtain ⟨o, x, rfl⟩ := htold a ha
      rfl

/-- A delivery that is not replaced ends as what follows its look-up does. -/
theorem Closes.ends {result : Except DeliveryError Disposition} {a : Act}
    (h : Closes p.store m.id acts w' result) (ha : a.Harmless)
    (hresult : result ≠ .ok .retryScheduled) : Ends p m c (a :: acts) w' result := by
  match result with
  | .ok .completed => exact h
  | .ok .retryScheduled => exact absurd rfl hresult
  | .error e => exact List.forall_mem_cons.2 ⟨ha, h⟩

/-- The work of a delivery ends in one of the three ways. -/
theorem amid_work {result : Except DeliveryError Disposition} (hw : w.Sound)
    (hm : m.isControl = true) (h : (p.work m (some c)).Amid others past w acts result w') :
    Ends p m c acts w' result := by
  unfold Receiver.work at h
  rw [if_pos hm, ask_bind] at h
  obtain ⟨v, rest, hmoves, hrest, rfl⟩ := amid_call.1 h
  have hv : v.Sound := (since_of_moves hmoves).sound hw
  have hlook := Act.harmless_getRecord p.store m.id v
  have hv' : (World.answer false (.getRecord p.store m.id) v).2.Sound := hv.answer false _
  -- the look-up fails, or it finds the record, or there is none
  obtain ⟨e, hreply⟩ | hreply := hv.getRecord_cases p.store m.id
  · rw [hreply] at hrest
    obtain ⟨rfl, rfl, -⟩ := amid_done.1 hrest
    exact List.forall_mem_singleton.2 hlook
  · cases hr : v.record? p.store m.id with
    | none =>
      rw [hreply, hr] at hrest
      -- without a record the delivery is retried or given up
      by_cases hresult : result = .ok .retryScheduled
      · subst hresult
        obtain ⟨c', hc, hreplaced⟩ := amid_retry_retryScheduled hrest
        obtain rfl := Option.some.inj hc
        refine ⟨v, rest, rfl, hr, hreplaced, fun a ha => ?_⟩
        rcases List.mem_cons.1 ha with rfl | ha
        · exact World.database_getRecord v p.store m.id
        · exact hreplaced.database a ha
      · exact (amid_retry hv' hm hresult hrest).ends hlook hresult
    | some r =>
      rw [hreply, hr] at hrest
      have hid : r.id = m.id := hv.keyed p.store m.id r hr
      have hthere : (World.answer false (.getRecord p.store m.id) v).2.record? p.store r.id =
          some r := by
        rw [World.record?_getRecord, hid, hr]
      obtain ⟨hcloses, hresult⟩ := amid_completing (amid_forwardRecord hv' hthere) hrest
      rw [hid] at hcloses
      exact hcloses.ends hlook hresult

/-- How the delivery of a control message with a countdown ends, whatever the others do in
between. -/
theorem receive_ends {result : Except DeliveryError Disposition} (hw : w.Sound)
    (hm : m.isControl = true) (hread : Countdown.read m = .ok (some c))
    (h : (p.receive m).Amid others [] w acts result w') : Ends p m c acts w' result := by
  have hc : tracked m = some c := by simp [tracked, hread]
  unfold Receiver.receive withOutcome at h
  rw [hc] at h
  -- first the work, and then what is told of it
  obtain ⟨working, telling, worked, v, hworking, htelling, rfl⟩ := amid_bind.1 h
  have hends := amid_work hw hm hworking
  -- what completes is told in the end, and that leaves records and marks as they are
  match worked with
  | .ok .completed =>
    obtain ⟨told, last, _, _, htold, hlast, rfl⟩ := amid_bind.1 htelling
    obtain ⟨rfl, rfl, hmoves⟩ := amid_done.1 hlast
    exact World.HasDispatched.grow hends (htold.since.2.trans (since_of_moves hmoves).grows)
  | .ok .retryScheduled | .error _ =>
    obtain ⟨rfl, rfl, hmoves⟩ := amid_done.1 htelling
    rw [List.append_nil]
    exact hends

end

/-- A world in which nothing has happened is sound. -/
theorem World.sound_start (clock : Clock) : ({ clock } : World).Sound where
  keyed name := by
    rw [Database.store_empty]
    exact Store.keyed_empty
  seen := rfl
  marks := rfl

/-- A control message whose budget is used up. -/
def lastAnnouncement : Message where
  id := "session"
  headers := .ofList [("control-message", "true"),
    ("transactional-session.remaining-commit-duration", "PT0S"),
    ("transactional-session.commit-delay-increment", "PT2S")]

/-- The record of its session, which has sent one message. -/
def lateRecord : Record := .new "session" [⟨{ id := "greeting" }, .queue "inbox", none⟩]

/-- What the session leaves when it commits. -/
def lateCommit (w : World) : World :=
  let w := (World.answer false (.beginTransaction "db" {}) w).2
  let w := (World.answer false (.addRecord "db" lateRecord 0) w).2
  (World.answer false (.commit 0) w).2

/-- The late commit is a move of others, because they own its transaction. -/
theorem moves_lateCommit {own : TransactionId → Prop} (h : ¬ own 0) (w : World) :
    Relation.ReflTransGen (Move own) w (lateCommit w) := by
  refine .head (.call false (.beginTransaction "db" {}) trivial) ?_
  refine .head (.call false (.addRecord "db" lateRecord 0) h) ?_
  exact .single (.call false (.commit 0) h)

/-- The session commits after the delivery has found no record: the delivery cannot block its id,
and dispatches what the session has sent. -/
theorem receive_ends_overtaken :
    ∃ acts result w', (Receiver.receive { store := "db", address := "processor" }
        lastAnnouncement).Amid others [] { clock := { start := .epoch } } acts result w' ∧
      result = .ok .completed ∧ w'.HasDispatched "db" "session" ∧
      (w'.transport.pending "inbox").map (·.id) = ["greeting"] := by
  have hm : lastAnnouncement.isControl = true := by decide +kernel
  have hread : Countdown.read lastAnnouncement = .ok (some
      { sessionId := "session", attempt := 1, remaining := { nanos := 0 }
        increment := { nanos := 2000000000 }, timeSent := none }) := by
    decide +kernel
  have hnone : ∀ v, ¬ begun [⟨.getRecord "db" "session", v⟩] 0 := by
    rintro v ⟨_, _, _, h, -⟩
    exact nomatch congrArg (·.call.kind) (List.mem_singleton.1 h)
  -- the delivery is played with the commit between its look-up and its own record
  obtain ⟨acts, result, w', h, hresult, hinbox⟩ : ∃ acts result w',
      (Receiver.receive { store := "db", address := "processor" }
        lastAnnouncement).Amid others [] { clock := { start := .epoch } } acts result w' ∧
      result = .ok .completed ∧ (w'.transport.pending "inbox").map (·.id) = ["greeting"] := by
    unfold Receiver.receive withOutcome
    dsimp only
    unfold Receiver.work
    rw [if_pos hm]
    refine ⟨_, _, _, .call .refl ((amid_run _ _ _).earlier (moves_lateCommit (hnone _) _)), ?_, ?_⟩
    · decide +kernel
    · decide +kernel
  have hends := receive_ends (World.sound_start _) hm hread h
  rw [hresult] at hends
  exact ⟨acts, result, w', h, hresult, hends, hinbox⟩

end Outbox
