import Mathlib.Data.List.Basic
import Outbox.Proofs.Blocked
import Outbox.Proofs.Deliveries
import Outbox.Proofs.Telling

/-!
# Sessions that are given up

A delivery tells that a session is given up before it writes the empty record that blocks the id.
When the delivery then ends well, the record is there, unless the session has committed in between:
then its batch has been dispatched. When it fails, there may be no record at all, and the session
can still commit.

* `obeys_deliver`              when a session is told as given up
* `System.given_up_truthful`   what has become of the session when the delivery has ended
-/

namespace Outbox

open Program

/-- The outcome that a call tells. -/
def Call.outcome? {β : Type} : Call β → Option Outcome
  | .observe o => some o
  | _ => none

/-- A session is told as given up only when the countdown of its message has run out. -/
def Message.TellsOf (m : Message) {β : Type} (c : Call β) : Prop :=
  ∀ o, c.outcome? = some o → o.kind = .gaveUp →
    ∃ c, tracked m = some c ∧ c.isExhausted = true ∧ o = c.outcome .gaveUp

/-! ### What deliveries tell -/

/-- Only the call that observes tells an outcome. -/
theorem Call.outcome?_eq_none {β : Type} {c : Call β} (h : c.kind ≠ .observe) :
    c.outcome? = none := by
  cases c with
  | observe o => exact absurd rfl h
  | _ => rfl

/-- What a delivery may tell and how it may end is permitted by its message. -/
theorem Message.permits_tellsOf (m : Message) : m.Permits m.TellsOf where
  silent c hc o ho := nomatch (Call.outcome?_eq_none hc).symm.trans ho
  telling c kind hc hgave o ho hkind := by
    obtain rfl := Option.some.inj ho
    obtain rfl : kind = .gaveUp := hkind
    exact ⟨c, hc, hgave rfl, rfl⟩

/-- All of a delivery obeys the rules for what it tells and how it ends. -/
theorem obeys_deliver (k : Consumer) (m : Message) :
    (k.deliver m).Obeys m.TellsOf m.EndsOf := m.permits_tellsOf.obeys_deliver k

/-! ### What has become of the session -/

/-- The outcome that a delivery is about to tell, with its message. -/
def Task.telling? : Task → Option (Message × Outcome)
  | delivery _ m (.call c _) => c.outcome?.map (m, ·)
  | _ => none

/-- The message and the result of a delivery that has ended. -/
def Task.ended? : Task → Option (Message × Except DeliveryError Disposition)
  | delivery _ m (.done result) => some (m, result)
  | _ => none

/-- A task that is about to tell is a delivery that observes. -/
theorem Task.telling?_eq_some {t : Task} {m : Message} {o : Outcome}
    (h : t.telling? = some (m, o)) : ∃ k next, t = .delivery k m (.call (.observe o) next) := by
  -- neither a session nor a delivery that is over is about to tell anything
  cases t with
  -- of the calls of a delivery only an observation has an outcome
  | delivery k m' rest =>
    cases rest with
    | done result => exact nomatch h
    | call c next =>
      obtain ⟨o', ho', heq⟩ := Option.map_eq_some_iff.1 h
      obtain ⟨rfl, rfl⟩ := Prod.mk.inj heq
      cases c with
      | observe outcome =>
        obtain rfl := Option.some.inj ho'
        exact ⟨k, next, rfl⟩
      | _ => exact nomatch ho'
  | idle staged n session => exact nomatch h
  | busy staged n session what rest => exact nomatch h
  | gone => exact nomatch h

/-- A task that has ended is a delivery without a call left. -/
theorem Task.ended?_eq_some {t : Task} {m : Message} {result : Except DeliveryError Disposition}
    (h : t.ended? = some (m, result)) : ∃ k, t = .delivery k m (.done result) := by
  -- sessions do not end in this sense, and a delivery does when nothing is left of it
  cases t with
  | delivery k m' rest =>
    cases rest with
    | done result' =>
      obtain ⟨rfl, rfl⟩ := Prod.mk.inj (Option.some.inj h)
      exact ⟨k, rfl⟩
    | call c next => exact nomatch h
  | idle staged n session => exact nomatch h
  | busy staged n session what rest => exact nomatch h
  | gone => exact nomatch h

/-- A message is tracked under its own id. -/
theorem sessionId_of_tracked {m : Message} {c : Countdown} (h : tracked m = some c) :
    c.sessionId = m.id := by
  unfold tracked at h
  split at h
  · next countdown hread =>
    subst h
    exact (Countdown.of_read hread).sessionId
  · exact nomatch h

/-- A record without operations is the empty one. -/
theorem Record.eq_tombstone_of_batch {r : Record} (h : r.batch = []) : r = .tombstone r.id := by
  obtain ⟨id, operations⟩ := r
  obtain rfl : operations = [] := List.map_eq_nil_iff.1 h
  rfl

namespace System

variable {s s' : System} {who : Nat}

/-- A delivery goes on with its message. -/
theorem Reaches.message? {admissible : System → Event → Prop} (h : Reaches admissible s s')
    {i : Nat} {t : Task} (ht : s.tasks[i]? = some t) :
    ∃ t' : Task, s'.tasks[i]? = some t' ∧ t'.message? = t.message? := by
  induction h with
  | start => exact ⟨t, ht, rfl⟩
  | @next u e _ _ ih =>
    obtain ⟨t₁, ht₁, h₁⟩ := ih
    obtain ⟨t₂, ht₂, h₂⟩ := u.message?_step e i t₁ ht₁
    exact ⟨t₂, ht₂, h₂.trans h₁⟩

/-- Under the id of a session that was given up there is a dispatched record: the empty one, or that
of a commit that has come first. -/
structure Concluded (store id : String) (s : System) (r : Record) : Prop where
  record : s.world.record? store id = some r
  isDispatched : r.isDispatched = true
  origin : r = .tombstone id ∨ r.batch ≠ [] ∧ ∃ who n changes r₀,
    .committed who n changes ∈ s.log ∧ .record r₀ ∈ changes ∧ r₀.id = id ∧ r₀.batch = r.batch

/-- A settled record is one that a session has committed and that was dispatched, or an empty
one. -/
theorem Fresh.concluded {store id : String} {s₀ : System} (hfresh : s₀.Fresh)
    (h : Reaches (OnStore store) s₀ s) (hsettled : Settled store id s.world) :
    ∃ r, Concluded store id s r := by
  obtain ⟨G, hinv, -, hrecorded⟩ :=
    hfresh.reaches (T := .sharing store) trivial (h.mono fun _ _ => OnStore.fits)
  obtain ⟨r, hr, hdispatched⟩ := hsettled
  refine ⟨r, hr, hdispatched, ?_⟩
  by_cases hbatch : r.batch = []
  · obtain rfl : r.id = id := hinv.shared.id_eq id r hr
    exact .inl (Record.eq_tombstone_of_batch hbatch)
  · exact .inr ⟨hbatch, hrecorded.exists_committed hr⟩

/-- A delivery of a control message tells that a session is given up. When it has ended, it has
failed, or there is a dispatched record under the id of the session: the empty one, or that of a
commit that has come first. And if it is the empty one, then the id is blocked for good. -/
theorem given_up_truthful {store : String} {s₀ : System} {m m' : Message} {o : Outcome}
    {cancelled : Bool} {result : Except DeliveryError Disposition} (hfresh : s₀.Fresh)
    (h : Reaches (OnStore store) s₀ s) (hcontrol : m.isControl = true)
    (htells : s.tasks[who]?.bind Task.telling? = some (m, o)) (hgave : o.kind = .gaveUp)
    (hlater : Reaches (OnStore store) (s.step (.call who cancelled)) s')
    (hended : s'.tasks[who]?.bind Task.ended? = some (m', result)) :
    m' = m ∧ o.sessionId = m.id ∧
    (s.step (.call who cancelled)).world.outcomes = s.world.outcomes ++ [o] ∧
    ((∃ e, result = .error e) ∨ result = .ok .completed ∧ ∃ r, Concluded store m.id s' r) ∧
    (s'.world.record? store m.id = some (.tombstone m.id) →
      ∀ s'', Reaches (OnStore store) s' s'' → BlockedSince store m.id s' s'') := by
  -- read off both moments: a delivery that is about to tell, and one that has ended
  obtain ⟨t, ht, htelling⟩ := Option.bind_eq_some_iff.1 htells
  obtain ⟨k, next, rfl⟩ := Task.telling?_eq_some htelling
  obtain ⟨t', ht', hend⟩ := Option.bind_eq_some_iff.1 hended
  obtain ⟨k', rfl⟩ := Task.ended?_eq_some hend
  have hstep : Reaches (OnStore store) s (s.step (.call who cancelled)) := .next .start trivial
  have hreaches : Reaches (OnStore store) s₀ s' := h.trans (hstep.trans hlater)
  -- it is the same delivery still
  obtain ⟨t₁, ht₁, hmessage⟩ := (hstep.trans hlater).message? ht
  obtain rfl := Option.some.inj (ht'.symm.trans ht₁)
  obtain ⟨rfl, rfl⟩ := Prod.mk.inj (Option.some.inj hmessage)
  obtain ⟨htold, -⟩ := hfresh.obeys_delivery obeys_deliver h ht
  obtain ⟨c, hc, hexhausted, rfl⟩ := htold o rfl hgave
  -- it was told for an exhausted countdown, so the delivery does not end with a successor
  have hends : m'.EndsOf result := hfresh.obeys_delivery obeys_deliver hreaches ht'
  have hleaves := hfresh.leavesBehind_delivery (T := .sharing store) trivial
    (hreaches.mono fun _ _ => OnStore.fits) ht'
  refine ⟨rfl, sessionId_of_tracked hc, ?_, ?_, fun hr s'' h'' =>
    hfresh.blocked hreaches hr h''⟩
  · have hturn : s.tasks[who]?.bind (Task.turn? who) = some _ :=
      Option.bind_eq_some_iff.2 ⟨_, ht, rfl⟩
    rw [System.step, call_of_turn hturn]
    rfl
  -- how the delivery ends: with an error, or with a record under the id
  · cases result with
    | error e => exact .inl ⟨e, rfl⟩
    | ok disposition =>
      cases disposition with
      -- a delivery with an exhausted countdown schedules nothing
      | retryScheduled => exact absurd hexhausted (Bool.eq_false_iff.1 (hends rfl c hc))
      | completed =>
        obtain ⟨g, hcompleted, -⟩ := hleaves
        have hsettled := hcompleted rfl hcontrol (by rw [hc]; rfl)
        exact .inr ⟨rfl, hfresh.concluded hreaches hsettled⟩

/-- A control message whose countdown has run out. -/
def outOfBudget : Message where
  id := "session"
  headers := .ofList [("control-message", "true"), ("message-id", "session"),
    ("transactional-session.remaining-commit-duration", "-PT1S"),
    ("transactional-session.commit-delay-increment", "PT2S"),
    ("transactional-session.attempt", "4"), ("time-sent", "2024-05-01T12:00:00.000000Z")]

/-- A receiver is handed it and is about to tell that the session is given up. -/
def aboutToTell : List Event :=
  .hand { store := "db", address := "processor" } outOfBudget :: List.replicate 2 (.call 0 false)

/-- It goes on to the end. -/
def goesOn : List Event := List.replicate 4 (.call 0 false)

/-- A message without budget is given up: its session is blocked, and stays so whatever follows. -/
theorem given_up_truthful_outOfBudget :
    let s := untouched.run aboutToTell
    let s' := (s.step (.call 0 false)).run goesOn
    s.tasks[0]?.bind Task.telling? = some (outOfBudget, ⟨.gaveUp, "session", 4⟩) ∧
    s'.tasks[0]?.bind Task.ended? = some (outOfBudget, .ok .completed) ∧
    s'.world.outcomes.map (·.kind) = [.gaveUp, .completed] ∧
    s'.world.record? "db" "session" = some (.tombstone "session") ∧
    (∃ r, Concluded "db" "session" s' r) ∧
    ∀ s'', Reaches (OnStore "db") s' s'' → BlockedSince "db" "session" s' s'' := by
  -- both parts of the run are on the one store
  -- nothing but the one worker and its store takes part
  have hreaches : Reaches (OnStore "db") untouched (untouched.run aboutToTell) := by
    refine reaches_run (P := fun _ => True) _ (fun _ _ e he => ?_) fun _ _ => trivial
    obtain rfl | hcall := List.mem_cons.1 he
    · rfl
    · obtain ⟨-, rfl⟩ := List.mem_replicate.1 hcall
      trivial
  have hlater : ∀ t, Reaches (OnStore "db") t (t.run goesOn) := fun t => by
    refine reaches_run (P := fun _ => True) _ (fun _ _ e he => ?_) fun _ _ => trivial
    obtain ⟨-, rfl⟩ := List.mem_replicate.1 he
    trivial
  -- before the call it is about to tell, and after the rest of the run it has ended
  have htells : (untouched.run aboutToTell).tasks[0]?.bind Task.telling? =
      some (outOfBudget, ⟨.gaveUp, "session", 4⟩) := by
    decide +kernel
  have hended : (((untouched.run aboutToTell).step (.call 0 false)).run goesOn).tasks[0]?.bind
      Task.ended? = some (outOfBudget, .ok .completed) := by
    decide +kernel
  have hrecord : (((untouched.run aboutToTell).step (.call 0 false)).run goesOn).world.record?
      "db" "session" = some (.tombstone "session") := by
    decide +kernel
  obtain ⟨-, -, -, hfailed | ⟨-, hconcluded⟩, hblocked⟩ := given_up_truthful fresh_untouched
    hreaches (by decide +kernel) htells rfl (hlater _) hended
  -- nothing fails in this world
  · obtain ⟨e, he⟩ := hfailed
    exact nomatch he
  · exact ⟨htells, hended, by decide +kernel, hrecord, hconcluded, hblocked hrecord⟩

/-- The store is going to fail when the empty record is added. -/
def diskFull : List Event :=
  .disturb (.failStore "db" .store "disk full") :: aboutToTell ++ List.replicate 3 (.call 0 false)

/-- Then the session opens late, sends a message and commits. -/
def lateCommit : List Event :=
  [.create "db" {} "processor", .request 1 (.openWith { sessionId := some "session" })] ++
    List.replicate 3 (.call 1 false) ++
    [.request 1 (.send { messageType := "greeting" } { destination := some "inbox" })] ++
    List.replicate 3 (.call 1 false) ++ [.request 1 .commit] ++ List.replicate 7 (.call 1 false)

/-- A session is told as given up, and there is no empty record when the delivery has ended: the
session still commits. -/
theorem given_up_untrue_diskFull :
    let s := untouched.run diskFull
    s.world.outcomes = [⟨.gaveUp, "session", 4⟩] ∧
    s.tasks[0]?.bind Task.ended? =
      some (outOfBudget, .error (.store (.backend "disk full"))) ∧
    s.world.record? "db" "session" = none ∧
    ((s.run lateCommit).world.record? "db" "session").map (·.undispatched.length) = some 1 := by
  decide +kernel

end System

end Outbox
