import Outbox.Proofs.Commits

/-!
# What is dispatched has been committed

A delivery hands over a successor of its message, the copy of a message that has failed, or
operations of a record whose commit had succeeded before; a session hands over its own control
message. What a record has marked was accepted by the transport.

* `System.dispatches_sound`  all of this, for every interleaving
-/

namespace Outbox

/-- What a delivery of a message may hand over when the log reads `before`. -/
inductive HandedOver (k : Consumer) (m : Message) (before : List Entry) : List Shipment → Prop
  /-- The successor of its message. -/
  | successor (c : Countdown) (now : Time.Instant) : tracked m = some c →
      HandedOver k m before [c.successor m k.setup.address now]
  /-- The copy of its message for the error queue. -/
  | copy (worker : Worker) (e : DeliveryError) : k = .worker worker →
      HandedOver k m before [worker.forwarded m e]
  /-- Operations of a record under the id of its message that has been committed before. -/
  | batch (who n : Nat) (changes : List Change) (r : Record) (ops : Batch) :
      m.isControl = true → .committed who n changes ∈ before → .record r ∈ changes →
      r.id = m.id → ops.Sublist r.batch → HandedOver k m before (ops.map (·.toShipment))

/-- The consumer and the message of a delivery. -/
def Task.message? : Task → Option (Consumer × Message)
  | delivery k m _ => some (k, m)
  | idle _ _ _ | busy _ _ _ _ _ | gone => none

/-- What a task may hand over: a session nothing but a control message of its own making. -/
def Task.MayHaveHandedOver (before : List Entry) (ops : List Shipment) (t : Task) : Prop :=
  match t.message? with
  | some (k, m) => HandedOver k m before ops
  | none => ∃ (session : Session.Outboxed) (o : Session.Opened) (now : Time.Instant),
      ops = [session.announcement o now]

/-- Entries that come later leave the origin of a hand-over as it is. -/
theorem HandedOver.mono {k : Consumer} {m : Message} {before after : List Entry}
    {ops : List Shipment} (h : HandedOver k m before ops) :
    HandedOver k m (before ++ after) ops := by
  cases h with
  | successor c now hc => exact .successor c now hc
  | copy worker e hk => exact .copy worker e hk
  | batch who n changes r ops hm hmem hr hid hops =>
    exact .batch who n changes r ops hm (List.mem_append_left _ hmem) hr hid hops

/-- And so they do for all that a task may have handed over. -/
theorem Task.MayHaveHandedOver.mono {before after : List Entry} {ops : List Shipment} {t : Task}
    (h : t.MayHaveHandedOver before ops) : t.MayHaveHandedOver (before ++ after) ops := by
  unfold MayHaveHandedOver at h ⊢
  -- only a delivery can have handed anything over
  split
  · next k m hm =>
    simp only [hm] at h
    exact h.mono
  · next hm =>
    simp only [hm] at h
    exact h

/-- What may have been handed over depends on a task by its message only. -/
theorem Task.MayHaveHandedOver.of_message? {before : List Entry} {ops : List Shipment} {t t' : Task}
    (h : t.MayHaveHandedOver before ops) (ht : t'.message? = t.message?) :
    t'.MayHaveHandedOver before ops := by
  unfold MayHaveHandedOver at h ⊢
  rw [ht]
  exact h

/-- A request that goes on or ends stays a request. -/
theorem Task.message?_ofRequest (staged : List Change) (n : Nat) (session : Session)
    (what : Session.Request) (rest : Program (Option Session × Except CallError Unit)) :
    (ofRequest staged n session what rest).message? = none := by
  cases rest with
  | done result =>
    obtain ⟨session', result⟩ := result
    cases session' <;> rfl
  | call c next => rfl

/-- A delivery stays a delivery of its message. -/
theorem Task.message?_resume {who : Nat} {t : Task} {turn : Turn} (h : t.turn? who = some turn)
    (reply : turn.β) : (turn.resume reply).1.message? = t.message? := by
  cases hasTurn_of_turn? h with
  | busy staged n session what c next => exact message?_ofRequest ..
  | delivery k m c next => rfl

section

variable {T : Terms} {role : Role} {g : Standing} {β : Type} {c : Call β} {w : World}

/-- The operations that the log tells of after a lawful call are such that may be handed over. -/
theorem mayHandOver_of_mem_note {who n who' : Nat} {contribution : List Change} {reply : β}
    {ops : List Shipment} {result : Except DispatchError Unit} (h : Lawful T role g c w)
    (hmem : .handedOver who' ops result ∈ Task.note who n contribution c reply) :
    who' = who ∧ role.MayHandOver T ops w := by
  -- of all calls a dispatch is the one that notes a hand-over
  induction c with
  | dispatch ops' =>
    obtain ⟨rfl, rfl, -⟩ := Entry.handedOver.inj (List.mem_singleton.1 hmem)
    exact ⟨rfl, h⟩
  | commit tx =>
    cases reply with
    | ok _ => exact nomatch List.mem_singleton.1 hmem
    | error e => exact absurd hmem List.not_mem_nil
  | unlessCancelled c ih =>
    cases reply with
    | none => exact absurd hmem List.not_mem_nil
    | some reply => exact ih h hmem
  | _ => exact absurd hmem List.not_mem_nil

end

/-- A property of the entries of a log in the light of those before them. -/
def EachAfter (P : List Entry → Entry → Prop) (log : List Entry) : Prop :=
  ∀ before entry after, log = before ++ entry :: after → P before entry

/-- What holds of each entry holds of new entries as well, when it holds of them after the old
ones. -/
theorem EachAfter.append {P : List Entry → Entry → Prop} {log entries : List Entry}
    (h : EachAfter P log) (hmono : ∀ a b entry, P a entry → P (a ++ b) entry)
    (hnew : ∀ entry ∈ entries, P log entry) : EachAfter P (log ++ entries) := by
  -- the entry is a new one, or one of the old ones
  intro before entry after heq
  -- the new entry stands behind the old log, or inside of it
  rcases List.append_eq_append_iff.1 heq with ⟨middle, rfl, hentries⟩ | ⟨middle, rfl, hafter⟩
  · exact hmono _ _ _ (hnew entry (by simp [hentries]))
  · cases middle with
    | nil =>
      obtain rfl : entry :: after = entries := hafter
      simpa using hnew entry List.mem_cons_self
    | cons e rest =>
      obtain ⟨rfl, -⟩ := List.cons.inj hafter
      exact h before entry rest rfl

namespace System

variable {T : Terms} {G : Standings} {s : System}

/-- What the log says was handed over is what the task may have handed over at that moment. -/
def Accounted (s : System) (before : List Entry) (entry : Entry) : Prop :=
  ∀ who ops reply, entry = .handedOver who ops reply →
    ∃ t, s.tasks[who]? = some t ∧ t.MayHaveHandedOver before ops

/-- An entry that is accounted for stays so behind more entries. -/
theorem Accounted.mono {before after : List Entry} {entry : Entry}
    (h : s.Accounted before entry) : s.Accounted (before ++ after) entry := by
  intro who ops reply heq
  obtain ⟨t, ht, hops⟩ := h who ops reply heq
  exact ⟨t, ht, hops.mono⟩

/-- It stays so while the messages of the tasks stay what they are. -/
theorem Accounted.of_tasks {s' : System} {before : List Entry} {entry : Entry}
    (h : s.Accounted before entry)
    (htasks : ∀ (i : Nat) (t : Task), s.tasks[i]? = some t →
      ∃ t' : Task, s'.tasks[i]? = some t' ∧ t'.message? = t.message?) :
    s'.Accounted before entry := by
  intro who ops reply heq
  obtain ⟨t, ht, hops⟩ := h who ops reply heq
  obtain ⟨t', ht', hmessage⟩ := htasks who t ht
  exact ⟨t', ht', hops.of_message? hmessage⟩

/-- A task that moves keeps its message. -/
theorem Moves.message?_eq {who : Nat} {e : Event} {t t' : Task} (h : s.Moves who e t t') :
    t'.message? = t.message? := by
  cases h with
  | requested staged n session what => exact Task.message?_ofRequest ..
  | edited staged n session e change => rfl
  | called cancelled hturn => exact Task.message?_resume hturn _

/-- Participants do not change what they are. -/
theorem message?_step (s : System) (e : Event) (i : Nat) (t : Task) (ht : s.tasks[i]? = some t) :
    ∃ t' : Task, (s.step e).tasks[i]? = some t' ∧ t'.message? = t.message? := by
  obtain ⟨t', ht', rfl | hmoves⟩ := task_step ht e
  · exact ⟨t', ht', rfl⟩
  · exact ⟨t', ht', hmoves.message?_eq⟩

/-- A record in the store goes back to a commit that the log tells of. -/
theorem Recorded.exists_committed {store id : String} {r : Record} (h : Recorded store s)
    (hr : s.world.record? store id = some r) :
    ∃ who n changes r₀, .committed who n changes ∈ s.log ∧ .record r₀ ∈ changes ∧ r₀.id = id ∧
      r₀.batch = r.batch := by
  have hreplay := h.agrees.records id
  -- marks aside the record is that of the replayed log, and a commit has added it there
  rw [show (s.world.database.store store).record? id = some r from hr, Option.map_some] at hreplay
  obtain ⟨r₀, hr₀, hunmarked⟩ := Option.map_eq_some_iff.1 hreplay.symm
  obtain ⟨hmem, hid⟩ := mem_of_record?_replay hr₀
  obtain ⟨who, n, changes, hentry, hchange⟩ := mem_committedChanges.1 hmem
  have hbatch := congrArg Record.batch hunmarked
  simp only [Record.unmarked, Record.batch_new] at hbatch
  exact ⟨who, n, changes, r₀, hentry, hchange, hid, hbatch⟩

/-- What a role may hand over has its origin on the log. -/
theorem Recorded.mayHaveHandedOver {t : Task} {role : Role} {ops : List Shipment}
    (h : Recorded T.store s) (hrole : t.role? = some role) (hops : role.MayHandOver T ops s.world) :
    t.MayHaveHandedOver s.log ops := by
  cases t with
  -- a session hands its announcement over, and a delivery one of three things
  | busy staged n session what rest =>
    cases session with
    | outboxed session =>
      obtain rfl := Option.some.inj hrole
      obtain ⟨o, now, -, -, hops⟩ := hops
      exact ⟨session, o, now, hops⟩
    | direct session => exact nomatch hrole
  | delivery k m rest =>
    obtain rfl := Option.some.inj hrole
    rcases hops with ⟨c, now, hc, -, -, rfl⟩ | hforwards | ⟨hm, r, r', hr', hb, -, rfl⟩
    · exact .successor c now hc
    · cases k with
      | worker worker =>
        obtain ⟨e, rfl⟩ := hforwards
        exact .copy worker e rfl
      | receiver p => exact hforwards.elim
    · obtain ⟨who, n, changes, r₀, hentry, hchange, hid, hbatch⟩ := h.exists_committed hr'
      -- what is handed over was read from the record earlier, which had the same operations then
      refine .batch who n changes r₀ _ hm hentry hchange hid ?_
      rw [hbatch, hb.batch_eq]
      exact List.filter_sublist.map _
  | idle staged n session => exact nomatch hrole
  | gone => exact nomatch hrole

/-- Everything that the log says was handed over is accounted for. -/
def HandOversAccounted (s : System) : Prop := EachAfter s.Accounted s.log

/-- Every event keeps account of all that is handed over. -/
theorem HandOversAccounted.step {e : Event} (h : s.HandOversAccounted) (hinv : Inv T G s)
    (hrecorded : Recorded T.store s) (hfits : Fits T s e) : (s.step e).HandOversAccounted := by
  have hold : EachAfter (s.step e).Accounted s.log :=
    fun before entry after hlog =>
      Accounted.of_tasks (h before entry after hlog) (message?_step s e)
  -- it is enough that the new entries are accounted for
  have hnew : ∀ entries, (s.step e).log = s.log ++ entries →
      (∀ entry ∈ entries, (s.step e).Accounted s.log entry) → (s.step e).HandOversAccounted := by
    intro entries hlog hentries
    unfold HandOversAccounted
    rw [hlog]
    exact hold.append (fun _ _ _ hp => hp.mono) hentries
  have hsame : (s.step e).log = s.log → (s.step e).HandOversAccounted :=
    fun hlog => hnew [] (by simp [hlog]) (by simp)
  cases e with
  | create store router address => exact hsame rfl
  | request who what =>
    -- a request that ends at once tells of its end, and of nothing that was handed over
    by_cases hidle : ∃ staged n session, s.tasks[who]? = some (.idle staged n session)
    · obtain ⟨staged, n, session, ht⟩ := hidle
      refine hnew _ (congrArg System.log (request_of_idle ht what)) fun entry hentry => ?_
      obtain ⟨result, -, rfl⟩ := mem_ending.1 hentry
      intro who' ops reply heq
      cases heq
    · refine hsame (congrArg System.log (request_of_not_idle (fun staged n session ht => ?_) what))
      exact hidle ⟨staged, n, session, ht⟩
  | edit who e => exact hsame (log_edit s who e)
  | take worker => exact hsame (log_take s worker)
  | hand p m => exact hsame rfl
  | call who cancelled =>
    cases hturn : s.tasks[who]?.bind (Task.turn? who) with
    | none => exact hsame (congrArg System.log (call_of_none hturn cancelled))
    | some turn =>
      obtain ⟨t, ht, hturn'⟩ := Option.bind_eq_some_iff.1 hturn
      obtain ⟨role, n, tail, hrole, hlawful, hlog, htail, -⟩ :=
        hinv.lawful cancelled ht hturn' hfits
      refine hnew _ (congrArg System.log (call_of_turn hturn cancelled)) fun entry hentry => ?_
      rw [hlog] at hentry
      rintro who' ops reply rfl
      -- the note of the call, or the end of the request
      rcases List.mem_append.1 hentry with hnote | hend
      · obtain ⟨rfl, hops⟩ := mayHandOver_of_mem_note hlawful hnote
        obtain ⟨t', ht', hmessage⟩ := message?_step s (.call who' cancelled) who' t ht
        exact ⟨t', ht', (hrecorded.mayHaveHandedOver hrole hops).of_message? hmessage⟩
      · obtain ⟨what, result, heq⟩ := htail _ _ hend
        cases heq
  | disturb d => exact hsame rfl

/-- In every state that is reached from a fresh system all that was handed over is accounted for. -/
theorem Fresh.accounted {store : String} {s₀ s : System} (hfresh : s₀.Fresh)
    (h : Reaches (OnStore store) s₀ s) : s.HandOversAccounted := by
  have hboth : s.HandOversAccounted ∧
      ∃ G, Inv (.sharing store) G s ∧ Requests G s ∧ Recorded store s := by
    -- an entry is accounted for by the log before it, so both are carried along
    refine h.invariant (I := fun s => s.HandOversAccounted ∧
      ∃ G, Inv (.sharing store) G s ∧ Requests G s ∧ Recorded store s) ?_ ?_
    · refine ⟨fun before entry after hlog => ?_, _, hfresh.inv trivial, hfresh.requests,
        hfresh.recorded store⟩
      simp [hfresh.log] at hlog
    · rintro s e ⟨hhanded, G, hinv, hrequests, hrecorded⟩ hadmissible
      have hfits : Fits (.sharing store) s e := hadmissible.fits
      exact ⟨hhanded.step hinv hrecorded hfits, _, hinv.step hfits, hrequests.step hinv hfits,
        hrecorded.step hinv hfits⟩
  exact hboth.1

/-- For every interleaving: what a record has marked was accepted by the transport; what a delivery
hands over, other than a successor or a copy of its message, are operations of a record that has
been committed before; a request has its record committed only if it is a commit that ends well;
and of all commits no two have the same id. -/
theorem dispatches_sound {store : String} {s₀ s : System} (hfresh : s₀.Fresh)
    (h : Reaches (OnStore store) s₀ s) :
    (∀ id r, s.world.record? store id = some r → ∀ op ∈ r.operations, op.dispatched = true →
      op.operation.toShipment ∈ s.world.transport.dispatched) ∧
    (∀ before who ops reply after, s.log = before ++ .handedOver who ops reply :: after →
      ∃ t, s.tasks[who]? = some t ∧ t.MayHaveHandedOver before ops) ∧
    (∀ who n what result, .returned who n what result ∈ s.log →
      ¬ (what = .commit ∧ result = .ok ()) → ∀ changes, .committed who n changes ∉ s.log) ∧
    (recordIds (committedChanges s.log)).Nodup := by
  have hhanded := hfresh.accounted h
  obtain ⟨G, hinv, hrequests, hrecorded⟩ :=
    hfresh.reaches (T := .sharing store) trivial (h.mono fun _ _ => OnStore.fits)
  refine ⟨hinv.shared.accepted, fun before who ops reply after hlog => ?_,
    fun who n what result hmem hno changes hcommitted => ?_, hrecorded.nodup⟩
  · exact hhanded before _ after hlog who ops reply rfl
  · exact hno ((hrequests.result who n what result hmem).1 ⟨changes, hcommitted⟩)

/-- A worker takes the control message of the session and dispatches its record. -/
def oneDelivery : List Event :=
  oneCommit ++ .take { receiver := { store := "db", address := "processor" } } ::
    List.replicate 4 (.call 1 false)

set_option maxRecDepth 10000 in
/-- The batch of a session is dispatched and its record is marked. -/
theorem dispatches_sound_oneDelivery :
    ((untouched.run oneDelivery).world.record? "db" "a").any (·.isDispatched) = true ∧
    (recordIds (committedChanges (untouched.run oneDelivery).log)).Nodup := by
  have hreaches : Reaches (OnStore "db") untouched (untouched.run oneDelivery) := by
    refine reaches_run (P := fun _ => True) oneDelivery (fun s _ e he => ?_) fun _ _ => trivial
    rcases List.mem_append.1 he with hcommit | hdelivery
    · exact onStore_oneCommit hcommit
    · rcases List.mem_cons.1 hdelivery with rfl | hcall
      · rfl
      · obtain ⟨-, rfl⟩ := List.mem_replicate.1 hcall
        trivial
  exact ⟨by decide +kernel, (dispatches_sound fresh_untouched hreaches).2.2.2⟩

end System

end Outbox
