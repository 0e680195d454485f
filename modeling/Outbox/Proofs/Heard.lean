import Outbox.Proofs.Announcing
import Outbox.Proofs.GivingUp

/-!
# What is heard of deliveries

The deliveries of the messages with an id, the outcomes that are told under an id and the messages
that participants send on their own, and what one event adds to them.

* `System.Fresh.prepared`      the sessions of all tasks are prepared
* `System.under_of_starts`     a delivery that starts comes after all others
* `System.heard_call`          what is told is told in calls
* `System.call_departures`     what leaves leaves in calls
* `System.Fresh.told_of_turn`  deliveries tell of the sessions of their messages only
-/

namespace Outbox

open Program

/-- Outcomes are told of the session of the message only. -/
def Message.KeepsTo (m : Message) {β : Type} (c : Call β) : Prop :=
  ∀ reply, ∀ o ∈ c.told reply, o.sessionId = m.id

/-- A delivery keeps to the session of its message in what it tells. -/
theorem Message.permits_keepsTo (m : Message) : m.Permits m.KeepsTo where
  silent c hc reply o ho := by
    rw [Call.told_eq_nil hc] at ho
    exact absurd ho List.not_mem_nil
  telling c kind hc _ reply o ho := by
    obtain rfl := List.mem_singleton.1 ho
    exact sessionId_of_tracked hc

/-! ### What holds of every task -/

/-- The session of a task is prepared, and so is what is left of a request. -/
def Task.Prepared : Task → Prop
  | idle _ _ session => session.Prepared
  | busy _ _ session _ rest => session.Prepared ∧
      rest.Obeys Call.Mute fun r => ∀ s, r.1 = some s → s.Prepared
  | delivery _ _ _ | gone => True

/-- What is left of a request that keeps silent is again a task that is prepared. -/
theorem Task.prepared_ofRequest {staged : List Change} {n : Nat} {session : Session}
    {what : Session.Request} {rest : Program (Option Session × Except CallError Unit)}
    (hsession : session.Prepared)
    (hrest : rest.Obeys Call.Mute fun r => ∀ s, r.1 = some s → s.Prepared) :
    (ofRequest staged n session what rest).Prepared := by
  cases rest with
  | call c next => exact ⟨hsession, hrest⟩
  | done result =>
    obtain ⟨left, result⟩ := result
    cases left with
    | none => trivial
    | some left => exact hrest left rfl

namespace System

variable {s s₀ : System} {admissible : System → Event → Prop}

/-- A task that has just begun is prepared. -/
theorem Begins.prepared {e : Event} {t : Task} (h : s.Begins e t) : t.Prepared := by
  cases h with
  | session store router address => exact ⟨_, rfl, fun o ho => nomatch ho⟩
  | taken htake => trivial
  | handed p m => trivial

/-- A task that moves stays prepared. -/
theorem Moves.prepared {who : Nat} {e : Event} {t t' : Task} (h : s.Moves who e t t')
    (ht : t.Prepared) : t'.Prepared := by
  -- only the reply to a call changes the program of a session that is prepared
  cases h with
  | requested staged n session what =>
    exact Task.prepared_ofRequest ht (Session.obeys_perform ht what)
  | edited staged n session e change => exact ht
  | called cancelled hturn =>
    cases Task.hasTurn_of_turn? hturn with
    | busy staged n session what c next => exact Task.prepared_ofRequest ht.1 (ht.2.2 _)
    | delivery k m c next => trivial

/-- By induction on the events: the sessions of all tasks are prepared. -/
theorem Fresh.prepared (hfresh : s₀.Fresh) (h : Reaches admissible s₀ s) {i : Nat} {t : Task}
    (ht : s.tasks[i]? = some t) : t.Prepared := by
  induction h generalizing t with
  | start => simp [hfresh.tasks] at ht
  | next _ _ ih =>
    obtain ⟨hold, -⟩ | ⟨-, hbegins⟩ | ⟨t₀, ht₀, hmoves⟩ := task_of_step ht
    · exact ih hold
    · exact hbegins.prepared
    · exact hmoves.prepared (ih ht₀)

/-! ### What a step adds -/

/-- The delivery that an event starts. -/
def starts? (s : System) : Event → Option (Consumer × Message)
  | .take w => (s.world.transport.take? w.receiver.address s.world.clock.elapsed).map
      fun (m, _) => (.worker w, m)
  | .hand p m => some (.receiver p, m)
  | _ => none

/-- A delivery that starts is a new task, and nothing is told or logged. -/
theorem step_of_starts {e : Event} {k : Consumer} {m : Message}
    (h : s.starts? e = some (k, m)) :
    (s.step e).tasks = s.tasks ++ [.delivery k m (k.deliver m)] ∧ (s.step e).log = s.log ∧
      (s.step e).world.outcomes = s.world.outcomes := by
  -- a worker takes the message, or a receiver is handed it
  cases e with
  | take w =>
    obtain ⟨⟨m', transport⟩, htake, heq⟩ := Option.map_eq_some_iff.1 h
    obtain ⟨rfl, rfl⟩ := Prod.mk.inj heq
    rw [step, take_of_some htake]
    exact ⟨rfl, rfl, rfl⟩
  | hand p m' =>
    obtain ⟨rfl, rfl⟩ := Prod.mk.inj (Option.some.inj h)
    exact ⟨rfl, rfl, rfl⟩
  | _ => cases h

/-- Other events start no delivery. -/
theorem message?_of_not_starts {e : Event} (h : s.starts? e = none) (j : Nat) :
    (s.step e).tasks[j]?.bind Task.message? = s.tasks[j]?.bind Task.message? := by
  -- a delivery is where it was, or there is none at that place
  cases hj : (s.step e).tasks[j]? with
  | none =>
    have hnone : s.tasks[j]? = none := by
      by_contra hsome
      -- a task that is there now is there afterwards
      obtain ⟨t, ht⟩ := Option.ne_none_iff_exists'.1 hsome
      obtain ⟨t', ht', -⟩ := task_step ht e
      exact absurd (hj.symm.trans ht') nofun
    rw [hnone]
  | some t =>
    obtain ⟨hold, -⟩ | ⟨rfl, hbegins⟩ | ⟨t₀, ht₀, hmoves⟩ := task_of_step hj
    · rw [hold]
    · -- what has begun is a session
      rw [List.getElem?_eq_none (Nat.le_refl _)]
      cases hbegins with
      | session store router address => rfl
      | taken htake => simp [starts?, htake] at h
      | handed p m => cases h
    · rw [ht₀]
      exact hmoves.message?_eq

/-- The deliveries of messages with an id, in the order in which they began. -/
def under (s : System) (id : String) : List Nat :=
  (List.range s.tasks.length).filter fun j => (s.tasks[j]?.bind Task.message?).any (·.2.id == id)

/-- The outcomes that were told under an id. -/
def heard (s : System) (id : String) : List Outcome :=
  s.world.outcomes.filter (·.sessionId == id)

/-- What an entry tells of messages of a participant that have left on their own. -/
def departed (who : Nat) : Entry → List Message
  | .handedOver who' ops reply =>
    match reply with
    | .ok () => if who' = who then (ops.filter (·.isolated)).map (·.message) else []
    | .error _ => []
  | .committed _ _ _ | .returned _ _ _ _ => []

/-- The messages of a participant that have left on their own. -/
def departures (s : System) (who : Nat) : List Message := s.log.flatMap (departed who)

/-- A message has departed when an operation with it, isolated from others, was accepted. -/
theorem mem_departures {who : Nat} {m : Message} : m ∈ s.departures who ↔
    ∃ ops, .handedOver who ops (.ok ()) ∈ s.log ∧
      ∃ op ∈ ops, op.isolated = true ∧ op.message = m := by
  unfold departures
  rw [List.mem_flatMap]
  -- on the log, entry by entry
  constructor
  -- the entry is an accepted hand-over by the participant, or it counts for nothing
  · rintro ⟨entry, hentry, hm⟩
    unfold departed at hm
    split at hm
    · next who' ops reply =>
      split at hm
      · split at hm
        · next heq =>
          subst heq
          obtain ⟨op, hop, rfl⟩ := List.mem_map.1 hm
          obtain ⟨hmem, hisolated⟩ := List.mem_filter.1 hop
          exact ⟨ops, hentry, op, hmem, hisolated, rfl⟩
        · exact absurd hm List.not_mem_nil
      · exact absurd hm List.not_mem_nil
    all_goals exact absurd hm List.not_mem_nil
  · rintro ⟨ops, hentry, op, hop, hisolated, rfl⟩
    refine ⟨_, hentry, ?_⟩
    rw [departed, if_pos rfl]
    exact List.mem_map_of_mem (List.mem_filter.2 ⟨hop, hisolated⟩)

/-- The log notes of a call what leaves with it. -/
theorem departed_note (who j n : Nat) (contribution : List Change) {β : Type} (c : Call β)
    (reply : β) : (Task.note who n contribution c reply).flatMap (departed j) =
      if who = j then c.sent reply else [] := by
  -- a dispatch that is accepted notes what leaves, if it is that participant who makes it
  induction c with
  | dispatch ops =>
    cases reply with
    | error e => exact (ite_self _).symm
    | ok _ => exact List.append_nil _
  -- the note of a commit is no hand-over
  | commit tx => cases reply <;> exact (ite_self _).symm
  | unlessCancelled c ih =>
    cases reply with
    | none => exact (ite_self _).symm
    | some reply => exact ih reply
  | _ => exact (ite_self _).symm

/-- The end of a request hands nothing over. -/
theorem departed_ending (who j n : Nat) (what : Session.Request)
    (rest : Program (Option Session × Except CallError Unit)) :
    (Task.ending who n what rest).flatMap (departed j) = [] := by
  cases rest <;> rfl

/-- What departs with a call is what the call sends, when the participant makes it. -/
theorem departed_resume {who : Nat} {t : Task} {turn : Turn} (h : t.turn? who = some turn)
    (j : Nat) (reply : turn.β) : (turn.resume reply).2.flatMap (departed j) =
      if who = j then turn.call.sent reply else [] := by
  cases Task.hasTurn_of_turn? h with
  | busy staged n session what c next =>
    dsimp only
    rw [List.flatMap_append, departed_note, departed_ending, List.append_nil]
  | delivery k m c next => exact departed_note ..

/-- What a call tells is heard in the world. -/
theorem outcomes_answer (cancelled : Bool) {β : Type} (c : Call β) (w : World) :
    (World.answer cancelled c w).2.outcomes =
      w.outcomes ++ c.told (World.answer cancelled c w).1 := by
  -- of all calls one tells something
  induction c generalizing w with
  | observe o => rfl
  | unlessCancelled c ih =>
    unfold World.answer
    split
    · exact (List.append_nil _).symm
    · exact ih w
  | getRecord store id =>
    simp only [World.answer, World.getRecord]
    repeat' split
    all_goals exact (List.append_nil _).symm
  | setDispatched store id =>
    simp only [World.answer, World.setDispatched]
    split <;> exact (List.append_nil _).symm
  | _ => exact (List.append_nil _).symm

section

variable {id : String} {j who : Nat} {e : Event} {k : Consumer} {m : Message}
  {rest : Program (Except DeliveryError Disposition)}

/-- A delivery is under an id when its message has this id. -/
theorem mem_under : j ∈ s.under id ↔
    ∃ k m rest, s.tasks[j]? = some (.delivery k m rest) ∧ m.id = id := by
  unfold under
  rw [List.mem_filter, List.mem_range, Option.any_eq_true]
  constructor
  -- the index is below the number of tasks since there is a task
  · rintro ⟨-, ⟨k, m⟩, hmessage, hid⟩
    obtain ⟨t, ht, hm⟩ := Option.bind_eq_some_iff.1 hmessage
    -- only a delivery has a message
    cases t with
    | delivery k' m' rest =>
      obtain ⟨rfl, rfl⟩ := Prod.mk.inj (Option.some.inj hm)
      exact ⟨k', m', rest, ht, by simpa using hid⟩
    | idle staged n session => exact nomatch hm
    | busy staged n session what rest => exact nomatch hm
    | gone => exact nomatch hm
  · rintro ⟨k, m, rest, ht, rfl⟩
    obtain ⟨hlt, -⟩ := List.getElem?_eq_some_iff.1 ht
    exact ⟨hlt, (k, m), by rw [ht]; rfl, beq_self_eq_true _⟩

/-- It does not matter how many numbers beyond the tasks are looked at. -/
theorem filter_range_eq_under (s : System) (id : String) {n : Nat} (h : s.tasks.length ≤ n) :
    (List.range n).filter (fun j => (s.tasks[j]?.bind Task.message?).any (·.2.id == id)) =
      s.under id := by
  obtain ⟨d, rfl⟩ := Nat.exists_eq_add_of_le h
  rw [List.range_add, List.filter_append]
  refine (congrArg (s.under id ++ ·) (List.filter_eq_nil_iff.2 fun j hj => ?_)).trans
    (List.append_nil _)
  obtain ⟨a, -, rfl⟩ := List.mem_map.1 hj
  rw [List.getElem?_eq_none (Nat.le_add_right ..)]
  exact Bool.false_ne_true

/-- An event that starts no delivery adds none under an id. -/
theorem under_of_not_starts (h : s.starts? e = none) : (s.step e).under id = s.under id := by
  have hn := s.filter_range_eq_under id (Nat.le_max_left s.tasks.length (s.step e).tasks.length)
  have hn' := (s.step e).filter_range_eq_under id
    (Nat.le_max_right s.tasks.length (s.step e).tasks.length)
  simp only [message?_of_not_starts h] at hn'
  exact hn'.symm.trans hn

/-- An event that starts a delivery adds it under the id of its message. -/
theorem under_of_starts (h : s.starts? e = some (k, m)) :
    (s.step e).under id = s.under id ++ if m.id = id then [s.tasks.length] else [] := by
  obtain ⟨htasks, -, -⟩ := step_of_starts h
  unfold under
  rw [htasks, List.length_append, List.length_singleton, List.range_succ, List.filter_append]
  congr 1
  -- the earlier tasks stay where they are
  · refine List.filter_congr fun j hj => ?_
    rw [getElem?_tasks_append _ (Nat.ne_of_lt (List.mem_range.1 hj))]
  · rw [List.filter_singleton, List.getElem?_concat_length]
    simp [Task.message?, Bool.cond_eq_ite]

/-- A delivery stays where it is unless it makes a call itself. -/
theorem delivery_step (ht : s.tasks[j]? = some (.delivery k m rest))
    (he : ∀ cancelled, e = .call j cancelled → ∃ result, rest = .done result) :
    (s.step e).tasks[j]? = some (.delivery k m rest) := by
  obtain ⟨t', ht', rfl | hmoves⟩ := task_step ht e
  · exact ht'
  · -- nothing takes a delivery further but a call of its own
    cases hmoves with
    | called cancelled hturn =>
      obtain ⟨result, rfl⟩ := he cancelled rfl
      cases hturn

/-- What a participant calls is all that is told, and all that leaves of its own. -/
theorem call_departures {turn : Turn} {cancelled : Bool}
    (hturn : s.tasks[who]?.bind (Task.turn? who) = some turn) :
    (s.call who cancelled).departures j = s.departures j ++
      if who = j then turn.call.sent (World.answer cancelled turn.call s.world).1 else [] := by
  obtain ⟨t, ht, hturn'⟩ := Option.bind_eq_some_iff.1 hturn
  rw [call_of_turn hturn]
  unfold departures
  rw [List.flatMap_append, departed_resume hturn']

/-- Nothing of a participant leaves unless it makes a call itself. -/
theorem departures_step (he : ∀ cancelled, e ≠ .call j cancelled) :
    (s.step e).departures j = s.departures j := by
  have hlog : (s.step e).log = s.log → (s.step e).departures j = s.departures j :=
    fun hlog => congrArg (List.flatMap (departed j)) hlog
  -- the log grows by requests that end and by calls
  cases e with
  | create store router address => exact hlog rfl
  -- a request can end at once, and its end is no hand-over
  | request who what =>
    by_cases hidle : ∃ staged n session, s.tasks[who]? = some (.idle staged n session)
    · obtain ⟨staged, n, session, ht⟩ := hidle
      rw [step, request_of_idle ht]
      unfold departures
      rw [List.flatMap_append, departed_ending, List.append_nil]
    · refine hlog (congrArg System.log (request_of_not_idle (fun staged n session ht => ?_) what))
      exact hidle ⟨staged, n, session, ht⟩
  | edit who e => exact hlog (log_edit s who e)
  | take w => exact hlog (log_take s w)
  | hand p m => exact hlog rfl
  | call who cancelled =>
    cases hturn : s.tasks[who]?.bind (Task.turn? who) with
    | none => exact hlog (congrArg System.log (call_of_none hturn cancelled))
    | some turn =>
      -- the call is one of another participant
      have hne : who ≠ j := fun heq => he cancelled (heq ▸ rfl)
      rw [step, call_departures hturn, if_neg hne, List.append_nil]
  | disturb d => exact hlog rfl

/-- Nothing is told but in a call. -/
theorem outcomes_step (he : ∀ who cancelled, e ≠ .call who cancelled) :
    (s.step e).world.outcomes = s.world.outcomes := by
  -- everything but a call leaves the outcomes alone, one event after the other
  cases e with
  | create store router address => rfl
  | request who what =>
    simp only [step, System.request]
    split <;> rfl
  | edit who e =>
    obtain heq | ⟨_, _, _, _, _, _, _, _, heq⟩ := s.edit_cases who e <;> rw [step, heq]
  | take w =>
    simp only [step, System.take]
    split <;> rfl
  | hand p m => rfl
  | call who cancelled => exact absurd rfl (he who cancelled)
  | disturb d =>
    -- what is received from outside is taken from a queue, and nobody is told of it
    cases d with
    | receive queue =>
      simp only [step, World.disturb]
      split <;> rfl
    | _ => rfl

/-- What a call tells of the session is heard behind the rest. -/
theorem heard_call {turn : Turn} {cancelled : Bool}
    (hturn : s.tasks[who]?.bind (Task.turn? who) = some turn) :
    (s.call who cancelled).heard id = s.heard id ++
      (turn.call.told (World.answer cancelled turn.call s.world).1).filter
        (·.sessionId == id) := by
  rw [call_of_turn hturn]
  unfold heard
  rw [outcomes_answer, List.filter_append]

/-- All that is told is told by deliveries, of the sessions of their messages. -/
theorem Fresh.told_of_turn {t : Task} {turn : Turn} (hfresh : s₀.Fresh)
    (h : Reaches admissible s₀ s) (ht : s.tasks[who]? = some t) (hturn : t.turn? who = some turn)
    {reply : turn.β} {o : Outcome} (ho : o ∈ turn.call.told reply) :
    ∃ k m rest, t = .delivery k m rest ∧ o.sessionId = m.id := by
  -- sessions are mute, and a delivery keeps to its own session
  cases Task.hasTurn_of_turn? hturn with
  | busy staged n session what c next =>
    obtain ⟨-, hmute, -⟩ := hfresh.prepared h ht
    rw [Call.told_eq_nil hmute] at ho
    exact absurd ho List.not_mem_nil
  | delivery k m c next =>
    obtain ⟨hkeeps, -⟩ := hfresh.obeys_delivery
      (fun k m => m.permits_keepsTo.obeys_deliver k) h ht
    exact ⟨k, m, _, rfl, hkeeps reply o ho⟩

end

end System

end Outbox
