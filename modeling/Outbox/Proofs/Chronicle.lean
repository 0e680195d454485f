import Outbox.Proofs.Heard
import Outbox.Proofs.Retry.Numbered

/-!
# The outcomes of a session

The control message of a session is delivered, then its successor, then the successor of that, while
others are at work. As long as no call of these deliveries fails, other than with a conflict, the
outcomes that are told under the id of the session are one retry after the other, counted from one,
and at the end either the completion or that it was given up and then completed.

* `System.OnceEach`         when the events of a run are admissible
* `System.Chronicle.step`   how the history goes on with an event
* `System.outcome_history`  the history at every moment
-/

namespace Outbox

open Program Time

/-- The terms of participants that share a store and a clock. -/
def Terms.clocked (store : String) (least : Int) : Terms :=
  { sharing store with
    time := fun now => now.InWindow least
    sound_successor := fun _ h => False.elim h }

/-- The reading to which an event sets the clock. -/
def Event.reading? : Event → Option Instant
  | .disturb (.setClock clock) => some clock.now
  | _ => none

/-- The session that a task holds. -/
def Task.session? : Task → Option Session
  | idle _ _ session | busy _ _ session _ _ => some session
  | delivery _ _ _ | gone => none

/-- What a call answers is of use to the delivery that made it, when the clock can be read and the
call does not fail. -/
theorem Call.served_answer {least : Int} {w : World} {cancelled : Bool} {β : Type} {c : Call β}
    (hnow : w.clock.now.InWindow least)
    (hserved : c.failed (World.answer cancelled c w).1 = false) :
    c.Served least (World.answer cancelled c w).1 := by
  cases c with
  | now => exact hnow
  | _ => exact hserved

/-- A place in a list to which an element was added is an old place, or it is the last one. -/
theorem getElem?_concat_cases {α : Type} {l : List α} {a b : α} {n : Nat}
    (h : (l ++ [a])[n]? = some b) : l[n]? = some b ∨ n = l.length ∧ b = a := by
  obtain hlt | hle := Nat.lt_or_ge n l.length
  · rw [List.getElem?_append_left hlt] at h
    exact .inl h
  · rw [List.getElem?_append_right hle, List.getElem?_singleton] at h
    split at h
    · exact .inr ⟨by omega, (Option.some.inj h).symm⟩
    · exact nomatch h

namespace System

variable {s s₀ : System} {admissible : System → Event → Prop}

/-! ### One message after the other -/

/-- Whether the event is a call of a delivery under an id that fails. -/
def fails (s : System) (id : String) : Event → Bool
  | .call who cancelled =>
    match s.tasks[who]? with
    | some (.delivery _ m (.call c _)) =>
      m.id == id && c.failed (World.answer cancelled c s.world).1
    | _ => false
  | _ => false

/-- The message to be delivered next under an id: at first the control message of the session `i`,
and then the successor that the latest delivery has sent. That delivery has come to its end: all it
had left to do was to tell that it had sent it. -/
def awaited (s : System) (i : Nat) (id : String) : List Message :=
  match (s.under id).getLast? with
  | none => if (s.tasks[i]?.bind Task.message?).isNone then s.departures i else []
  | some j => if (s.tasks[j]?.bind Task.ended?).isSome then s.departures j else []

/-- An event of a run in which the control message of the session `i` and its successors are
delivered once each, and nothing else is delivered under the id; in which no call of these
deliveries fails, but with a conflict; in which the durations of the session are 64-bit numbers; and
in which the readings of the clock lie within 292 years of each other. Others may do what they
want. -/
structure OnceEach (store : String) (least : Int) (i : Nat) (id : String) (s : System)
    (e : Event) : Prop where
  onStore : OnStore store s e
  clock : ∀ now ∈ e.reading?, now.InWindow least
  fits64 : ∀ opening ∈ (s.tasks[i]?.bind Task.session?).bind Session.opening?, opening.Fits64
  served : s.fails id e = false
  awaited : ∀ start ∈ s.starts? e, start.2.id = id →
    start.1.setup.reports = true ∧ start.2 ∈ s.awaited i id

variable {store id : String} {least : Int} {i j who n : Nat} {e : Event} {G : Standings}

/-- Deliveries once each are within the terms of participants with a common store and clock. -/
theorem OnceEach.fits (h : OnceEach store least i id s e) : Fits (.clocked store least) s e := by
  have honStore := h.onStore
  -- reliability is not among these terms, so calls may fail
  cases e with
  | create name router address => exact ⟨honStore, trivial⟩
  | request who what => exact fun _ _ => trivial
  | edit who e => trivial
  | take worker => exact ⟨honStore, trivial⟩
  | hand p m => exact honStore
  | call who cancelled => exact fun hreliable => hreliable.elim
  | disturb d =>
    rintro clock rfl
    exact h.clock _ rfl

/-! ### The control message -/

/-- What leaves with a lawful call of a session is its control message. -/
theorem announcement_of_sent {T : Terms} {staged : List Change} {session : Session.Outboxed}
    {g : Standing} {β : Type} {c : Call β} {w : World} {reply : β} {m : Message}
    (h : Lawful T (.session staged session) g c w) (hm : m ∈ c.sent reply) :
    ∃ o now, session.opened = some o ∧ T.time now ∧ m = (session.announcement o now).message := by
  -- the induction is for a dispatch that the caller may have cancelled
  induction c with
  | dispatch ops =>
    obtain ⟨o, now, ho, hnow, rfl⟩ := h
    cases reply with
    | error e => exact absurd hm List.not_mem_nil
    | ok _ => exact ⟨o, now, ho, hnow, List.mem_singleton.1 hm⟩
  | unlessCancelled c ih =>
    cases reply with
    | none => exact absurd hm List.not_mem_nil
    | some reply => exact ih h hm
  | _ => exact absurd hm List.not_mem_nil

/-- All that a session has sent on its own is the first message to announce it. -/
def Announces (least : Int) (i : Nat) (s : System) : Prop :=
  (s.tasks[i]?.bind Task.message?).isNone →
    ∀ m ∈ s.departures i, ∃ c, Countdown.Numbered least 1 m c

/-- The first message to announce a session is the only one that it sends, whatever happens. -/
theorem Announces.step (h : s.Announces least i) (hfresh : s₀.Fresh)
    (hreaches : Reaches admissible s₀ s) (hinv : Inv (.clocked store least) G s)
    (he : OnceEach store least i id s e) : (s.step e).Announces least i := by
  intro hnone m hm
  -- a delivery would have stayed one
  have hbefore : (s.tasks[i]?.bind Task.message?).isNone := by
    cases ht : s.tasks[i]? with
    | none => rfl
    | some t =>
      obtain ⟨t', ht', hmessage⟩ := s.message?_step e i t ht
      rw [ht'] at hnone
      rw [Option.bind_some, ← hmessage]
      exact hnone
  by_cases hcall : ∃ cancelled, e = .call i cancelled
  · obtain ⟨cancelled, rfl⟩ := hcall
    cases hturn : s.tasks[i]?.bind (Task.turn? i) with
    | none =>
      -- without a turn it sends nothing
      rw [System.step, call_of_none hturn] at hm
      exact h hbefore m hm
    | some turn =>
      rw [System.step, call_departures hturn, if_pos rfl] at hm
      obtain hold | hsent := List.mem_append.1 hm
      · exact h hbefore m hold
      · -- the call is lawful, so what it sends is the announcement of what has been opened
        obtain ⟨t, ht, hturn'⟩ := Option.bind_eq_some_iff.1 hturn
        obtain ⟨role, _, _, hrole, hlawful, -⟩ := hinv.lawful cancelled ht hturn' he.fits
        have hprepared := hfresh.prepared hreaches ht
        cases Task.hasTurn_of_turn? hturn' with
        | busy staged n session what c next =>
          obtain ⟨⟨session, rfl, hsession⟩, -⟩ := hprepared
          obtain rfl := Option.some.inj hrole
          obtain ⟨o, now, ho, hnow, rfl⟩ := announcement_of_sent hlawful hsent
          refine ⟨_, .announcement (hsession o ho) (he.fits64 o.opening ?_) hnow⟩
          rw [Option.mem_def, ht]
          exact congrArg (Option.map (·.opening)) ho
        -- a delivery is no session, so the place was not one that announces
        | delivery k m' c next =>
          rw [ht] at hbefore
          cases hbefore
  · -- whatever others do, nothing more of this one leaves
    rw [departures_step fun cancelled heq => hcall ⟨cancelled, heq⟩] at hm
    exact h hbefore m hm

/-! ### The history so far -/

/-- So many retries, counted from one. -/
def retries (id : String) (n : Nat) : List Outcome :=
  (List.range n).map fun k => ⟨.retried, id, attemptNumber (k + 1)⟩

/-- One more retry is told after the others. -/
theorem retries_succ (id : String) (n : Nat) :
    retries id (n + 1) = retries id n ++ [⟨.retried, id, attemptNumber (n + 1)⟩] := by
  rw [retries, List.range_succ, List.map_append]
  rfl

/-- A delivery has ended with a successor on its way; its message was the `n`-th. -/
def Retried (s : System) (j n : Nat) : Prop :=
  ∃ k m, s.tasks[j]? = some (.delivery k m (.done (.ok .retryScheduled))) ∧ m.HasNumber n

/-- A delivery of the `n`-th message under an id has made some calls. -/
structure UnderWay (least : Int) (s : System) (id : String) (j n : Nat) (k : Consumer) (m : Message)
    (c : Countdown) (calls : List Exchange) (rest : Program (Except DeliveryError Disposition)) :
    Prop where
  task : s.tasks[j]? = some (.delivery k m rest)
  id_eq : m.id = id
  numbered : Countdown.Numbered least n m c
  reports : k.setup.reports = true
  leads : (k.deliver m).Leads (Call.Served least) calls rest
  departed : ∀ x ∈ s.departures j, x ∈ sent calls

/-- What has been told under an id: either nothing has been delivered yet, or all deliveries but the
latest have been retried. -/
inductive Chronicle (least : Int) (id : String) (s : System) : Prop
  | unheard : s.under id = [] → s.heard id = [] → Chronicle least id s
  | upTo (past : List Nat) (j : Nat) {k : Consumer} {m : Message} {c : Countdown}
      {calls : List Exchange} {rest : Program (Except DeliveryError Disposition)} :
      s.under id = past ++ [j] → s.heard id = retries id past.length ++ told calls →
      (∀ n i, past[n]? = some i → s.Retried i (n + 1)) →
      UnderWay least s id j (past.length + 1) k m c calls rest → Chronicle least id s

section

variable {k : Consumer} {m : Message} {c : Countdown} {calls : List Exchange}
  {rest : Program (Except DeliveryError Disposition)} {past : List Nat}

/-- What a delivery tells bears the id of the session and the number of the delivery. -/
theorem UnderWay.outcome_eq (h : UnderWay least s id j n k m c calls rest) (kind : OutcomeKind) :
    c.outcome kind = ⟨kind, id, attemptNumber n⟩ := by
  rw [Countdown.outcome, sessionId_of_tracked h.numbered.tracked_eq, h.id_eq, h.numbered.attempt]

/-- A delivery that has ended has gone one of the three ways. -/
theorem UnderWay.concludes {result : Except DeliveryError Disposition}
    (h : UnderWay least s id j n k m c calls (.done result)) :
    m.Concludes c k.setup.address least calls result := by
  have hruns := h.leads.runs (.done result)
  rw [List.append_nil] at hruns
  exact k.runs_deliver h.numbered.isControl h.numbered.tracked_eq h.reports hruns

/-- Another call goes the same way. -/
theorem UnderWay.told_so_far {now : Instant} {β : Type} {call : Call β}
    {next : β → Program (Except DeliveryError Disposition)} (hnow : now.InWindow least)
    (h : UnderWay least s id j n k m c calls (.call call next)) :
    told calls = [] ∨ c.isExhausted = true ∧ told calls = [⟨.gaveUp, id, attemptNumber n⟩] := by
  -- the calls so far belong to some run from start to end
  obtain ⟨later, result, hlater⟩ := exists_runs (Call.exists_served hnow)
    (Program.call call next)
  obtain ⟨reply, last, -, -, rfl⟩ := runs_call.1 hlater
  have hconcludes := k.runs_deliver h.numbered.isControl h.numbered.tracked_eq h.reports
    (h.leads.runs hlater)
  rw [← h.outcome_eq]
  exact hconcludes.told_so_far (List.cons_ne_nil _ _)

/-- No delivery under an id makes a call. -/
def Resting (s : System) (id : String) (e : Event) : Prop :=
  ∀ j k m rest cancelled, s.tasks[j]? = some (.delivery k m rest) → m.id = id →
    e = .call j cancelled → ∃ result, rest = .done result

/-- What does no call leaves what it has sent as it is. -/
theorem departures_of_done
    (ht : s.tasks[j]? = some (.delivery k m rest))
    (he : ∀ cancelled, e = .call j cancelled → ∃ result, rest = .done result) :
    (s.step e).departures j = s.departures j := by
  -- a call by somebody else sends nothing of it, and of its own there is none left
  by_cases hcall : ∃ cancelled, e = .call j cancelled
  · obtain ⟨cancelled, rfl⟩ := hcall
    obtain ⟨result, rfl⟩ := he cancelled rfl
    have hturn : s.tasks[j]?.bind (Task.turn? j) = none := by
      rw [ht]
      rfl
    rw [System.step, call_of_none hturn]
  · exact departures_step fun cancelled heq => hcall ⟨cancelled, heq⟩

/-- Nothing is told under an id while its deliveries rest. -/
theorem heard_of_resting (hfresh : s₀.Fresh) (hreaches : Reaches admissible s₀ s)
    (he : s.Resting id e) : (s.step e).heard id = s.heard id := by
  by_cases hcall : ∃ who cancelled, e = .call who cancelled
  · obtain ⟨who, cancelled, rfl⟩ := hcall
    -- a call tells something under the id only when a delivery under the id makes it
    cases hturn : s.tasks[who]?.bind (Task.turn? who) with
    | none => rw [System.step, call_of_none hturn]
    | some turn =>
      obtain ⟨t, ht, hturn'⟩ := Option.bind_eq_some_iff.1 hturn
      rw [System.step, heard_call hturn, List.filter_eq_nil_iff.2, List.append_nil]
      intro o ho hid
      obtain ⟨k, m, rest, rfl, hspeaks⟩ := hfresh.told_of_turn hreaches ht hturn' ho
      have hm : m.id = id := hspeaks.symm.trans (beq_iff_eq.1 hid)
      obtain ⟨result, rfl⟩ := he who k m rest cancelled ht hm rfl
      cases hturn'
  -- nobody makes a call, so nobody tells anything
  · have hother : ∀ who cancelled, e ≠ .call who cancelled :=
      fun who cancelled heq => hcall ⟨who, cancelled, heq⟩
    exact congrArg (List.filter _) (outcomes_step hother)

/-- A delivery that has sent a successor stays one that has. -/
theorem Retried.step (h : s.Retried j n) (e : Event) : (s.step e).Retried j n := by
  obtain ⟨k, m, ht, hnumber⟩ := h
  exact ⟨k, m, delivery_step ht fun _ _ => ⟨_, rfl⟩, hnumber⟩

/-- While the deliveries under the id rest, the history stays what it is. -/
theorem Chronicle.stay (h : Chronicle least id s) (hfresh : s₀.Fresh)
    (hreaches : Reaches admissible s₀ s) (hunder : (s.step e).under id = s.under id)
    (he : s.Resting id e) : Chronicle least id (s.step e) := by
  have hheard := heard_of_resting hfresh hreaches he
  cases h with
  -- there is nothing yet, or there is a latest delivery, and that one does nothing
  | unheard hnone hsilent => exact .unheard (hunder.trans hnone) (hheard.trans hsilent)
  | upTo past j hpast htold hretried hunderWay =>
    have hrest := fun cancelled => he j _ _ _ cancelled hunderWay.task hunderWay.id_eq
    refine .upTo past j (hunder.trans hpast) (hheard.trans htold)
      (fun n i hi => (hretried n i hi).step e) { hunderWay with
        task := delivery_step hunderWay.task hrest
        departed := fun x hx => hunderWay.departed x ?_ }
    rw [← departures_of_done hunderWay.task hrest]
    exact hx

/-- A delivery that begins under the id takes the next number. -/
theorem Chronicle.start (h : Chronicle least id s) (hannounces : s.Announces least i)
    (hrequests : Requests G s) (hstart : s.starts? e = some (k, m)) (hid : m.id = id)
    (hreports : k.setup.reports = true) (hawaited : m ∈ s.awaited i id) :
    Chronicle least id (s.step e) := by
  -- the new delivery is the last task and the last one under the id
  obtain ⟨htasks, hlog, houtcomes⟩ := step_of_starts hstart
  have hunder : (s.step e).under id = s.under id ++ [s.tasks.length] := by
    rw [under_of_starts hstart, if_pos hid]
  have hheard : (s.step e).heard id = s.heard id := congrArg (List.filter _) houtcomes
  -- what has just begun has sent nothing yet
  have hbegins : ∀ {n : Nat} {c : Countdown}, Countdown.Numbered least n m c →
      UnderWay least (s.step e) id s.tasks.length n k m c [] (k.deliver m) := by
    intro n c hc
    refine ⟨?_, hid, hc, hreports, .start, fun x hx => ?_⟩
    · rw [htasks, List.getElem?_concat_length]
    · obtain ⟨ops, hentry, -⟩ := mem_departures.1 hx
      rw [hlog] at hentry
      exact absurd (hrequests.who_lt _ hentry) (Nat.lt_irrefl _)
  unfold awaited at hawaited
  cases h with
  | unheard hnone hsilent =>
    rw [hnone] at hawaited hunder
    -- nothing has been delivered under the id, so this is the control message of the session
    obtain ⟨hsession, hm⟩ := List.mem_ite_nil_right.1 hawaited
    obtain ⟨c, hc⟩ := hannounces hsession m hm
    have htold : (s.step e).heard id = retries id 0 ++ told [] := hheard.trans hsilent
    exact .upTo [] _ hunder htold nofun (hbegins hc)
  | @upTo past j k' m' c calls rest' hpast htold hretried hunderWay =>
    rw [hpast, List.getLast?_concat] at hawaited
    obtain ⟨hended, hm⟩ := List.mem_ite_nil_right.1 hawaited
    rw [hunderWay.task] at hended
    -- the next message is only awaited when the latest delivery is over
    cases rest' with
    | call call next => exact nomatch hended
    | done result =>
      -- of the three ways in which it can have gone only the first leaves a message
      have hsent := hunderWay.departed m hm
      have hconcludes := hunderWay.concludes
      have houtcome := hunderWay.outcome_eq .retried
      cases hconcludes with
      | retried front now hnow hleft hnone hfront =>
        rw [sent_append, hfront] at hsent
        obtain rfl := List.mem_singleton.1 hsent
        have hlength : (past ++ [j]).length = past.length + 1 := List.length_append
        have hnext := hunderWay.numbered.next k'.setup.address hnow hleft
        rw [← hlength] at hnext
        refine .upTo (past ++ [j]) _ (by rw [hunder, hpast]) ?_ (fun n i hi => ?_) (hbegins hnext)
        · rw [hheard, htold, told_append, hnone, hlength, retries_succ, ← houtcome]
          exact (List.append_nil _).symm
        · obtain hold | ⟨rfl, rfl⟩ := getElem?_concat_cases hi
          · exact (hretried n i hold).step e
          · exact Retried.step ⟨k', m', hunderWay.task, hunderWay.numbered.header⟩ e
      | completed front hnone hfront =>
        rw [sent_append, hfront] at hsent
        exact absurd hsent List.not_mem_nil
      | gaveUp front hexhausted hgave hfront =>
        rw [sent_append, hfront] at hsent
        exact absurd hsent List.not_mem_nil

/-- A call of the latest delivery takes it further. -/
theorem UnderWay.call {cancelled : Bool} {β : Type} {call : Call β}
    {next : β → Program (Except DeliveryError Disposition)}
    (h : UnderWay least s id j n k m c calls (.call call next))
    (hshared : Shared (.clocked store least) s.world)
    (hserved : s.fails id (.call j cancelled) = false) :
    UnderWay least (s.call j cancelled) id j n k m c
      (calls ++ [⟨call, (World.answer cancelled call s.world).1⟩])
      (next (World.answer cancelled call s.world).1) := by
  -- the reply belongs to the calls that have been made
  obtain ⟨hlt, -⟩ := List.getElem?_eq_some_iff.1 h.task
  have hturn : s.tasks[j]?.bind (Task.turn? j) = some _ :=
    Option.bind_eq_some_iff.2 ⟨_, h.task, rfl⟩
  have hdoes : call.Served least (World.answer cancelled call s.world).1 := by
    simp only [fails, h.task, h.id_eq, beq_self_eq_true, Bool.true_and] at hserved
    exact Call.served_answer hshared.time hserved
  -- what it has sent so far is what its calls have sent
  refine { h with task := ?_, leads := .next h.leads hdoes, departed := fun x hx => ?_ }
  -- it is at its own place, one call further
  · rw [call_of_turn hturn]
    exact List.getElem?_set_self hlt
  · rw [call_departures hturn, if_pos rfl] at hx
    rw [sent_append]
    obtain hold | hnew := List.mem_append.1 hx
    · exact List.mem_append_left _ (h.departed x hold)
    · exact List.mem_append_right _ (by simpa [sent] using hnew)

/-- All that it tells in a call is heard under the id. -/
theorem UnderWay.heard_call {cancelled : Bool} {β : Type} {call : Call β}
    {next : β → Program (Except DeliveryError Disposition)} (hfresh : s₀.Fresh)
    (hreaches : Reaches admissible s₀ s)
    (h : UnderWay least s id j n k m c calls (.call call next)) :
    (s.call j cancelled).heard id =
      s.heard id ++ told [⟨call, (World.answer cancelled call s.world).1⟩] := by
  have hturn : s.tasks[j]?.bind (Task.turn? j) = some _ :=
    Option.bind_eq_some_iff.2 ⟨_, h.task, rfl⟩
  rw [System.heard_call hturn, List.filter_eq_self.2]
  · exact congrArg (s.heard id ++ ·) (List.append_nil _).symm
  -- whatever the call tells is of the session of its message
  · intro o ho
    obtain ⟨k', m', rest', htask, hspeaks⟩ := hfresh.told_of_turn hreaches h.task rfl ho
    obtain ⟨-, rfl, -⟩ := Task.delivery.inj htask
    rw [hspeaks, h.id_eq]
    exact beq_self_eq_true id

/-- A delivery under the id that makes a call is the latest, and it goes on. -/
theorem Chronicle.call {cancelled : Bool} {β : Type} {call : Call β}
    {next : β → Program (Except DeliveryError Disposition)} (h : Chronicle least id s)
    (hfresh : s₀.Fresh) (hreaches : Reaches admissible s₀ s)
    (hshared : Shared (.clocked store least) s.world)
    (ht : s.tasks[j]? = some (.delivery k m (.call call next))) (hid : m.id = id)
    (hserved : s.fails id (.call j cancelled) = false) :
    Chronicle least id (s.step (.call j cancelled)) := by
  have hj : j ∈ s.under id := mem_under.2 ⟨k, m, _, ht, hid⟩
  have hunder : (s.step (.call j cancelled)).under id = s.under id := under_of_not_starts rfl
  cases h with
  | unheard hnone _ =>
    rw [hnone] at hj
    exact absurd hj List.not_mem_nil
  | upTo past j' hpast htold hretried hunderWay =>
    -- one of those before it, or the latest
    rw [hpast] at hj
    obtain hold | hlatest := List.mem_append.1 hj
    · -- those before it have come to their ends
      obtain ⟨n, hn⟩ := List.mem_iff_getElem?.1 hold
      obtain ⟨k', m', ht', -⟩ := hretried n j hn
      cases ht.symm.trans ht'
    · obtain rfl := List.mem_singleton.1 hlatest
      obtain ⟨rfl, rfl, rfl⟩ := Task.delivery.inj (Option.some.inj (ht.symm.trans hunderWay.task))
      refine .upTo past j (hunder.trans hpast) ?_ (fun n i hi => (hretried n i hi).step _)
        (hunderWay.call hshared hserved)
      rw [System.step, hunderWay.heard_call hfresh hreaches, htold, told_append, List.append_assoc]

/-- Every admissible event takes the history further, or leaves it what it is. -/
theorem Chronicle.step (h : Chronicle least id s) (hannounces : s.Announces least i)
    (hfresh : s₀.Fresh) (hreaches : Reaches admissible s₀ s)
    (hinv : Inv (.clocked store least) G s) (hrequests : Requests G s)
    (he : OnceEach store least i id s e) : Chronicle least id (s.step e) := by
  cases hstart : s.starts? e with
  | some start =>
    obtain ⟨k, m⟩ := start
    -- the event is the start of a delivery, or a call of one that is under way, or neither
    by_cases hid : m.id = id
    · obtain ⟨hreports, hawaits⟩ := he.awaited _ hstart hid
      exact h.start hannounces hrequests hstart hid hreports hawaits
    · refine h.stay hfresh hreaches ?_ ?_
      · rw [under_of_starts hstart, if_neg hid, List.append_nil]
      · rintro j k m rest cancelled - - rfl
        exact nomatch hstart
  | none =>
    -- when nothing rests, the event is a call of a delivery under the id
    by_cases hresting : s.Resting id e
    · exact h.stay hfresh hreaches (under_of_not_starts hstart) hresting
    · simp only [Resting, not_forall] at hresting
      obtain ⟨j, k, m, rest, cancelled, ht, hid, rfl, hgoesOn⟩ := hresting
      cases rest with
      | done result => exact absurd ⟨result, rfl⟩ hgoesOn
      | call c next => exact h.call hfresh hreaches hinv.shared ht hid he.served

end

/-- By induction on the events: there is a history at every moment. -/
theorem Fresh.chronicle (hfresh : s₀.Fresh) (hsilent : s₀.heard id = [])
    (htime : s₀.world.clock.now.InWindow least) (h : Reaches (OnceEach store least i id) s₀ s) :
    Chronicle least id s := by
  -- three things are carried along together, because each step needs them of the state before it
  have hall : Reaches (OnceEach store least i id) s₀ s ∧ s.Announces least i ∧
      Chronicle least id s := by
    refine h.invariant (I := fun s => Reaches (OnceEach store least i id) s₀ s ∧
      s.Announces least i ∧ Chronicle least id s) ⟨.start, fun _ m hm => ?_, .unheard ?_ hsilent⟩ ?_
    -- a fresh system has an empty log and no tasks
    · obtain ⟨ops, hentry, -⟩ := mem_departures.1 hm
      rw [hfresh.log] at hentry
      exact absurd hentry List.not_mem_nil
    · rw [under, hfresh.tasks]
      rfl
    · rintro s e ⟨hreaches, hannounces, hchronicle⟩ he
      obtain ⟨G, hinv, hrequests, -⟩ := hfresh.reaches (T := .clocked store least) htime
        (hreaches.mono fun _ _ => OnceEach.fits)
      exact ⟨.next hreaches he, hannounces.step hfresh hreaches hinv he,
        hchronicle.step hannounces hfresh hreaches hinv hrequests he⟩
  exact hall.2.2

/-! ### The history at every moment -/

/-- What has become of the `n`-th message under an id, when those before it were retried, and what
has been told of it. -/
inductive Latest (store id : String) (n : Nat) (s : System) : List Nat → List Outcome → Prop
  /-- It has not been delivered yet. -/
  | awaited : Latest store id n s [] []
  | underWay (j : Nat) : s.tasks[j]?.bind Task.ended? = none → Latest store id n s [j] []
  /-- The budget is used up, and the id is being blocked. -/
  | givingUp (j : Nat) (k : Consumer) (m : Message) (c : Countdown) :
      s.tasks[j]?.bind Task.ended? = none → s.tasks[j]?.bind Task.message? = some (k, m) →
      tracked m = some c → c.isExhausted = true →
      Latest store id n s [j] [⟨.gaveUp, id, attemptNumber n⟩]
  /-- The delivery has found a record. -/
  | completed (j : Nat) (m : Message) :
      s.tasks[j]?.bind Task.ended? = some (m, .ok .completed) → Settled store id s.world →
      Latest store id n s [j] [⟨.completed, id, attemptNumber n⟩]
  /-- The budget was used up. -/
  | gaveUp (j : Nat) (m : Message) (c : Countdown) :
      s.tasks[j]?.bind Task.ended? = some (m, .ok .completed) → Settled store id s.world →
      tracked m = some c → c.isExhausted = true → Latest store id n s [j]
        [⟨.gaveUp, id, attemptNumber n⟩, ⟨.completed, id, attemptNumber n⟩]

section

variable {k : Consumer} {m : Message} {c : Countdown} {calls : List Exchange}
  {rest : Program (Except DeliveryError Disposition)} {past : List Nat}

/-- A delivery that has been retried is over, and its end was the retry. -/
theorem Retried.ended? (h : s.Retried j n) :
    ∃ m, s.tasks[j]?.bind Task.ended? = some (m, .ok .retryScheduled) := by
  obtain ⟨k, m, ht, -⟩ := h
  exact ⟨m, by rw [ht]; rfl⟩

/-- A delivery that has completed has left a dispatched record. -/
theorem UnderWay.settled (hfresh : s₀.Fresh) (htime : s₀.world.clock.now.InWindow least)
    (hreaches : Reaches (OnceEach store least i id) s₀ s)
    (h : UnderWay least s id j n k m c calls (.done (.ok .completed))) :
    Settled store id s.world := by
  obtain ⟨g, hcompleted, -⟩ := hfresh.leavesBehind_delivery (T := .clocked store least) htime
    (hreaches.mono fun _ _ => OnceEach.fits) h.task
  rw [← h.id_eq]
  exact hcompleted rfl h.numbered.isControl (by rw [h.numbered.tracked_eq]; rfl)

/-- The latest delivery has been retried, or it is what the next message has come to. -/
theorem UnderWay.latest (hfresh : s₀.Fresh) (htime : s₀.world.clock.now.InWindow least)
    (hreaches : Reaches (OnceEach store least i id) s₀ s)
    (hnow : s.world.clock.now.InWindow least)
    (h : UnderWay least s id j n k m c calls rest) :
    (rest = .done (.ok .retryScheduled) ∧ told calls = [⟨.retried, id, attemptNumber n⟩]) ∨
      s.Latest store id n [j] (told calls) := by
  cases rest with
  -- it is still under way, or it has come to one of its three ends
  | call call next =>
    have hended : s.tasks[j]?.bind Task.ended? = none := by
      rw [h.task]
      rfl
    -- what it has told so far follows from how such a delivery can go
    obtain hnone | ⟨hexhausted, hgave⟩ := h.told_so_far hnow
    · rw [hnone]
      exact .inr (.underWay j hended)
    · rw [hgave]
      refine .inr (.givingUp j k m c hended ?_ h.numbered.tracked_eq hexhausted)
      rw [h.task]
      rfl
  -- the three ends tell a retry, a completion, and a giving up with the completion behind it
  | done result =>
    have hended : s.tasks[j]?.bind Task.ended? = some (m, result) := by
      rw [h.task]
      rfl
    have hretried := h.outcome_eq .retried
    have hcompleted := h.outcome_eq .completed
    have hgave := h.outcome_eq .gaveUp
    have hconcludes := h.concludes
    cases hconcludes with
    | retried front now _ _ hnone _ =>
      rw [told_append, hnone, hretried]
      exact .inl ⟨rfl, rfl⟩
    | completed front hnone _ =>
      rw [told_append, hnone, hcompleted]
      exact .inr (.completed j m hended (h.settled hfresh htime hreaches))
    | gaveUp front hexhausted htold _ =>
      rw [told_append, htold, hcompleted, hgave]
      exact .inr (.gaveUp j m c hended (h.settled hfresh htime hreaches) h.numbered.tracked_eq
        hexhausted)

end

/-- The outcomes that are told under the id of a session whose control message and successors are
delivered once each, in a run in which no call fails but with a conflict: one retry for each
delivery that has sent a successor, counted from one; and of the next delivery, if it has ended, that
it is completed when it has found a record, and that it was given up and is completed when the budget
was used up. The numbers are those in the attempt headers: they have 32 bits, and the greatest
stays. -/
theorem outcome_history (hfresh : s₀.Fresh) (hsilent : s₀.heard id = [])
    (htime : s₀.world.clock.now.InWindow least) (h : Reaches (OnceEach store least i id) s₀ s) :
    ∃ past last outcomes, s.under id = past ++ last ∧
      s.heard id = retries id past.length ++ outcomes ∧
      (∀ j ∈ past, ∃ m, s.tasks[j]?.bind Task.ended? = some (m, .ok .retryScheduled)) ∧
      s.Latest store id (past.length + 1) last outcomes ∧
      ∀ n j, (s.under id)[n]? = some j →
        ∃ k m, s.tasks[j]?.bind Task.message? = some (k, m) ∧ m.HasNumber (n + 1) := by
  obtain ⟨G, hinv, -⟩ := hfresh.reaches (T := .clocked store least) htime
    (h.mono fun _ _ => OnceEach.fits)
  cases hfresh.chronicle hsilent htime h with
  -- nothing has been delivered yet, or there is a latest delivery with others in its past
  | unheard hnone htold =>
    refine ⟨[], [], [], hnone, htold, nofun, .awaited, fun n j hj => ?_⟩
    rw [hnone] at hj
    exact nomatch hj
  -- the past is over, and its deliveries have retried
  | @upTo past j k m c calls rest hpast htold hretried hunderWay =>
    have hended : ∀ j ∈ past, ∃ m,
        s.tasks[j]?.bind Task.ended? = some (m, .ok .retryScheduled) := by
      intro j hj
      obtain ⟨n, hn⟩ := List.mem_iff_getElem?.1 hj
      exact (hretried n j hn).ended?
    have hnumbers : ∀ n j, (s.under id)[n]? = some j →
        ∃ k m, s.tasks[j]?.bind Task.message? = some (k, m) ∧ m.HasNumber (n + 1) := by
      intro n j' hj'
      rw [hpast] at hj'
      obtain hold | ⟨rfl, rfl⟩ := getElem?_concat_cases hj'
      · obtain ⟨k', m', ht', hnumber⟩ := hretried n j' hold
        exact ⟨k', m', by rw [ht']; rfl, hnumber⟩
      · exact ⟨k, m, by rw [hunderWay.task]; rfl, hunderWay.numbered.header⟩
    obtain ⟨rfl, hlast⟩ | hlatest := hunderWay.latest hfresh htime h hinv.shared.time
    · -- the latest delivery has been retried: it belongs to the past, and its successor is awaited
      have hlength : (past ++ [j]).length = past.length + 1 := List.length_append
      refine ⟨past ++ [j], [], [], ?_, ?_, fun i hi => ?_, .awaited, hnumbers⟩
      · rw [hpast, List.append_nil]
      · rw [htold, hlast, hlength, retries_succ, List.append_nil]
      · obtain hold | hnew := List.mem_append.1 hi
        · exact hended i hold
        · obtain rfl := List.mem_singleton.1 hnew
          exact ⟨m, by rw [hunderWay.task]; rfl⟩
    · exact ⟨past, [j], told calls, hpast, htold, hended, hlatest, hnumbers⟩

/-! ### A commit that lands late -/

instance (o : Opening) : Decidable o.Fits64 :=
  inferInstanceAs (Decidable (o.commitBudget ≤ 9223372036854775807 ∧
    o.firstDelay ≤ 9223372036854775807))

instance (store : String) (s : System) : (e : Event) → Decidable (OnStore store s e)
  | .create name _ _ => inferInstanceAs (Decidable (name = store))
  | .take worker => inferInstanceAs (Decidable (worker.receiver.store = store))
  | .hand p _ => inferInstanceAs (Decidable (p.store = store))
  | .request _ _ | .edit _ _ | .call _ _ | .disturb _ => .isTrue trivial

instance (store : String) (least : Int) (i : Nat) (id : String) (s : System) (e : Event) :
    Decidable (OnceEach store least i id s e) :=
  decidable_of_iff (OnStore store s e ∧ (∀ now ∈ e.reading?, now.InWindow least) ∧
    (∀ opening ∈ (s.tasks[i]?.bind Task.session?).bind Session.opening?, opening.Fits64) ∧
    s.fails id e = false ∧
    ∀ start ∈ s.starts? e, start.2.id = id →
      start.1.setup.reports = true ∧ start.2 ∈ s.awaited i id)
    ⟨fun ⟨hstore, hclock, hfits, hserved, hawaited⟩ => ⟨hstore, hclock, hfits, hserved, hawaited⟩,
      fun h => ⟨h.onStore, h.clock, h.fits64, h.served, h.awaited⟩⟩

/-- Each event of a list is admissible where it happens. -/
def Admits (admissible : System → Event → Prop) : System → List Event → Prop
  | _, [] => True
  | s, e :: rest => admissible s e ∧ Admits admissible (s.step e) rest

instance [∀ s e, Decidable (admissible s e)] : (s : System) → (events : List Event) →
    Decidable (Admits admissible s events)
  | _, [] => .isTrue trivial
  | s, e :: rest =>
    have : Decidable (Admits admissible (s.step e) rest) := instDecidableAdmits (s.step e) rest
    inferInstanceAs (Decidable (admissible s e ∧ Admits admissible (s.step e) rest))

/-- Events of which each is admissible where it happens make a run. -/
theorem reaches_of_admits {events : List Event} (h : Admits admissible s events) :
    Reaches admissible s (s.run events) := by
  induction events generalizing s with
  | nil => exact .start
  | cons e rest ih => exact (Reaches.next .start h.1).trans (ih h.2)

/-- A worker on the queue of the processor. -/
def onProcessor : Worker := { receiver := { store := "db", address := "processor" } }

/-- A session has its control message delivered before its commit has landed, and the successor four
seconds later. -/
def landsLate : List Event :=
  [.create "db" {} "processor", .request 0 (.openWith { sessionId := some "session" })] ++
    List.replicate 3 (.call 0 false) ++
    [.request 0 (.send { messageType := "greeting" } { destination := some "inbox" })] ++
    List.replicate 3 (.call 0 false) ++ [.request 0 .commit] ++ List.replicate 3 (.call 0 false) ++
    [.take onProcessor] ++ List.replicate 4 (.call 1 false) ++ List.replicate 4 (.call 0 false) ++
    [.disturb (.setClock { start := .epoch, elapsed := 4000000000 }), .take onProcessor] ++
    List.replicate 4 (.call 2 false)

/-- The delivery before the commit is retried, and the one after it finds the record. -/
theorem outcome_history_landsLate :
    let s := untouched.run landsLate
    s.heard "session" = [⟨.retried, "session", 1⟩, ⟨.completed, "session", 2⟩] ∧
    s.under "session" = [1, 2] ∧
    ∃ past last outcomes, s.under "session" = past ++ last ∧
      s.heard "session" = retries "session" past.length ++ outcomes ∧
      (∀ j ∈ past, ∃ m, s.tasks[j]?.bind Task.ended? = some (m, .ok .retryScheduled)) ∧
      s.Latest "db" "session" (past.length + 1) last outcomes ∧
      ∀ n j, (s.under "session")[n]? = some j →
        ∃ k m, s.tasks[j]?.bind Task.message? = some (k, m) ∧ m.HasNumber (n + 1) := by
  -- the events are played once, with every condition decided where it is met
  have hreaches : Reaches (OnceEach "db" 0 0 "session") untouched (untouched.run landsLate) :=
    reaches_of_admits (by decide +kernel)
  exact ⟨by decide +kernel, by decide +kernel,
    outcome_history fresh_untouched rfl (by decide) hreaches⟩

end System

end Outbox
