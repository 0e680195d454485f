import Mathlib.Data.List.Basic
import Outbox.Config.Json
import Outbox.Endpoint
import Outbox.Processing.Worker
import Outbox.Proofs.Paths
import Outbox.Proofs.Retry.Announcement
import Outbox.Proofs.Retry.Chain

/-!
# Both ends of a configuration

An endpoint and its worker are made from one configuration, each on its own. When the configuration
was read out of a text and enables the outbox, both can be made, and what the sessions of the
endpoint announce reaches the worker: in its queue, and with the configured durations. When the
configuration disables the outbox there is no queue for announcements, and no session makes any.

* `Config.fits64_of_ofJson`                    a duration that is read can be announced
* `Session.Outboxed.not_isMisuse_openWith`     an opening that is in order is not a misuse
* `Endpoint.agrees`                            an endpoint and a worker with one queue
* `Config.agrees_of_ofJson`                    what a text makes of both ends
-/

namespace Outbox

open Program Time

/-! ### What a text makes of a configuration -/

namespace Config

/-- A duration that is read is as short as those in headers, if the one taken by default is. -/
theorem readSpan_le {name : String} {default n : Nat} {text : Option String}
    (hdefault : default ≤ 9223372036854775807) (h : readSpan name default text = .ok n) :
    n ≤ 9223372036854775807 := by
  unfold readSpan at h
  split at h
  -- nothing is said about the duration, so it is the one taken by default
  · obtain rfl := Except.ok.inj h
    exact hdefault
  · split at h
    · exact nomatch h
    · next d hread =>
      split at h
      · exact nomatch h
      · -- a negative span is refused, so the number is no greater than the span
        obtain rfl := Except.ok.inj h
        have hreach := Duration.inReach_iff.1 (inReach_of_readDuration hread)
        omega

variable {text : String} {c : Config}

/-- What is read out of a text has been found valid. -/
theorem validate_of_ofJson (h : ofJson text = .ok c) : c.validate = .ok () := by
  -- each step of the reader has succeeded; only the last one says something about validity
  obtain ⟨settings, -, h⟩ := bind_eq_ok_iff.1 h
  obtain ⟨budget, -, h⟩ := bind_eq_ok_iff.1 h
  obtain ⟨delay, -, h⟩ := bind_eq_ok_iff.1 h
  obtain ⟨⟨⟩, hvalid, h⟩ := bind_eq_ok_iff.1 h
  obtain rfl := Except.ok.inj h
  generalize hresult : Config.validate _ = result at hvalid ⊢
  cases result with
  | error e => exact nomatch hvalid
  | ok _ => rfl

/-- Its durations are as short as those that are read out of headers. -/
theorem fits64_of_ofJson (h : ofJson text = .ok c) : (Opening.ofConfig c).Fits64 := by
  obtain ⟨settings, -, h⟩ := bind_eq_ok_iff.1 h
  obtain ⟨budget, hbudget, h⟩ := bind_eq_ok_iff.1 h
  obtain ⟨delay, hdelay, h⟩ := bind_eq_ok_iff.1 h
  obtain ⟨-, -, h⟩ := bind_eq_ok_iff.1 h
  -- both durations come from texts, or they are the standard ones
  obtain rfl := Except.ok.inj h
  exact ⟨readSpan_le (by decide) hbudget, readSpan_le (by decide) hdelay⟩

/-- A valid configuration with the outbox has a queue for the processor. -/
theorem exists_processorQueue (hvalid : c.validate = .ok ()) (henabled : c.outboxEnabled = true) :
    ∃ queue, c.processorQueue = .ok queue := by
  obtain ⟨-, -, hsome⟩ := (validate_eq_ok_iff c).1 hvalid
  -- an endpoint that is valid with its outbox has one of the two addresses
  obtain ⟨queue, hqueue⟩ := Option.isSome_iff_exists.1 (hsome henabled)
  exact ⟨queue, by simp [processorQueue, hvalid, hqueue]⟩

/-- One without it has none configured. -/
theorem processorAddress_eq_none (hvalid : c.validate = .ok ())
    (hdisabled : c.outboxEnabled = false) : c.processorAddress = none := by
  obtain ⟨-, honly, -⟩ := (validate_eq_ok_iff c).1 hvalid
  rw [← Option.not_isSome_iff_eq_none]
  exact fun hsome => nomatch hdisabled.symm.trans (honly hsome)

end Config

/-! ### Opening with the configured durations -/

/-- Durations that fit are those of a countdown. -/
theorem Opening.Fits64.exists_initial {o : Opening} (h : o.Fits64) (id : String) :
    ∃ c, Countdown.initial id o.commitBudget o.firstDelay none = .ok c := by
  -- the greatest number that fits is far below the end of the spans
  have hspan : ∀ n : Nat, n ≤ 9223372036854775807 → ∃ d, Span.ofNanos? n = some d := by
    refine fun n hn => Option.ne_none_iff_exists'.1 fun hnone => ?_
    rw [Span.ofNanos?_eq_none_iff] at hnone
    simp only [Span.limit] at hnone
    omega
  obtain ⟨budget, hbudget⟩ := hspan _ h.1
  obtain ⟨delay, hdelay⟩ := hspan _ h.2
  exact ⟨_, by simp [Countdown.initial, Countdown.initial?, hbudget, hdelay]; rfl⟩

namespace Session.Outboxed

variable {s : Outboxed}

/-- Nothing that an opening does with its collaborators is a misuse. -/
theorem not_isMisuse_start (s : Outboxed) (opening : Opening) (id : String)
    (countdown : Countdown) : (s.start opening id countdown).Obeys (fun _ => True)
      fun r => ∀ e, r.2 = .error e → e.isMisuse = false := by
  have hstore : ∀ e, (CallError.ofStore e).isMisuse = false := fun e => by cases e <;> rfl
  -- a session that is abandoned reports what it is given
  have habandon : ∀ (tx : TransactionId) (e : CallError), e.isMisuse = false →
      (s.abandon tx e).Obeys (fun _ => True) fun r => ∀ e, r.2 = .error e → e.isMisuse = false :=
    fun tx e he => (obeys_true s.release).bind fun _ _ =>
      ⟨trivial, fun _ e' he' => Except.error.inj he' ▸ he⟩
  refine ⟨trivial, fun begun => ?_⟩
  -- only the store answers from here on: first to begin, then to join
  match begun with
  | none => exact fun e he => Except.error.inj he ▸ rfl
  | some (.error e') => exact fun e he => Except.error.inj he ▸ hstore e'
  | some (.ok tx) =>
    refine ⟨trivial, fun joined => ?_⟩
    match joined with
    | none => exact habandon tx _ rfl
    | some (.error e') => exact habandon tx _ (hstore e')
    -- a staging that cannot join is a fault of the set-up, not of the caller
    | some (.ok false) => exact habandon tx _ rfl
    | some (.ok true) => exact nofun

/-- An opening in order of a session that has not been opened is not refused as misuse. -/
theorem not_isMisuse_openWith (hphase : s.phase = .unopened) {opening : Opening}
    (hvalid : opening.validate = .ok ()) (hfits : opening.Fits64)
    (hid : ∀ id, opening.sessionId = some id → Opening.isBlankId id = false) :
    (s.openWith opening).Obeys (fun _ => True)
      fun r => ∀ e, r.2 = .error e → e.isMisuse = false := by
  -- the gate asks nothing but whether the caller has cancelled
  have hpass : (passIf s.phase.requireUnopened).Obeys (fun _ => True)
      fun passed => ∀ e, passed = .error e → e.isMisuse = false := by
    rw [hphase]
    refine ⟨trivial, fun cancelled => ?_⟩
    cases cancelled with
    | true => exact fun e he => Except.error.inj he ▸ rfl
    | false => exact nofun
  -- an id that the caller gives is not blank, one that is made is not looked at
  have hchoose : opening.chooseId.Obeys (fun _ => True) fun choice => ∃ id, choice = .ok id := by
    unfold Opening.chooseId
    split
    · exact ⟨trivial, fun id => ⟨id, rfl⟩⟩
    · next id hsome =>
      rw [hid id hsome]
      exact ⟨id, rfl⟩
  refine hpass.bind fun passed hpassed => ?_
  cases passed with
  | error e => exact fun e' he' => Except.error.inj he' ▸ hpassed e rfl
  | ok _ =>
    dsimp only
    rw [hvalid]
    refine hchoose.bind fun choice hchoice => ?_
    obtain ⟨id, rfl⟩ := hchoice
    obtain ⟨countdown, hcountdown⟩ := hfits.exists_initial id
    dsimp only
    rw [hcountdown]
    -- from here on only the store and the caller can stop it
    exact not_isMisuse_start s opening id countdown

end Session.Outboxed

/-! ### Both ends -/

namespace Endpoint

/-- An opening with the durations that the endpoint sets. The caller may give it an id that is not
blank, and metadata, a bag and hints. -/
structure Prepares (e : Endpoint) (opening : Opening) : Prop where
  commitBudget : opening.commitBudget = e.opening.commitBudget
  firstDelay : opening.firstDelay = e.opening.firstDelay
  notBlank : ∀ id, opening.sessionId = some id → Opening.isBlankId id = false

/-- What the sessions of an endpoint announce reaches a worker. -/
structure Agrees (e : Endpoint) (w : Worker) : Prop where
  makes : ∀ staging, ∃ s, e.outboxed staging = .ok s
  opens : ∀ {may : {β : Type} → Call β → β → Prop} {staging : StagingId} {opening : Opening}
    {calls : List Exchange} {s₀ s₁ : Session.Outboxed} {failure : CallError},
    e.outboxed staging = .ok s₀ → e.Prepares opening →
    (s₀.openWith opening).Runs may calls (s₁, .error failure) → failure.isMisuse = false
  /-- Whatever is done with a session between its opening and its commit. -/
  announces : ∀ {may : {β : Type} → Call β → β → Prop} {staging : StagingId} {opening : Opening}
    {opened calls : List Exchange} {uses : List Session.Use} {s₀ s₁ s : Session.Outboxed}
    {r : Session.Outboxed × Except CallError Unit},
    e.outboxed staging = .ok s₀ → e.Prepares opening →
    (s₀.openWith opening).Runs may opened (s₁, .ok ()) →
    Session.Used may (.outboxed s₁) uses (.outboxed s) → s.commit.Runs may calls r →
    ⟨.isCancelled, false⟩ ∈ calls →
    ∃ id now op, s₁.sessionId? = some id ∧ ⟨.now, now⟩ ∈ calls ∧ dispatches calls = [[op]] ∧
      op.IsAnnouncement w.receiver.address ∧ op.message.id = id ∧
      (0 ≤ now.year ∧ now.year ≤ 9999 →
        ∃ c, Countdown.read op.message = .ok (some c) ∧ c.sessionId = id ∧ c.attempt = 1 ∧
          c.remaining.nanos = e.config.commitBudget ∧ c.increment.nanos = e.config.firstDelay)
  /-- As long as there is no record, control messages come back to the worker. -/
  returns : ∀ {m : Message} {now : Instant} {op : Shipment}, m.isControl = true →
    w.receiver.Schedules m now op → op.destination = .queue w.receiver.address

variable {c : Config} {queue : String}

/-- The endpoint of a valid configuration with the outbox. -/
theorem new_of_enabled (hvalid : c.validate = .ok ()) (henabled : c.outboxEnabled = true)
    (hqueue : c.processorQueue = .ok queue) (store : String) :
    new c store = .ok
      { config := c, store, router := .ofConfig c, processorAddress := some queue } := by
  simp only [new, hvalid, henabled, hqueue, if_true]
  rfl

/-- The endpoint of one without it. -/
theorem new_of_disabled (hvalid : c.validate = .ok ()) (hdisabled : c.outboxEnabled = false)
    (store : String) :
    new c store = .ok
      { config := c, store, router := .ofConfig c, processorAddress := none } := by
  simp [new, hvalid, hdisabled]

/-- An endpoint agrees with a worker on the queue to which its sessions announce themselves. -/
theorem agrees {e : Endpoint} {w : Worker} (haddress : e.processorAddress = some w.receiver.address)
    (hvalid : e.opening.validate = .ok ()) (hfits : e.opening.Fits64) : e.Agrees w := by
  -- every session of the endpoint has the queue of the worker
  have houtboxed : ∀ staging, e.outboxed staging = .ok
      { store := e.store, staging, router := e.router, processorAddress := w.receiver.address } :=
    fun staging => by simp [outboxed, haddress]
  have hprepared : ∀ opening, e.Prepares opening →
      opening.validate = .ok () ∧ opening.Fits64 := by
    intro opening h
    constructor
    · simp only [Opening.validate, h.firstDelay]
      exact hvalid
    · unfold Opening.Fits64
      rw [h.commitBudget, h.firstDelay]
      exact hfits
  -- in this order: sessions can be made, they open, they are announced, and messages come back
  refine ⟨fun staging => ⟨_, houtboxed staging⟩, ?_, ?_, ?_⟩
  · intro may staging opening calls s₀ s₁ failure hs₀ hprepares hrun
    have hphase : s₀.phase = .unopened :=
      Except.ok.inj ((houtboxed staging).symm.trans hs₀) ▸ rfl
    obtain ⟨hopening, hshort⟩ := hprepared opening hprepares
    have hobeys := Session.Outboxed.not_isMisuse_openWith hphase hopening hshort hprepares.notBlank
    exact (hobeys.of_runs hrun).2 failure rfl
  · intro may staging opening opened calls uses s₀ s₁ s r hs₀ hprepares hopen huses hcommit hlive
    obtain rfl := Except.ok.inj ((houtboxed staging).symm.trans hs₀)
    obtain ⟨-, hshort⟩ := hprepared opening hprepares
    -- the address that the announcement has is the one that the session was made with
    obtain ⟨id, now, op, hid, hnow, hdispatches, hannounces, hmessage, hread⟩ :=
      Session.Outboxed.read_announced hopen huses hcommit hlive
    obtain ⟨_, _, _, -, -, rfl⟩ := Session.Outboxed.runs_open hopen
    refine ⟨id, now, op, hid, hnow, hdispatches, hannounces, hmessage, fun hyear => ?_⟩
    -- what has been announced is read with the durations of the opening, and these are the
    -- endpoint's
    obtain ⟨c, hc, hsession, hattempt, hremaining, hincrement, -⟩ := (hread hyear).1 hshort
    exact ⟨c, hc, hsession, hattempt, by rw [hremaining, hprepares.commitBudget]; rfl,
      by rw [hincrement, hprepares.firstDelay]; rfl⟩
  · intro m now op hcontrol hschedules
    -- successors go to the address of the receiver that schedules them
    obtain ⟨c, -, -, rfl⟩ := (Receiver.schedules_iff hcontrol).1 hschedules
    rfl

end Endpoint

/-- What a text makes of both ends. With the outbox the endpoint and the worker agree; without it
there is no queue for announcements and no session that would make any. -/
theorem Config.agrees_of_ofJson {text : String} {c : Config} (h : ofJson text = .ok c)
    (store store' : String) :
    ∃ e, Endpoint.new c store = .ok e ∧ e.config = c ∧
      (c.outboxEnabled = true → ∃ w, Worker.ofConfig c store' = .ok w ∧ e.Agrees w) ∧
      (c.outboxEnabled = false → c.processorAddress = none ∧ e.processorAddress = none ∧
        ∀ staging, e.outboxed staging = .error .outboxDisabled) := by
  have hvalid := validate_of_ofJson h
  cases henabled : c.outboxEnabled with
  | true =>
    obtain ⟨queue, hqueue⟩ := exists_processorQueue hvalid henabled
    -- both ends take the queue from the configuration, each for itself
    refine ⟨_, Endpoint.new_of_enabled hvalid henabled hqueue store, rfl, fun _ => ?_, nofun⟩
    refine ⟨{ receiver := { store := store', address := queue }, errorQueue := c.errorQueue },
      by simp [Worker.ofConfig, hqueue, Except.map], ?_⟩
    have hdelay : c.firstDelay ≠ 0 := Nat.ne_of_gt ((validate_eq_ok_iff c).1 hvalid).1
    exact Endpoint.agrees rfl (if_neg hdelay) (fits64_of_ofJson h)
  | false =>
    -- without the outbox there is nothing to agree on
    refine ⟨_, Endpoint.new_of_disabled hvalid henabled store, rfl, nofun, fun _ => ?_⟩
    exact ⟨processorAddress_eq_none hvalid henabled, rfl, fun staging => rfl⟩

/-! ### An endpoint for orders -/

/-- Its text. -/
def ordersText : String :=
  "\x7b\"local_address\":\"orders\",\"maximum_commit_duration\":\"PT30S\"," ++
    "\"commit_delay_increment\":\"PT0.5S\"\x7d"

/-- Its configuration. -/
def orders : Config :=
  { localAddress := some "orders", commitBudget := 30000000000, firstDelay := 500000000 }

namespace Session.Outboxed

/-- A session that the endpoint makes. -/
def ordering : Outboxed :=
  { store := "db", staging := 0, router := .ofConfig orders, processorAddress := "orders" }

/-- An opening that the endpoint has prepared, with an id. -/
def orderingOpening : Opening := { Opening.ofConfig orders with sessionId := some "order-1" }

/-- How the session opens with it. -/
def orderingOpens : (Outboxed × Except CallError Unit) × World :=
  mayNoon.run false (ordering.openWith orderingOpening)

/-- What its commit calls. -/
def orderingCalls : List Exchange :=
  orderingOpens.1.1.commit.trace (World.answer false) orderingOpens.2

/-- The clock reads noon. -/
theorem reading_of_orderingCalls {now : Instant} (h : ⟨.now, now⟩ ∈ orderingCalls) :
    now = mayNoon.clock.now := by
  have hmem : Stamp.reading now ∈ stamps orderingCalls := List.mem_filterMap.2 ⟨_, h, rfl⟩
  have hstamps : stamps orderingCalls = [.reading mayNoon.clock.now] := by decide +kernel
  rw [hstamps] at hmem
  exact Stamp.reading.inj (List.mem_singleton.1 hmem)

end Session.Outboxed

open Session.Outboxed in
/-- An endpoint for orders and its worker are read from one text: the session that the endpoint
opens is announced in the queue of the worker, with the durations of the text. -/
theorem Config.agrees_of_ofJson_orders :
    ofJson ordersText = .ok orders ∧
    ∃ e w, Endpoint.new orders "db" = .ok e ∧ Worker.ofConfig orders "db" = .ok w ∧
      e.outboxed 0 = .ok ordering ∧ e.Prepares orderingOpening ∧ e.Agrees w ∧
      ∃ op c, dispatches orderingCalls = [[op]] ∧ op.destination = .queue "orders" ∧
        Countdown.read op.message = .ok (some c) ∧ c.attempt = 1 ∧
        c.remaining.nanos = 30000000000 ∧ c.increment.nanos = 500000000 := by
  -- the text is read by evaluation; all else follows from the theorem
  have htext : ofJson ordersText = .ok orders := by decide +kernel
  obtain ⟨e, he, -, henabled, -⟩ := agrees_of_ofJson htext "db" "db"
  obtain ⟨w, hw, hagrees⟩ := henabled rfl
  have hmakes : e.outboxed 0 = .ok ordering := by
    obtain rfl := Except.ok.inj he
    rfl
  have hprepares : e.Prepares orderingOpening := by
    obtain rfl := Except.ok.inj he
    refine ⟨rfl, rfl, fun id hid => ?_⟩
    obtain rfl := Option.some.inj hid
    decide
  -- the session opens and commits in a world at noon
  have hopen : (ordering.openWith orderingOpening).Runs (fun _ _ => True)
      ((ordering.openWith orderingOpening).trace (World.answer false) mayNoon)
      (orderingOpens.1.1, .ok ()) := by
    have hok : orderingOpens.1.2 = .ok () := by decide +kernel
    rw [← hok]
    exact runs_trace (fun _ _ => trivial) _ _
  have hcommit : orderingOpens.1.1.commit.Runs (fun _ _ => True) orderingCalls
      (orderingOpens.2.run false orderingOpens.1.1.commit).1 :=
    runs_trace (fun _ _ => trivial) _ _
  obtain ⟨id, now, op, -, hnow, hdispatches, hop, -, hread⟩ :=
    hagrees.announces hmakes hprepares hopen (.none _) hcommit List.mem_cons_self
  have hyear : 0 ≤ now.year ∧ now.year ≤ 9999 := by
    rw [reading_of_orderingCalls hnow]
    decide +kernel
  obtain ⟨c, hc, -, hattempt, hremaining, hincrement⟩ := hread hyear
  obtain rfl := Except.ok.inj he
  obtain rfl := Except.ok.inj hw
  exact ⟨htext, _, _, he, hw, hmakes, hprepares, hagrees, op, c, hdispatches, hop.destination, hc,
    hattempt, hremaining, hincrement⟩

end Outbox
