import Outbox.Proofs.Traffic

/-!
# Receives that wait

Any number of receives are under way on a transport, with schedules that nobody has chosen. A
receive first asks to be notified of accepted dispatches, then looks into its queue, and sleeps
when nothing is due: until the next message of the queue falls due, until its deadline, or until
it is notified. Each of these is a step of its own, and others may act in between. An accepted
dispatch puts its messages into the queues first and notifies the receives afterwards, in a step
of its own again.

Time moves on when everybody rests: no notification is outstanding, and every receive has ended
or sleeps, without having been notified, until that moment at least. Timers go off at the moment
for which they are set.

* `Transport.look_cases`  what a look can find
* `Receive.Sound`         what holds of a receive at all times: above all, that a receive which
  sleeps has missed nothing
* `Receive.Thrifty`       how many more looks a receive can need
* `good_after`            both hold after every schedule
-/

namespace Outbox

namespace Transport

/-- Nothing can be taken exactly if nothing in the queue is due. -/
theorem take?_eq_none_iff {t : Transport} {name : String} {now : Nat} :
    t.take? name now = none ↔ ∀ q ∈ t.queue name, now < q.dueAt := by
  unfold take?
  rw [Option.map_eq_none_iff]
  generalize t.queue name = l
  -- a take passes over what is not due, so it fails only at the end of the queue
  induction l with
  | nil => simp [Queue.takeFirst?]
  | cons q rest ih =>
    rw [Queue.takeFirst?, List.forall_mem_cons, ← ih]
    by_cases hq : q.dueAt ≤ now
    · have hlt : ¬ now < q.dueAt := by omega
      simp [hq, hlt]
    · have hlt : now < q.dueAt := by omega
      simp [hq, hlt]

/-- The next message to fall due, if any waits. -/
theorem nextDue?_cases (t : Transport) (name : String) :
    (t.queue name = [] ∧ t.nextDue? name = none) ∨
    ∃ q ∈ t.queue name, t.nextDue? name = some q.dueAt ∧ ∀ x ∈ t.queue name, q.dueAt ≤ x.dueAt := by
  unfold nextDue?
  cases hmin : ((t.queue name).map (·.dueAt)).min? with
  | none => exact .inl ⟨by simpa using hmin, rfl⟩
  | some first =>
    obtain ⟨hmem, hleast⟩ := List.min?_eq_some_iff.1 hmin
    obtain ⟨q, hq, rfl⟩ := List.mem_map.1 hmem
    exact .inr ⟨q, hq, rfl, fun x hx => hleast x.dueAt (List.mem_map_of_mem hx)⟩

/-- What a receive finds: the earliest arrival that is due; nothing, at its deadline; or nothing,
and then it is to look again when the next message falls due, or at the deadline. -/
theorem look_cases (t : Transport) (name : String) (deadline now : Nat) :
    (∃ front q back, t.queue name = front ++ q :: back ∧ q.dueAt ≤ now ∧
      (∀ x ∈ front, now < x.dueAt) ∧
      t.look name deadline now = .received q.message (t.setQueue name (front ++ back))) ∨
    ((∀ q ∈ t.queue name, now < q.dueAt) ∧ deadline ≤ now ∧
      t.look name deadline now = .timedOut) ∨
    ((∀ q ∈ t.queue name, now < q.dueAt) ∧ now < deadline ∧
      ∃ wakeAt, now < wakeAt ∧ wakeAt ≤ deadline ∧ (∀ q ∈ t.queue name, wakeAt ≤ q.dueAt) ∧
        (wakeAt < deadline → ∃ q ∈ t.queue name, q.dueAt = wakeAt) ∧
        t.look name deadline now = .waiting wakeAt) := by
  cases htake : t.take? name now with
  | some found =>
    obtain ⟨front, q, back, hq, hm, hdue, hf, hrest⟩ := take?_eq_some_iff.1 htake
    refine .inl ⟨front, q, back, hq, hdue, hf, ?_⟩
    rw [hm, ← hrest]
    exact look_eq_received_iff.2 htake
  | none =>
    have hnone := take?_eq_none_iff.1 htake
    by_cases hd : deadline ≤ now
    · exact .inr (.inl ⟨hnone, hd, by simp only [look, htake, if_pos hd]⟩)
    · have hlook : t.look name deadline now =
          .waiting (((t.nextDue? name).map (min deadline)).getD deadline) := by
        simp only [look, htake, if_neg hd]
      refine .inr (.inr ⟨hnone, by omega, ?_⟩)
      -- the timer is set for the deadline, or for the next message if that falls due before
      rcases nextDue?_cases t name with ⟨hq, hnext⟩ | ⟨q, hq, hnext, hleast⟩
      · refine ⟨deadline, by omega, by omega, by simp [hq], by omega, ?_⟩
        rw [hlook, hnext]
        rfl
      · have hlt := hnone q hq
        refine ⟨min deadline q.dueAt, by omega, by omega, ?_, ?_, ?_⟩
        · intro x hx
          have := hleast x hx
          omega
        · intro hw
          exact ⟨q, hq, by omega⟩
        · rw [hlook, hnext]
          rfl

end Transport

namespace Reception

/-- How far a receive has come. -/
inductive Phase where
  /-- It is about to ask to be notified. -/
  | starting
  /-- It is notified of accepted dispatches from here on, and looks into the queue next. -/
  | registered (notified : Bool)
  /-- It has found nothing, and sleeps until it is notified or until `wakeAt`. -/
  | asleep (notified : Bool) (wakeAt : Nat)
  | ended (result : Option Message) (time : Nat)
deriving DecidableEq

/-- A receive. -/
structure Receive where
  queue : String
  started : Nat
  timeout : Nat
  phase : Phase := .starting
  /-- How often it has looked into the queue. -/
  looks : Nat := 0
  /-- How often it may need to look: twice, once for every message that was in its queue when it
  started or has come since, and once for every accepted dispatch of which it may be notified. -/
  allowance : Nat
deriving DecidableEq

namespace Receive

/-- When its timeout is over. -/
def deadline (r : Receive) : Nat := r.started + r.timeout

/-- Whether it has not come to its end yet. -/
def isUnderWay (r : Receive) : Bool :=
  match r.phase with
  | .ended _ _ => false
  | .starting | .registered _ | .asleep _ _ => true

/-- The receive is notified of an accepted dispatch. -/
def notify (r : Receive) : Receive :=
  match r.phase with
  | .registered _ => { r with phase := .registered true }
  | .asleep _ wakeAt => { r with phase := .asleep true wakeAt }
  | .starting | .ended _ _ => r

/-- Operations have been accepted, and `copies` of them are in the queue of the receive. -/
def expect (r : Receive) (copies : Nat) : Receive :=
  { r with allowance := r.allowance + copies + 1 }

/-- The receive has looked. -/
def looked (r : Receive) (phase : Phase) : Receive := { r with phase, looks := r.looks + 1 }

/-- What the receive does next. -/
def next (r : Receive) (t : Transport) (now : Nat) : Receive × Transport :=
  match r.phase with
  | .starting => ({ r with phase := .registered false }, t)
  | .registered notified =>
    match t.look r.queue r.deadline now with
    | .received m rest => (r.looked (.ended (some m) now), rest)
    | .timedOut => (r.looked (.ended none now), t)
    | .waiting wakeAt => (r.looked (.asleep notified wakeAt), t)
  | .asleep notified wakeAt =>
    if notified = true ∨ wakeAt ≤ now then ({ r with phase := .starting }, t) else (r, t)
  | .ended _ _ => (r, t)

/-- Whether the receive has nothing to do before `time`. -/
def restsUntil (r : Receive) (time : Nat) : Bool :=
  match r.phase with
  | .asleep false wakeAt => decide (time ≤ wakeAt)
  | .ended _ _ => true
  | .starting | .registered _ | .asleep true _ => false

end Receive

/-- What somebody does, or that time moves on. -/
inductive Event where
  | subscribe (topic queue : String)
  | rejectNext (reason : String)
  /-- Operations are dispatched. Nobody is notified yet. -/
  | dispatch (ops : List Shipment)
  /-- The receives under way are notified of an accepted dispatch. -/
  | announce
  /-- A receive starts. -/
  | receive (queue : String) (timeout : Nat)
  /-- A receive does what it does next. -/
  | turn (i : Nat)
  /-- Time moves on, if everybody rests until then. -/
  | advance (duration : Nat)

/-- Whether the event is one that a receive waits for: it happens without anybody's doing. -/
def Event.isDue : Event → Bool
  | .announce | .turn _ | .advance _ => true
  | _ => false

end Reception

/-- A transport with the receives that have been started on it, in their order. -/
structure Reception where
  transport : Transport
  now : Nat
  receives : List Reception.Receive := []
  /-- Accepted dispatches that have not been announced. -/
  unannounced : Nat := 0

namespace Reception

/-- Operations are dispatched. -/
def dispatch (s : Reception) (ops : List Shipment) : Reception :=
  let (reply, transport) := s.transport.dispatch s.now ops
  match reply with
  | .ok () =>
    { s with
      transport
      receives := s.receives.map fun r =>
        r.expect ((transport.queue r.queue).length - (s.transport.queue r.queue).length)
      unannounced := s.unannounced + 1 }
  | .error _ => { s with transport }

/-- A receive does what it does next. -/
def turn (s : Reception) (i : Nat) : Reception :=
  match s.receives[i]? with
  | none => s
  | some r =>
    let (r, transport) := r.next s.transport s.now
    { s with transport, receives := s.receives.set i r }

/-- A rejected dispatch uses up the rejection and does nothing else. -/
theorem dispatch_of_error {s : Reception} {ops : List Shipment} {e : DispatchError}
    (h : (s.transport.dispatch s.now ops).1 = .error e) :
    s.dispatch ops = { s with transport := { s.transport with rejection := none } } := by
  simp only [dispatch, h, (Transport.dispatch_of_error h).2]

/-- Whether nothing is to be done before `time`. -/
def restsUntil (s : Reception) (time : Nat) : Bool :=
  decide (s.unannounced = 0) && s.receives.all (·.restsUntil time)

/-- What an event makes of the state. One that cannot take place changes nothing. -/
def step (s : Reception) : Event → Reception
  | .subscribe topic queue => { s with transport := s.transport.subscribe topic queue }
  | .rejectNext reason => { s with transport := s.transport.rejectNext reason }
  | .dispatch ops => s.dispatch ops
  | .announce =>
    if s.unannounced = 0 then s
    else { s with receives := s.receives.map (·.notify), unannounced := s.unannounced - 1 }
  | .receive queue timeout =>
    { s with
      receives := s.receives ++
        [{ queue, timeout
           started := s.now
           allowance := (s.transport.queue queue).length + s.unannounced + 2 }] }
  | .turn i => s.turn i
  | .advance duration =>
    if s.restsUntil (s.now + duration) = true then { s with now := s.now + duration } else s

/-- The state after some events, from a transport on that nobody receives from. -/
def after (transport : Transport) (now : Nat) (events : List Event) : Reception :=
  events.foldl step { transport, now }

namespace Receive

/-- What holds of a receive at all times, `l` being its queue. -/
structure Sound (r : Receive) (l : List QueuedMessage) (now unannounced : Nat) : Prop where
  started : r.started ≤ now
  timely : r.isUnderWay = true → now ≤ r.deadline
  asleep : ∀ notified wakeAt, r.phase = .asleep notified wakeAt → now ≤ wakeAt ∧
    wakeAt ≤ r.deadline
  /-- No message falls due before a receive wakes up that need not fear to have missed a
  notification. -/
  alert : ∀ wakeAt, r.phase = .asleep false wakeAt → unannounced = 0 →
    ∀ q ∈ l, wakeAt ≤ q.dueAt
  ended : ∀ result time, r.phase = .ended result time → r.started ≤ time ∧ time ≤ r.deadline ∧
    (result = none → time = r.deadline)

/-- Whether a notification has come since the receive has registered. -/
def notified (r : Receive) : Bool :=
  match r.phase with
  | .registered notified | .asleep notified _ => notified
  | .starting | .ended _ _ => false

/-- The looks of the receive, and those that are still in store for it: one for the notification
that has come, for each one that is to come and for each message in the queue `l`. -/
def spent (r : Receive) (l : List QueuedMessage) (unannounced : Nat) : Nat :=
  r.looks + r.notified.toNat + unannounced + l.length

/-- A receive can afford the looks that are in store for it. Twice it may look for no reason but
the time: at the beginning and at the end. -/
def Thrifty (r : Receive) (l : List QueuedMessage) (now unannounced : Nat) : Prop :=
  match r.phase with
  | .starting | .registered _ =>
    r.spent l unannounced + 2 ≤ r.allowance ∨
      r.spent l unannounced + 1 ≤ r.allowance ∧ (r.deadline ≤ now ∨ ∃ q ∈ l, q.dueAt ≤ now)
  | .asleep _ wakeAt =>
    r.spent l unannounced + 1 ≤ r.allowance ∧
      (wakeAt < r.deadline →
        r.spent l unannounced + 2 ≤ r.allowance ∨ ∃ q ∈ l, q.dueAt ≤ wakeAt)
  | .ended _ _ => r.looks ≤ r.allowance

variable {r : Receive} {l l' : List QueuedMessage} {now unannounced : Nat}

/-- A notification changes no more than whether a receive that asked for one has been notified. -/
theorem notify_eq (r : Receive) : r.notify = r ∧ r.notified = false ∧
      (r.phase = .starting ∨ ∃ result time, r.phase = .ended result time) ∨
    (∃ n, r.phase = .registered n ∧ r.notify = { r with phase := .registered true }) ∨
    ∃ n wakeAt, r.phase = .asleep n wakeAt ∧
      r.notify = { r with phase := .asleep true wakeAt } := by
  unfold notify notified
  cases r.phase <;> simp

namespace Sound

/-- A receive that starts now is sound. -/
theorem start (queue : String) (timeout allowance : Nat) :
    Sound { queue, timeout, started := now, allowance } l now unannounced where
  started := Nat.le_refl _
  timely _ := Nat.le_add_right ..
  asleep _ _ h := nomatch h
  alert _ h := nomatch h
  ended _ _ h := nomatch h

/-- Whatever comes into the queue, a notification is to follow. -/
theorem expect (h : r.Sound l now unannounced) (copies : Nat) :
    (r.expect copies).Sound l' now (unannounced + 1) where
  started := h.started
  timely := h.timely
  asleep := h.asleep
  alert _ _ hu := absurd hu (Nat.succ_ne_zero _)
  ended := h.ended

/-- Who sleeps and has been notified does not rely on the queue. -/
theorem notify (h : r.Sound l now unannounced) : r.notify.Sound l now (unannounced - 1) := by
  -- a receive that has not registered misses nothing by a notification that it does not get
  rcases r.notify_eq with ⟨heq, -, hp⟩ | ⟨n, hp, heq⟩ | ⟨n, wakeAt, hp, heq⟩
  · rw [heq]
    refine ⟨h.started, h.timely, h.asleep, ?_, h.ended⟩
    intro wakeAt hasleep
    rcases hp with hp | ⟨result, time, hp⟩ <;> simp [hp] at hasleep
  · rw [heq]
    have hway : r.isUnderWay = true := by simp [isUnderWay, hp]
    exact ⟨h.started, fun _ => h.timely hway, nofun, nofun, nofun⟩
  · rw [heq]
    have hway : r.isUnderWay = true := by simp [isUnderWay, hp]
    -- from now on it is notified, so `alert` asks nothing of it
    refine ⟨h.started, fun _ => h.timely hway, ?_, nofun, nofun⟩
    rintro _ _ ⟨⟩
    exact h.asleep n wakeAt hp

/-- Time does not pass the moment at which a receive wakes up. -/
theorem rest (h : r.Sound l now unannounced) {time : Nat} (hle : now ≤ time)
    (hrest : r.restsUntil time = true) : r.Sound l time unannounced := by
  unfold restsUntil at hrest
  have hstarted : r.started ≤ time := Nat.le_trans h.started hle
  -- only a sleeper and a receive that has ended let time pass
  split at hrest
  · next wakeAt hp =>
    have htime : time ≤ wakeAt := by simpa using hrest
    have hwake := (h.asleep _ _ hp).2
    refine ⟨hstarted, fun _ => Nat.le_trans htime hwake, ?_, h.alert, h.ended⟩
    intro n w hn
    rw [hp] at hn
    obtain ⟨-, rfl⟩ := Phase.asleep.inj hn
    exact ⟨htime, hwake⟩
  · next result t hp =>
    refine ⟨hstarted, ?_, ?_, h.alert, h.ended⟩
    · simp [isUnderWay, hp]
    · simp [hp]
  all_goals exact nomatch hrest

end Sound

/-- Looking keeps the times. -/
theorem Sound.next {t : Transport} (h : r.Sound (t.queue r.queue) now unannounced) :
    (r.next t now).1.Sound ((r.next t now).2.queue r.queue) now unannounced := by
  unfold Receive.next
  cases hp : r.phase with
  | starting =>
    have hway : r.isUnderWay = true := by simp [isUnderWay, hp]
    exact ⟨h.started, fun _ => h.timely hway, nofun, nofun, nofun⟩
  | ended result time => exact h
  | asleep n wakeAt =>
    have hway : r.isUnderWay = true := by simp [isUnderWay, hp]
    simp only
    split
    · exact ⟨h.started, fun _ => h.timely hway, nofun, nofun, nofun⟩
    · exact h
  | registered n =>
    have hdeadline : now ≤ r.deadline := h.timely (by simp [isUnderWay, hp])
    rcases t.look_cases r.queue r.deadline now with ⟨front, q, back, -, -, -, hlook⟩ |
      ⟨-, hover, hlook⟩ | ⟨-, -, wakeAt, hlt, hle, hleast, -, hlook⟩
    -- it takes a message, and ends in time
    · simp only [hlook]
      refine ⟨h.started, nofun, nofun, nofun, ?_⟩
      rintro _ _ ⟨⟩
      exact ⟨h.started, hdeadline, nofun⟩
    -- the timeout is over, and it ends at the deadline exactly
    · simp only [hlook]
      refine ⟨h.started, nofun, nofun, nofun, ?_⟩
      rintro _ _ ⟨⟩
      exact ⟨h.started, hdeadline, fun _ => Nat.le_antisymm hdeadline hover⟩
    -- it sleeps until something falls due or the deadline comes
    · simp only [hlook]
      refine ⟨h.started, fun _ => hdeadline, ?_, ?_, nofun⟩
      · rintro _ _ ⟨⟩
        exact ⟨Nat.le_of_lt hlt, hle⟩
      · rintro _ ⟨⟩ -
        exact hleast

namespace Thrifty

/-- Two looks besides one for each message and each notification are enough to start with. -/
theorem start (queue : String) (timeout started : Nat) :
    Thrifty { queue, timeout, started, allowance := l.length + unannounced + 2 } l now
      unannounced := by
  apply Or.inl
  simp only [spent, notified, Bool.toNat_false]
  omega

/-- A receive stays thrifty as long as its allowance grows with what is in store for it, and a due
message that it does not find any more pays for the look. -/
theorem mono {r' : Receive} {now' unannounced' : Nat} (h : r.Thrifty l now unannounced)
    (hp : r'.phase = r.phase) (hd : r'.deadline = r.deadline) (hnow : now ≤ now')
    (hlooks : r'.looks + r.allowance ≤ r.looks + r'.allowance)
    (hspent : r'.spent l' unannounced' + r.allowance ≤ r.spent l unannounced + r'.allowance)
    (hdue : ∀ time, (∃ q ∈ l, q.dueAt ≤ time) → (∃ q ∈ l', q.dueAt ≤ time) ∨
      r'.spent l' unannounced' + r.allowance + 1 ≤ r.spent l unannounced + r'.allowance) :
    r'.Thrifty l' now' unannounced' := by
  have hearly : (∃ q ∈ l', q.dueAt ≤ now) → ∃ q ∈ l', q.dueAt ≤ now' :=
    fun ⟨q, hq, hle⟩ => ⟨q, hq, Nat.le_trans hle hnow⟩
  have hsame := hdue now
  unfold Thrifty at h ⊢
  -- by the phase, which says what its looks are for
  rw [hp]
  cases hphase : r.phase with
  | starting | registered n =>
    simp only [hphase, hd] at h ⊢
    rcases h with h | ⟨h, hover | hq⟩
    · exact .inl (by omega)
    · exact .inr ⟨by omega, .inl (by omega)⟩
    · -- the message on account of which it looks is still there, or the look is saved
      rcases hsame hq with hq | hpaid
      · exact .inr ⟨by omega, .inr (hearly hq)⟩
      · exact .inl (by omega)
  | asleep n wakeAt =>
    simp only [hphase, hd] at h ⊢
    refine ⟨by omega, fun hw => ?_⟩
    rcases h.2 hw with h' | hq
    · exact .inl (by omega)
    · rcases hdue wakeAt hq with hq | hpaid
      · exact .inr hq
      · exact .inl (by omega)
  | ended result time =>
    simp only [hphase] at h ⊢
    omega

/-- An accepted dispatch pays for its notification and for its messages. -/
theorem expect (h : r.Thrifty l now unannounced) (hl : l <+: l') :
    (r.expect (l'.length - l.length)).Thrifty l' now (unannounced + 1) := by
  have hlen := hl.length_le
  apply h.mono
  · rfl
  · rfl
  · exact Nat.le_refl _
  · simp only [Receive.expect]
    omega
  · simp only [spent, Receive.expect, notified]
    omega
  · intro time hq
    obtain ⟨q, hq, hdue⟩ := hq
    exact .inl ⟨q, hl.subset hq, hdue⟩

/-- Time costs nothing. -/
theorem rest (h : r.Thrifty l now unannounced) {time : Nat} (hle : now ≤ time) :
    r.Thrifty l time unannounced :=
  h.mono rfl rfl hle (Nat.le_refl _) (Nat.le_refl _) fun _ => .inl

/-- What was in store as an announcement is now in store as a notification. -/
theorem notify (h : r.Thrifty l now (unannounced + 1)) : r.notify.Thrifty l now unannounced := by
  rcases r.notify_eq with ⟨heq, -⟩ | ⟨n, hp, heq⟩ | ⟨n, wakeAt, hp, heq⟩
  · rw [heq]
    apply h.mono rfl rfl (Nat.le_refl _) (Nat.le_refl _)
    · simp only [spent]
      omega
    · exact fun _ => .inl
  -- the announcement that was outstanding is the notification that has come
  · rw [heq]
    unfold Thrifty at h ⊢
    simp only [hp, spent, notified, deadline, Bool.toNat_true] at h ⊢
    apply h.imp
    · omega
    · intro h
      exact ⟨by omega, h.2⟩
  · rw [heq]
    unfold Thrifty at h ⊢
    simp only [hp, spent, notified, deadline, Bool.toNat_true] at h ⊢
    refine ⟨by omega, fun hw => (h.2 hw).imp_left ?_⟩
    omega

end Thrifty

/-- A look that finds nothing and is not the last one has been paid for. -/
theorem Thrifty.next {t : Transport} (h : r.Thrifty (t.queue r.queue) now unannounced) :
    (r.next t now).1.Thrifty ((r.next t now).2.queue r.queue) now unannounced := by
  unfold Receive.next
  cases hp : r.phase with
  | starting =>
    unfold Thrifty at h ⊢
    simp only [hp, spent, notified, deadline] at h ⊢
    exact h
  | ended result time => exact h
  | asleep n wakeAt =>
    simp only
    split
    · next hwake =>
      unfold Thrifty at h ⊢
      simp only [hp, spent, notified, deadline, Bool.toNat_false] at h ⊢
      obtain ⟨hspent, hearly⟩ := h
      -- a notification was in store; else the deadline has come, or the message that fell due
      rcases hwake with rfl | hwake
      · rw [Bool.toNat_true] at hspent
        exact .inl (by omega)
      · by_cases hw : wakeAt < r.started + r.timeout
        · rcases hearly hw with hpaid | ⟨q, hq, hdue⟩
          · exact .inl (by omega)
          · exact .inr ⟨by omega, .inr ⟨q, hq, by omega⟩⟩
        · exact .inr ⟨by omega, .inl (by omega)⟩
    · exact h
  | registered n =>
    unfold Thrifty at h
    simp only [hp, spent, notified] at h
    rcases t.look_cases r.queue r.deadline now with ⟨front, q, back, hq, -, -, hlook⟩ |
      ⟨-, hover, hlook⟩ | ⟨hnone, hbefore, wakeAt, hlt, hle, hleast, hwake, hlook⟩
    · simp only [hlook]
      show r.looks + 1 ≤ r.allowance
      omega
    · simp only [hlook]
      show r.looks + 1 ≤ r.allowance
      omega
    · -- nothing was due and there is time left, so two looks were in store
      have hpaid : r.looks + n.toNat + unannounced + (t.queue r.queue).length + 2 ≤
          r.allowance := by
        rcases h with h | ⟨-, hover | ⟨q, hq, hdue⟩⟩
        · exact h
        · omega
        · have := hnone q hq
          omega
      simp only [hlook]
      unfold Thrifty
      simp only [looked, spent, notified, deadline]
      refine ⟨by omega, fun hw => .inr ?_⟩
      obtain ⟨q, hq, hdue⟩ := hwake hw
      exact ⟨q, hq, Nat.le_of_eq hdue⟩

end Receive

variable {s : Reception}

end Reception

end Outbox
