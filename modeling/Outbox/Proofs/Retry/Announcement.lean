import Mathlib.Data.List.Basic
import Outbox.Proofs.Contract.Timely
import Outbox.Proofs.Opened

/-!
# How the control message of a session reads

Whatever is done with a session between its opening and its commit, the control message that the
commit sends is that of the opening: the processor reads the durations of the opening out of it,
with the time at which it was sent. But an opening may have durations that can be written and not
read, and then the processor takes the message for malformed.

* `Countdown.read_controlMessage`    how a control message reads
* `Session.Outboxed.read_announced`  how the one reads that a commit sends
-/

namespace Outbox

open Program Time

namespace Countdown

variable {c : Countdown} {id : String} {maximum increment : Nat} {timeSent : Option Instant}

/-- The first message to announce a session is its first attempt. -/
theorem attempt_initial (h : initial id maximum increment timeSent = .ok c) : c.attempt = 1 := by
  unfold initial at h
  split at h
  -- two durations have to be spans; the attempt is the same for all of them
  · next c' hc =>
    obtain rfl := Except.ok.inj h
    obtain ⟨remaining, -, hrest⟩ := Option.bind_eq_some_iff.1 hc
    obtain ⟨delay, -, hsome⟩ := Option.bind_eq_some_iff.1 hrest
    obtain rfl := Option.some.inj hsome
    rfl
  · exact nomatch h

/-- A control message with durations in reach reads as it was written. -/
theorem read_controlMessage (metadata : Headers) (h : c.Writable) :
    read (controlMessage c metadata) =
      .ok (some { c with timeSent := c.timeSent.map Instant.toMicros }) :=
  read_write _ h { id := c.sessionId }

/-- One with a duration out of reach is malformed. -/
theorem read_controlMessage_of_not_inReach (metadata : Headers)
    (hyear : ∀ t, c.timeSent = some t → 0 ≤ t.year ∧ t.year ≤ 9999)
    (h : ¬ (Duration.inReach c.remaining.nanos = true ∧
      Duration.inReach c.increment.nanos = true)) :
    ∃ text, read (controlMessage c metadata) = .error (.badDuration text) :=
  ⟨_, (read_write_eq _ { id := c.sessionId } hyear).trans
    (if_neg fun hfits => h ⟨hfits.1, hfits.2.1⟩)⟩

end Countdown

namespace Session.Outboxed

variable {may : {β : Type} → Call β → β → Prop} {opened calls : List Exchange}
  {uses : List Use} {opening : Opening} {s₀ s₁ s : Outboxed}
  {r : Outboxed × Except CallError Unit}

/-- The commit of a session hands one operation over, its announcement, and that is read back with
the budget and the first delay of the opening when both are 64-bit numbers. When one of them is not,
it cannot be read. -/
theorem read_announced (hopen : (s₀.openWith opening).Runs may opened (s₁, .ok ()))
    (huses : Used may (.outboxed s₁) uses (.outboxed s)) (hcommit : s.commit.Runs may calls r)
    (hlive : ⟨.isCancelled, false⟩ ∈ calls) :
    ∃ id now op, s₁.sessionId? = some id ∧ ⟨.now, now⟩ ∈ calls ∧ dispatches calls = [[op]] ∧
      op.IsAnnouncement s₁.processorAddress ∧ op.message.id = id ∧
      (0 ≤ now.year ∧ now.year ≤ 9999 →
        (opening.Fits64 → ∃ c, Countdown.read op.message = .ok (some c) ∧ c.sessionId = id ∧
          c.attempt = 1 ∧ c.remaining.nanos = opening.commitBudget ∧
          c.increment.nanos = opening.firstDelay ∧ c.timeSent = some now.toMicros) ∧
        (¬ opening.Fits64 → ∃ text,
          Countdown.read op.message = .error (.badDuration text))) := by
  obtain ⟨id, countdown, tx, hvalid, hcountdown, rfl⟩ := runs_open hopen
  -- a session that is over refuses its commit, and one that is open is the one that was opened
  obtain ⟨batch, hs⟩ | ⟨e, hover⟩ := huses.since rfl (since_self _)
  · obtain rfl := Session.outboxed.inj hs
    obtain ⟨-, hnot, -⟩ | ⟨-, now, hnow, hdispatches⟩ := runs_commit rfl hcommit
    · exact absurd hlive hnot
    · obtain ⟨hid, hremaining, hincrement⟩ := Countdown.nanos_initial hcountdown
      -- read back: every part of the countdown can be written
      refine ⟨id, now, _, rfl, hnow, hdispatches, isAnnouncement _ _ _, hid, fun hyear => ⟨?_, ?_⟩⟩
      · intro hfits
        have hread := Countdown.read_controlMessage opening.metadata
          (Session.Opened.writable ⟨id, countdown, opening, some tx⟩ hfits hvalid hcountdown hyear)
        have hattempt := Countdown.attempt_initial hcountdown
        exact ⟨_, hread, hid, hattempt, hremaining, hincrement, rfl⟩
      -- not read back: one of the two durations is out of reach
      · intro hlong
        refine Countdown.read_controlMessage_of_not_inReach _ (fun t ht => ?_)
          fun hreach => hlong ?_
        · obtain rfl := Option.some.inj ht
          exact hyear
        · rw [Duration.inReach_iff, Duration.inReach_iff] at hreach
          simp only [hremaining, hincrement] at hreach
          exact ⟨by omega, by omega⟩
  · have hrefused : s.phase.requireOpen = .error e := Phase.permits_of_refusal hover .commit
    obtain ⟨-, -, rfl, -⟩ | ⟨hallowed, -⟩ | ⟨hallowed, -⟩ := runs_gate hcommit
    · exact nomatch hlive
    · exact nomatch hrefused.symm.trans hallowed
    · exact nomatch hrefused.symm.trans hallowed

/-! ### A budget of fifteen seconds, and one of three centuries -/

/-- Noon of the first of May 2024. -/
def mayNoon : World where
  clock := { start := .ofNanos 1714564800000000000 }
  database := (Database.newStaging {} "db").2

/-- A session that is to be opened then. -/
def unopened : Outboxed :=
  { store := "db", staging := 0, router := {}, processorAddress := "processor" }

/-- The opening with a commit budget. -/
def budgeted (budget : Nat) : Opening := { sessionId := some "session", commitBudget := budget }

/-- How the session opens with it. -/
def opensWith (budget : Nat) : (Outboxed × Except CallError Unit) × World :=
  mayNoon.run false (unopened.openWith (budgeted budget))

/-- How its commit ends. -/
def commitsAfter (budget : Nat) : (Outboxed × Except CallError Unit) × World :=
  (opensWith budget).2.run false (opensWith budget).1.1.commit

/-- What its commit calls. -/
def commitCalls (budget : Nat) : List Exchange :=
  (opensWith budget).1.1.commit.trace (World.answer false) (opensWith budget).2

/-- What the processor reads out of each message that its commit sends. -/
def readsOf (budget : Nat) : List (List (Except HeaderError (Option Countdown))) :=
  (dispatches (commitCalls budget)).map (·.map fun op => Countdown.read op.message)

/-- A session with a budget of fifteen seconds, opened and committed at noon. -/
theorem read_announced_fifteenSeconds :
    (unopened.openWith (budgeted 15000000000)).Runs (fun _ _ => True)
      ((unopened.openWith (budgeted 15000000000)).trace (World.answer false) mayNoon)
      ((opensWith 15000000000).1.1, .ok ()) ∧
    (opensWith 15000000000).1.1.commit.Runs (fun _ _ => True) (commitCalls 15000000000)
      (commitsAfter 15000000000).1 ∧
    ⟨.isCancelled, false⟩ ∈ commitCalls 15000000000 ∧ (budgeted 15000000000).Fits64 ∧
    (∃ now op, ⟨.now, now⟩ ∈ commitCalls 15000000000 ∧
      dispatches (commitCalls 15000000000) = [[op]] ∧ op.IsAnnouncement "processor" ∧
      (0 ≤ now.year ∧ now.year ≤ 9999 → ∃ c, Countdown.read op.message = .ok (some c) ∧
        c.attempt = 1 ∧ c.remaining.nanos = 15000000000 ∧ c.increment.nanos = 2000000000 ∧
        c.timeSent = some now.toMicros)) ∧
    readsOf 15000000000 = [[.ok (some
      { sessionId := "session", attempt := 1, remaining := { nanos := 15000000000 }
        increment := { nanos := 2000000000 }, timeSent := some (.ofNanos 1714564800000000000) })]]
      := by
  -- the open, the commit and the token are played on one world
  have hopen : (unopened.openWith (budgeted 15000000000)).Runs (fun _ _ => True)
      ((unopened.openWith (budgeted 15000000000)).trace (World.answer false) mayNoon)
      ((opensWith 15000000000).1.1, .ok ()) := by
    have hok : (opensWith 15000000000).1.2 = .ok () := by decide +kernel
    rw [← hok]
    exact runs_trace (fun _ _ => trivial) _ _
  have hcommit : (opensWith 15000000000).1.1.commit.Runs (fun _ _ => True)
      (commitCalls 15000000000) (commitsAfter 15000000000).1 :=
    runs_trace (fun _ _ => trivial) _ _
  have hlive : ⟨.isCancelled, false⟩ ∈ commitCalls 15000000000 := List.mem_cons_self
  have hfits : (budgeted 15000000000).Fits64 := ⟨by decide, by decide⟩
  obtain ⟨id, now, op, -, hnow, hdispatches, hop, -, hread⟩ :=
    read_announced hopen (.none _) hcommit hlive
  refine ⟨hopen, hcommit, hlive, hfits, ⟨now, op, hnow, hdispatches, hop, fun hyear => ?_⟩,
    by decide +kernel⟩
  obtain ⟨c, hc, -, hattempt, hremaining, hincrement, hsent⟩ := (hread hyear).1 hfits
  exact ⟨c, hc, hattempt, hremaining, hincrement, hsent⟩

/-- A session opens with a budget of three centuries and is committed, and the processor cannot read
its control message. -/
theorem unreadable_announced_threeCenturies :
    (opensWith 9223372036854775808).1.2 = .ok () ∧
    (commitsAfter 9223372036854775808).1.2 = .ok () ∧
    readsOf 9223372036854775808 = [[.error (.badDuration "PT9223372036.854775808S")]] := by
  decide +kernel

end Session.Outboxed

end Outbox
