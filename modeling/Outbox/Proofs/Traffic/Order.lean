import Mathlib.Data.List.Pairwise
import Outbox.Proofs.Traffic

/-!
# The order of delivery

Messages leave a queue from the middle, as they fall due, so that neither the order of arrival nor
the order of the due times is the order in which they are received. What holds is that a message
is never overtaken by one that arrived later and falls due no earlier.

The book of a queue lists every copy that was ever enqueued there, in the order of arrival and
with its turn: how many copies of the queue had been received before this one. The queue is what
the book has without a turn.

* `mark_eq`             the copy that gets a turn is the earliest arrival that is due
* `InOrder.received`    a receive gives the next turn and overtakes nothing
* `inOrder_after`       every run keeps the order
* `received_in_order`   who is received, in which order, and who cannot have been overtaken
-/

namespace Outbox.Traffic

/-- One copy of an accepted operation in a queue. -/
structure Copy where
  sentAt : Nat
  op : Shipment
  /-- How many copies had been received from the queue before this one, once it is received. -/
  turn : Option Nat := none

namespace Copy

/-- How long the operation was to be held back. -/
def delay (c : Copy) : Nat := c.op.delay.getD 0

/-- What stands in the queue for a copy. -/
def entry (c : Copy) : QueuedMessage := c.op.entryAt c.sentAt

/-- Whether a copy is still in its queue. -/
def waits (c : Copy) : Bool := c.turn.isNone

/-- A copy cannot be overtaken by another: when that one has been received, this one was received
before. -/
def Precedes (a b : Copy) : Prop := ∀ j, b.turn = some j → ∃ i < j, a.turn = some i

@[simp] theorem dueAt_entry (c : Copy) : c.entry.dueAt = c.sentAt + c.delay := rfl

@[simp] theorem message_entry (c : Copy) : c.entry.message = c.op.message := rfl

/-- A copy waits as long as it has no turn. -/
theorem waits_iff {c : Copy} : c.waits = true ↔ c.turn = none := Option.isNone_iff_eq_none

/-- Every copy precedes one that still waits. -/
theorem precedes_of_waits {a b : Copy} (h : b.turn = none) : a.Precedes b := by
  intro j hj
  simp [h] at hj

end Copy

/-- Gives a turn to the earliest copy that is due and waits. -/
def mark (now turn : Nat) : List Copy → List Copy
  | [] => []
  | c :: rest =>
    if c.turn = none ∧ c.entry.dueAt ≤ now then { c with turn := some turn } :: rest
    else c :: mark now turn rest

/-- Every copy that a history has sent to a queue, in the order of arrival, with the turns of
those that have been received. -/
def book (name : String) : List Seen → List Copy
  | [] => []
  | .accepted now ops :: earlier =>
    book name earlier ++ (ops.filter (reaches earlier name)).map (⟨now, ·, none⟩)
  | .received queue _ now :: earlier =>
    if queue = name then mark now (returned name earlier).length (book name earlier)
    else book name earlier
  | _ :: earlier => book name earlier

/-- What waits in a queue according to its book. -/
def waiting (l : List Copy) : List QueuedMessage := (l.filter Copy.waits).map Copy.entry

/-- What waits is read off copy by copy. -/
theorem waiting_append (l k : List Copy) : waiting (l ++ k) = waiting l ++ waiting k := by
  simp [waiting]

/-- New copies wait, as the operations stand. -/
theorem waiting_new (now : Nat) (ops : List Shipment) :
    waiting (ops.map (⟨now, ·, none⟩)) = ops.map (·.entryAt now) := by
  induction ops with
  | nil => rfl
  | cons op rest ih =>
    rw [List.map_cons, List.map_cons, ← ih]
    rfl

/-- A copy that waits stands in its queue. -/
theorem mem_waiting {c : Copy} {l : List Copy} (hc : c ∈ l) (h : c.turn = none) :
    c.entry ∈ waiting l := by
  apply List.mem_map_of_mem
  simp [hc, Copy.waits_iff, h]

/-- The copy that gets a turn is the one that the queue has as its earliest due message. -/
theorem mark_eq {l : List Copy} {front back : List QueuedMessage} {e : QueuedMessage} {now : Nat}
    (hl : waiting l = front ++ e :: back) (he : e.dueAt ≤ now) (hf : ∀ x ∈ front, now < x.dueAt)
    (turn : Nat) :
    ∃ before c rest, l = before ++ c :: rest ∧ c.turn = none ∧ c.entry = e ∧
      waiting before = front ∧ waiting rest = back ∧
      mark now turn l = before ++ { c with turn := some turn } :: rest := by
  induction l generalizing front with
  | nil => simp [waiting] at hl
  | cons a l ih =>
    -- on the copies: the first one waits or not, and if it does, it is the one taken or in front of
    -- it
    by_cases ha : a.turn = none
    · have hw : waiting (a :: l) = a.entry :: waiting l := by simp [waiting, Copy.waits, ha]
      rw [hw] at hl
      cases front with
      | nil =>
        obtain ⟨rfl, rfl⟩ := List.cons.inj hl
        exact ⟨[], a, l, rfl, ha, rfl, rfl, rfl, by simp only [mark, ha, he, and_self, if_true,
          List.nil_append]⟩
      | cons x front =>
        obtain ⟨rfl, htail⟩ := List.cons.inj hl
        -- the first one waits, and it is passed over since it is not due
        have hnot : ¬ a.entry.dueAt ≤ now := by
          have := hf a.entry (by simp)
          omega
        obtain ⟨before, c, rest, rfl, hc, hce, hb, hr, hm⟩ :=
          ih htail fun y hy => hf y (List.mem_cons_of_mem _ hy)
        refine ⟨a :: before, c, rest, rfl, hc, hce, ?_, hr, ?_⟩
        · rw [← hb]
          simp [waiting, Copy.waits, ha]
        · simp only [mark, hnot, and_false, if_false, hm, List.cons_append]
    -- a copy with a turn is no part of the queue, and `mark` passes over it
    · have hw : waiting (a :: l) = waiting l := by simp [waiting, Copy.waits, ha]
      rw [hw] at hl
      obtain ⟨before, c, rest, rfl, hc, hce, hb, hr, hm⟩ := ih hl hf
      refine ⟨a :: before, c, rest, rfl, hc, hce, ?_, hr, ?_⟩
      · rw [← hb]
        simp [waiting, Copy.waits, ha]
      · simp only [mark, ha, false_and, if_false, hm, List.cons_append]

/-- What holds between a queue and its book at all times. -/
structure InOrder (s : Traffic) (name : String) : Prop where
  /-- The queue holds the copies without a turn, in the order of arrival. -/
  queue : s.transport.queue name = waiting (book name s.history)
  /-- Copies arrive as they are sent. -/
  arrival : (book name s.history).Pairwise fun a b => a.sentAt ≤ b.sentAt
  past : ∀ c ∈ book name s.history, c.sentAt ≤ s.now
  order : (book name s.history).Pairwise fun a b => a.entry.dueAt ≤ b.entry.dueAt → a.Precedes b
  /-- Each turn is that of one copy. -/
  turns : ((book name s.history).filterMap (·.turn)).Perm
    (List.range (returned name s.history).length)
  /-- Who has the next turn is received next, and not before it is due. -/
  receipts : ∀ c ∈ book name s.history, ∀ k, c.turn = some k →
    ∃ at', (returned name s.history).reverse[k]? = some (c.op.message, at') ∧
      c.entry.dueAt ≤ at'

namespace InOrder

variable {s : Traffic} {name : String}

/-- An empty book is in order. -/
theorem start (name : String) : InOrder {} name where
  queue := rfl
  arrival := .nil
  past := by simp [book]
  order := .nil
  turns := .refl _
  receipts := by simp [book]

/-- A later state with the same queue has the same book when nothing was sent to the queue and
nothing was received from it. -/
theorem of_eq {u : Traffic} (h : InOrder s name)
    (hq : u.transport.queue name = s.transport.queue name) (hn : s.now ≤ u.now)
    (hb : book name u.history = book name s.history)
    (hr : returned name u.history = returned name s.history) : InOrder u name where
  queue := by rw [hq, hb, h.queue]
  arrival := hb ▸ h.arrival
  past := by
    rw [hb]
    intro c hc
    exact Nat.le_trans (h.past c hc) hn
  order := hb ▸ h.order
  turns := by
    rw [hb, hr]
    exact h.turns
  receipts := by
    rw [hb, hr]
    exact h.receipts

/-- A turn that has been given belongs to a receive of the past. -/
theorem turn_lt (h : InOrder s name) {c : Copy} (hc : c ∈ book name s.history) {k : Nat}
    (hk : c.turn = some k) : k < (returned name s.history).length := by
  have hmem : k ∈ (book name s.history).filterMap (·.turn) := List.mem_filterMap.2 ⟨c, hc, hk⟩
  simpa using h.turns.mem_iff.1 hmem

/-- New copies come last, and none of them has a turn. -/
theorem accepted (h : InOrder s name) (ha : Accounts s) {ops : List Shipment}
    (hok : (s.transport.dispatch s.now ops).1 = .ok ()) :
    InOrder
      { s with
        transport := (s.transport.dispatch s.now ops).2
        history := .accepted s.now ops :: s.history } name := by
  have hnew : ∀ c ∈ (ops.filter (reaches s.history name)).map (Copy.mk s.now · none),
      c.sentAt = s.now ∧ c.turn = none := by
    intro c hc
    obtain ⟨op, -, rfl⟩ := List.mem_map.1 hc
    exact ⟨rfl, rfl⟩
  constructor
  -- the copies that arrive are those that the queue gains, in the same order
  · show _ = waiting (_ ++ _)
    rw [Transport.queue_dispatch_of_ok ha.nodup hok, waiting_append, waiting_new, h.queue]
    simp only [← ha.reaches_eq]
  -- what arrives now was sent now, and nothing in the book was sent later
  · apply List.pairwise_append.2
    refine ⟨h.arrival, List.pairwise_of_forall_mem_list ?_, ?_⟩
    · intro a hma b hmb
      exact Nat.le_of_eq ((hnew a hma).1.trans (hnew b hmb).1.symm)
    · intro a hma b hmb
      rw [(hnew b hmb).1]
      exact h.past a hma
  · intro c hc
    rcases List.mem_append.1 hc with hc | hc
    · exact h.past c hc
    · exact Nat.le_of_eq (hnew c hc).1
  -- a copy without a turn comes before nobody, so only the pairs within the book matter
  · apply List.pairwise_append.2
    refine ⟨h.order, List.pairwise_of_forall_mem_list ?_, ?_⟩
    · intro a _ b hmb _
      exact Copy.precedes_of_waits (hnew b hmb).2
    · intro a _ b hmb _
      exact Copy.precedes_of_waits (hnew b hmb).2
  -- and it adds nothing to the turns that were given
  · have hnone : ((ops.filter (reaches s.history name)).map (Copy.mk s.now · none)).filterMap
        (·.turn) = [] := by
      apply List.filterMap_eq_nil_iff.2
      intro c hc
      exact (hnew c hc).2
    show (List.filterMap _ (_ ++ _)).Perm _
    rw [List.filterMap_append, hnone, List.append_nil]
    exact h.turns
  -- the receipts are those of before
  · intro c hc k hk
    rcases List.mem_append.1 hc with hc | hc
    · exact h.receipts c hc k hk
    · rw [(hnew c hc).2] at hk
      cases hk

/-- A receive gives the next turn to the earliest arrival that is due, and overtakes nothing. -/
theorem received (h : InOrder s name) {rest : Transport} {e : QueuedMessage}
    {front back : List QueuedMessage} {receivers : Nat → Option Receive}
    (hq : s.transport.queue name = front ++ e :: back) (he : e.dueAt ≤ s.now)
    (hf : ∀ x ∈ front, s.now < x.dueAt) (hrest : rest.queue name = front ++ back) :
    InOrder
      { s with
        transport := rest
        receivers
        history := .received name e.message s.now :: s.history } name := by
  rw [h.queue] at hq
  obtain ⟨before, c, after, hbook, hc, rfl, hfront, hback, hm⟩ :=
    mark_eq hq he hf (returned name s.history).length
  have hnew : book name (.received name c.entry.message s.now :: s.history) =
      before ++ { c with turn := some (returned name s.history).length } :: after := by
    simp only [book, if_true, hm]
  have hret : returned name (.received name c.entry.message s.now :: s.history) =
      (c.op.message, s.now) :: returned name s.history := by
    simp [returned]
  have hturns := h.turns
  have harrival := h.arrival
  have horder := h.order
  rw [hbook] at hturns harrival horder
  have hmem : ∀ x, x ∈ before ∨ x ∈ after → x ∈ book name s.history := by
    intro x hx
    rw [hbook]
    exact List.mem_append.2 (hx.imp_right (List.mem_cons_of_mem c))
  have hcmem : c ∈ book name s.history := by simp [hbook]
  refine ⟨?_, ?_, ?_, ?_, ?_, ?_⟩ <;> simp only [hnew, hret]
  -- the queue without its entry is the book without the copy that has the turn now
  · rw [hrest, waiting_append, ← hfront, ← hback]
    simp [waiting, Copy.waits]
  -- arrival and past speak of what a turn does not change
  · simpa [List.pairwise_append, List.pairwise_cons] using harrival
  · intro x hx
    rcases List.mem_append.1 hx with hx | hx
    · exact h.past x (hmem x (.inl hx))
    · rcases List.mem_cons.1 hx with rfl | hx
      · exact h.past c hcmem
      · exact h.past x (hmem x (.inr hx))
  · rw [List.pairwise_append, List.pairwise_cons] at horder ⊢
    obtain ⟨hb, ⟨hca, ha⟩, hba⟩ := horder
    refine ⟨hb, ⟨?_, ha⟩, ?_⟩
    · -- what was received earlier is not due later
      intro b hmb hle j hj
      obtain ⟨i, -, hi⟩ := hca b hmb hle j hj
      rw [hc] at hi
      cases hi
    · intro a hma b hmb hle
      -- against the copy received, and against what came after it
      rcases List.mem_cons.1 hmb with rfl | hmb
      · intro j hj
        obtain rfl := Option.some.inj hj
        -- whoever is in front and due as early does not wait any more
        cases hturn : a.turn with
        | some i => exact ⟨i, h.turn_lt (hmem a (.inl hma)) hturn, rfl⟩
        | none =>
          have hlate := hf a.entry (hfront ▸ mem_waiting hma hturn)
          have hdue : a.entry.dueAt ≤ c.entry.dueAt := hle
          omega
      · exact hba a hma b (List.mem_cons_of_mem c hmb) hle
  · -- the turns so far are 0, …, n - 1 in some order, and now n comes in between
    rw [List.filterMap_append, List.filterMap_cons, hc] at hturns
    rw [List.filterMap_append, List.filterMap_cons, List.length_cons, List.range_succ]
    exact List.perm_middle.trans ((hturns.cons _).trans (List.perm_append_singleton _ _).symm)
  · intro x hx k hk
    -- the new turn is the last receipt, and the earlier ones keep their places
    rw [List.reverse_cons]
    have hkeep : x ∈ book name s.history → ∃ at',
        ((returned name s.history).reverse ++ [(c.op.message, s.now)])[k]? =
          some (x.op.message, at') ∧ x.entry.dueAt ≤ at' := by
      intro hx
      obtain ⟨at', hat, hdue⟩ := h.receipts x hx k hk
      have hlt := h.turn_lt hx hk
      rw [List.getElem?_append_left (by simpa using hlt)]
      exact ⟨at', hat, hdue⟩
    rcases List.mem_append.1 hx with hx | hx
    · exact hkeep (hmem x (.inl hx))
    · rcases List.mem_cons.1 hx with rfl | hx
      · obtain rfl := Option.some.inj hk
        refine ⟨s.now, ?_, he⟩
        rw [List.getElem?_append_right (by simp)]
        simp
      · exact hkeep (hmem x (.inr hx))

/-- What another queue gives out is not in this book. -/
theorem received_other (h : InOrder s name) {other : String} (hn : other ≠ name)
    {l : List QueuedMessage} {m : Message} {receivers : Nat → Option Receive} :
    InOrder
      { s with
        transport := s.transport.setQueue other l
        receivers
        history := .received other m s.now :: s.history } name :=
  h.of_eq (by simp [hn]) (Nat.le_refl _) (by simp [book, hn]) (by simp [returned, hn])

/-- A dispatch keeps the order of every queue, accepted or not. -/
theorem dispatch (h : InOrder s name) (ha : Accounts s) (ops : List Shipment) :
    InOrder (s.dispatch ops) name := by
  cases hr : (s.transport.dispatch s.now ops).1 with
  | ok _ =>
    have hs := h.accepted ha hr
    simpa only [Traffic.dispatch, hr] using hs
  -- a rejected dispatch has put nothing anywhere
  | error e =>
    obtain ⟨-, ht⟩ := Transport.dispatch_of_error hr
    have hs : (s.dispatch ops).history = .rejected ops e :: s.history := by
      simp only [Traffic.dispatch, hr]
    have hq : (s.dispatch ops).transport = { s.transport with rejection := none } := by
      simp only [Traffic.dispatch, hr, ht]
    have hnow : (s.dispatch ops).now = s.now := by simp only [Traffic.dispatch, hr]
    apply h.of_eq
    · rw [hq]
      rfl
    · exact Nat.le_of_eq hnow.symm
    · rw [hs]
      rfl
    · rw [hs]
      rfl

/-- A look keeps the order of every queue, whatever it finds. -/
theorem look (h : InOrder s name) (who : Nat) : InOrder (s.look who) name := by
  unfold Traffic.look
  split
  · exact h
  · next r _ =>
    split
    · next m rest hl =>
      obtain ⟨front, e, back, hq, rfl, he, hf, rfl⟩ :=
        Transport.take?_eq_some_iff.1 (Transport.look_eq_received_iff.1 hl)
      -- a receive from another queue leaves this book alone
      by_cases hn : r.queue = name
      · subst hn
        exact h.received hq he hf (by simp)
      · exact h.received_other hn
    · exact h.of_eq rfl (Nat.le_refl _) rfl rfl
    · exact h

end InOrder

/-- One event keeps the order of a queue. -/
theorem inOrder_step {s : Traffic} {name : String} (h : InOrder s name) (ha : Accounts s)
    (e : Event) : InOrder (s.step e) name := by
  cases e with
  | subscribe topic queue =>
    exact h.of_eq (Transport.queue_subscribe ..) (Nat.le_refl _) rfl rfl
  | rejectNext reason => exact h.of_eq rfl (Nat.le_refl _) rfl rfl
  | dispatch ops => exact h.dispatch ha ops
  | advance duration => exact h.of_eq rfl (Nat.le_add_right ..) rfl rfl
  | receive who queue timeout => exact h.of_eq rfl (Nat.le_refl _) rfl rfl
  | look who => exact h.look who

/-- Every queue is in order after any sequence of events. -/
theorem inOrder_after (events : List Event) (name : String) : InOrder (after events) name := by
  suffices ∀ s : Traffic, InOrder s name → Accounts s → InOrder (events.foldl step s) name from
    this {} (.start name) .start
  induction events with
  | nil => exact fun s h _ => h
  | cons e rest ih => exact fun s h ha => ih _ (inOrder_step h ha e) (accounts_step ha e)

/-- Marking leaves the copies what they are. -/
theorem entry_mark (now turn : Nat) (l : List Copy) :
    (mark now turn l).map Copy.entry = l.map Copy.entry := by
  induction l with
  | nil => rfl
  | cons c rest ih =>
    simp only [mark]
    split
    · rfl
    · simp [ih]

/-- The book lists what has been enqueued, and nothing else. -/
theorem entry_book (name : String) (history : List Seen) :
    (book name history).map Copy.entry = copies name history := by
  -- on the history: a dispatch adds its copies to both lists, a receive only marks one
  induction history with
  | nil => rfl
  | cons seen earlier ih =>
    cases seen with
    | accepted now ops =>
      simp only [book, copies, List.map_append, ih, List.map_map]
      rfl
    | received queue m now =>
      simp only [book, copies]
      split
      · rw [entry_mark, ih]
      · exact ih
    | _ => exact ih

/-- What a look that ends a receive has seen. -/
theorem look_received {s : Traffic} {who now : Nat} {name : String} {m : Message}
    (h : (s.look who).history = .received name m now :: s.history) :
    now = s.now ∧ ∃ front e back, s.transport.queue name = front ++ e :: back ∧
      e.message = m ∧ e.dueAt ≤ s.now ∧ ∀ x ∈ front, s.now < x.dueAt := by
  unfold Traffic.look at h
  -- of the results of a look only a message adds a receipt to the history
  split at h
  · exact absurd h (List.ne_cons_self)
  · split at h
    · next hl =>
      obtain ⟨hname, hm, hnow⟩ := Seen.received.inj (List.cons.inj h).1
      subst hname hm hnow
      obtain ⟨front, e, back, hq, he, hdue, hf, -⟩ :=
        Transport.take?_eq_some_iff.1 (Transport.look_eq_received_iff.1 hl)
      exact ⟨rfl, front, e, back, hq, he, hdue, hf⟩
    · simp at h
    · exact absurd h (List.ne_cons_self)

/-- Whatever the parties do and however many receive from a queue. The queue holds what was sent
to it and has no turn yet, in the order of arrival, and every receive that returns a message has
a turn that no other has. A receive returns the earliest arrival among the messages that are due
at that moment. So no message is returned while an earlier arrival that falls due no later is
still in the queue, and messages with the same delay are returned in the order in which they were
dispatched. -/
theorem received_in_order (events : List Event) (name : String) :
    ((book name (after events).history).map Copy.entry = copies name (after events).history ∧
      (after events).transport.queue name = waiting (book name (after events).history)) ∧
    (((book name (after events).history).filterMap (·.turn)).Perm
        (List.range (returned name (after events).history).length) ∧
      ∀ c ∈ book name (after events).history, ∀ k, c.turn = some k →
        ∃ at', (returned name (after events).history).reverse[k]? = some (c.op.message, at') ∧
          c.entry.dueAt ≤ at') ∧
    (∀ who m now,
      ((after events).look who).history = .received name m now :: (after events).history →
        ∃ before c rest, book name (after events).history = before ++ c :: rest ∧
          c.turn = none ∧ c.op.message = m ∧ c.entry.dueAt ≤ now ∧
          (∀ x ∈ before, x.turn = none → now < x.entry.dueAt) ∧
          book name ((after events).look who).history =
            before ++
              { c with turn := some (returned name (after events).history).length } :: rest) ∧
    (book name (after events).history).Pairwise (fun a b =>
      a.entry.dueAt ≤ b.entry.dueAt → a.Precedes b) ∧
    (book name (after events).history).Pairwise (fun a b => a.delay = b.delay → a.Precedes b) := by
  have h := inOrder_after events name
  refine ⟨⟨entry_book name _, h.queue⟩, ⟨h.turns, h.receipts⟩, ?_, h.order, ?_⟩
  -- the copy that the look takes is the one that its queue has first among the due ones
  · intro who m now hl
    obtain ⟨rfl, front, e, back, hq, rfl, he, hf⟩ := look_received hl
    obtain ⟨before, c, rest, hbook, hc, rfl, rfl, -, hm⟩ :=
      mark_eq (h.queue ▸ hq) he hf (returned name (after events).history).length
    refine ⟨before, c, rest, hbook, hc, rfl, he, ?_, ?_⟩
    · intro x hx hturn
      exact hf x.entry (mem_waiting hx hturn)
    · rw [hl]
      simp only [book, if_true, hm]
  · -- with the same delay the earlier dispatch falls due first
    apply (h.arrival.and h.order).imp
    intro a b hab hdelay
    apply hab.2
    have hsent := hab.1
    simp only [Copy.dueAt_entry, hdelay]
    omega

end Outbox.Traffic
