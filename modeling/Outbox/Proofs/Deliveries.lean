import Outbox.Proofs.Dispatches
import Outbox.Proofs.Runs

/-!
# What deliveries leave behind

A delivery goes on with its own calls alone. So what a whole delivery obeys, what is left of it
obeys in every state that is reached; and when it has ended well it has left a settled record
behind, whatever others have done in between.

* `System.delivery_of_step`             how a delivery comes to where it is
* `System.Fresh.obeys_delivery`         what is left of a delivery obeys what the delivery does
* `System.Fresh.leavesBehind_delivery`  what a delivery that has ended leaves behind
-/

namespace Outbox

open Program

variable {T : Terms} {k : Consumer} {m : Message} {g : Standing} {w : World}

/-- A delivery by whomever. -/
theorem keeps_deliver_leavesBehind (hstore : k.setup.store = T.store) (howes : MayOwe T k m g) :
    (k.deliver m).Keeps (contract T (.delivery k m)) (LeavesBehind T m) g w := by
  cases k with
  | receiver p => exact keeps_receive (k := .receiver p) hstore howes
  | worker worker =>
    refine keeps_bind (keeps_receive (k := .worker worker) hstore howes)
      fun g₁ result w₁ hleft => ?_
    cases result with
    | ok disposition => exact keeps_done fun _ hw => hleft.grow hw.grows
    | error e =>
      -- the copy for the error queue makes no difference to the result
      dsimp only
      rw [ask_bind]
      refine keeps_dispatch (fun _ _ => .inr (.inl ⟨e, rfl⟩)) (fun _ _ _ _ => ?_) fun _ _ _ => ?_
      · exact keeps_done fun _ _ => leavesBehind_error e
      · exact keeps_done fun _ _ => leavesBehind_error e

namespace System

variable {G : Standings} {s : System} {i : Nat}
  {rest : Program (Except DeliveryError Disposition)}

/-- A delivery is where it was before an event, it has just started, or it has made a call. -/
theorem delivery_of_step {e : Event} (ht : (s.step e).tasks[i]? = some (.delivery k m rest)) :
    (s.tasks[i]? = some (.delivery k m rest) ∧
      ∀ cancelled, e = .call i cancelled → ∃ result, rest = .done result) ∨
    (s.tasks.length ≤ i ∧ rest = k.deliver m) ∨
    ∃ (β : Type) (c : Call β) (next : β → Program (Except DeliveryError Disposition))
      (cancelled : Bool), e = .call i cancelled ∧
      s.tasks[i]? = some (.delivery k m (.call c next)) ∧
      rest = next (World.answer cancelled c s.world).1 := by
  -- three ways: it was there and does nothing, it has just begun, or it has moved
  obtain ⟨hold, hdone⟩ | ⟨rfl, hbegins⟩ | ⟨t, ht₀, hmoves⟩ := task_of_step ht
  · refine .inl ⟨hold, fun cancelled heq => ?_⟩
    cases rest with
    | done result => exact ⟨result, rfl⟩
    | call c next => cases hdone cancelled heq
  · refine .inr (.inl ⟨Nat.le_refl _, ?_⟩)
    cases hbegins <;> rfl
  · -- it was a delivery of the message before, so it has made a call
    have hmessage := hmoves.message?_eq
    generalize hd : Task.delivery k m rest = t' at hmoves hmessage
    cases hmoves with
    -- neither a request nor an edit makes a delivery of a session
    | requested staged n session what => cases hd ▸ hmessage
    | edited staged n session e change => cases hd
    | called cancelled hturn =>
      cases Task.hasTurn_of_turn? hturn with
      | busy staged n session what c next => cases hd ▸ hmessage
      | delivery k' m' c next =>
        obtain ⟨rfl, rfl, rfl⟩ := Task.delivery.inj hd
        exact .inr (.inr ⟨_, c, next, cancelled, rfl, ht₀, rfl⟩)

/-- What is left of a delivery obeys what the whole delivery does. -/
theorem Fresh.obeys_delivery {admissible : System → Event → Prop} {s₀ : System}
    {P : Message → {β : Type} → Call β → Prop}
    {Q : Message → Except DeliveryError Disposition → Prop} (hfresh : s₀.Fresh)
    (hall : ∀ k m, (Consumer.deliver m k).Obeys (P m) (Q m)) (h : Reaches admissible s₀ s)
    (ht : s.tasks[i]? = some (.delivery k m rest)) : rest.Obeys (P m) (Q m) := by
  -- by induction on the events; only a call of its own takes a delivery further
  induction h generalizing rest with
  | start => simp [hfresh.tasks] at ht
  | next _ _ ih =>
    obtain ⟨hold, -⟩ | ⟨-, rfl⟩ | ⟨β, c, next, cancelled, -, hcall, rfl⟩ := delivery_of_step ht
    · exact ih hold
    · exact hall k m
    · exact (ih hcall).2 _

/-! ### Results -/

/-- The standing of a delivery stays what it is, unless it makes a call itself. -/
theorem standings_of_delivery {e : Event} (ht : s.tasks[i]? = some (.delivery k m rest))
    (he : ∀ cancelled, e = .call i cancelled → ∃ result, rest = .done result) :
    standings T G s e i = G i := by
  obtain ⟨hlt, -⟩ := List.getElem?_eq_some_iff.1 ht
  -- standings are set for a participant that is new, or for the one whose event it is
  cases e with
  | create store router address => exact Standings.set_of_ne _ _ (Nat.ne_of_lt hlt)
  | request who what =>
    by_cases hi : i = who
    · subst hi
      simp only [standings, ht]
    · have hset : standings T G s (.request who what) = G ∨ ∃ g,
          standings T G s (.request who what) = G.set who g := by
        simp only [standings]
        split
        · exact .inr ⟨_, rfl⟩
        · exact .inl rfl
      obtain hset | ⟨g, hset⟩ := hset
      · rw [hset]
      · rw [hset, Standings.set_of_ne _ _ hi]
  | take worker =>
    simp only [standings]
    cases s.world.transport.take? worker.receiver.address s.world.clock.elapsed with
    | none => rfl
    | some found => exact Standings.set_of_ne _ _ (Nat.ne_of_lt hlt)
  | call who cancelled =>
    simp only [standings]
    cases hturn : s.tasks[who]?.bind (Task.turn? who) with
    | none => rfl
    | some turn =>
      refine Standings.set_of_ne _ _ ?_
      -- a delivery that has ended makes no call, so another participant does
      rintro rfl
      obtain ⟨result, rfl⟩ := he cancelled rfl
      rw [ht] at hturn
      cases hturn
  | edit who e => rfl
  | hand p m' => rfl
  | disturb d => rfl

/-- What happens is what a delivery relies on, unless it makes a call itself. -/
theorem Inv.relies_delivery {e : Event} (h : Inv T G s) (hfits : Fits T s e)
    (ht : s.tasks[i]? = some (.delivery k m rest))
    (he : ∀ cancelled, e = .call i cancelled → ∃ result, rest = .done result) :
    Relies T (G i) s.world (s.step e).world := by
  have hself : Relies T (G i) s.world s.world := .refl h.shared
  cases e with
  | create store router address => exact h.relies_create store router address i
  | request who what =>
    simp only [System.step, System.request]
    split <;> exact hself
  | edit who e =>
    -- an edit is one of an idle session, and a delivery is none
    by_cases hi : i = who
    · subst hi
      obtain heq | ⟨_, _, _, _, _, hidle, -⟩ := h.edit_cases i e
      · rw [System.step, heq]
        exact hself
      · cases ht.symm.trans hidle
    · exact h.relies_edit who e hi
  | take worker =>
    simp only [System.step, System.take]
    split
    · next htake =>
      obtain ⟨-, -, -, -, -, -, -, rfl⟩ := Transport.take?_eq_some_iff.1 htake
      exact relies_transport h.shared rfl
    · exact hself
  | hand p m' => exact hself
  | disturb d => exact relies_disturb h.shared hfits
  | call who cancelled =>
    cases hturn : s.tasks[who]?.bind (Task.turn? who) with
    | none =>
      rw [System.step, call_of_none hturn]
      exact hself
    | some turn =>
      refine h.relies_call cancelled hturn hfits ?_
      -- as above: the call is one of another participant
      rintro rfl
      obtain ⟨result, rfl⟩ := he cancelled rfl
      rw [ht] at hturn
      cases hturn

/-- What is left of every delivery keeps the contract, up to its result. -/
def Delivers (T : Terms) (G : Standings) (s : System) : Prop :=
  ∀ (i : Nat) (k : Consumer) (m : Message) (rest : Program (Except DeliveryError Disposition)),
    s.tasks[i]? = some (.delivery k m rest) →
    rest.Keeps (contract T (Role.delivery k m)) (LeavesBehind T m) (G i) s.world

/-- Every event keeps what deliveries promise to leave behind. -/
theorem Delivers.step {e : Event} (h : s.Delivers T G) (hinv : Inv T G s) (hfits : Fits T s e) :
    (s.step e).Delivers T (standings T G s e) := by
  intro i k m rest ht
  obtain ⟨hold, he⟩ | ⟨-, rfl⟩ | ⟨β, c, next, cancelled, rfl, hcall, rfl⟩ := delivery_of_step ht
  -- it has stayed where it was, in a world that others may have changed
  · rw [standings_of_delivery hold he]
    exact (h i k m rest hold).later (hinv.relies_delivery hfits hold he)
  -- it has just begun, and all of it is still to come
  · obtain ⟨hstore, howes, -⟩ := (hinv.step hfits).keeps i _ ht
    exact keeps_deliver_leavesBehind hstore howes
  -- it has made a call, and the contract says what it leaves after each answer
  · obtain ⟨-, hnext⟩ := h i k m _ hcall s.world (.refl hinv.shared) (admits_delivery hcall hfits)
    have hturn : s.tasks[i]?.bind (Task.turn? i) = some _ :=
      Option.bind_eq_some_iff.2 ⟨_, hcall, rfl⟩
    rw [System.step, call_of_turn hturn]
    simp only [standings, hturn, Standings.set_self]
    exact hnext cancelled

/-- A delivery that has ended has left behind what it should. -/
theorem Fresh.leavesBehind_delivery {s₀ : System} {result : Except DeliveryError Disposition}
    (hfresh : s₀.Fresh) (htime : T.time s₀.world.clock.now) (h : Reaches (Fits T) s₀ s)
    (ht : s.tasks[i]? = some (.delivery k m (.done result))) :
    ∃ g, LeavesBehind T m g result s.world := by
  have hall : ∃ G, Inv T G s ∧ s.Delivers T G := by
    refine h.invariant (I := fun s => ∃ G, Inv T G s ∧ s.Delivers T G) ?_ ?_
    · refine ⟨_, hfresh.inv htime, fun i k m rest ht => ?_⟩
      simp [hfresh.tasks] at ht
    · rintro s e ⟨G, hinv, hdelivers⟩ hfits
      exact ⟨_, hinv.step hfits, hdelivers.step hinv hfits⟩
  obtain ⟨G, hinv, hdelivers⟩ := hall
  exact ⟨G i, hdelivers i k m _ ht s.world (.refl hinv.shared)⟩

end System

end Outbox
