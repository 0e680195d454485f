/-!
# Queues

A queue is a list in order of arrival. The next element to be taken need not be the first one: it
is the first one that is fit to be taken, and the others keep their order.

* `takeFirst?_eq_some_iff`  what is taken, and what is left
-/

namespace Outbox.Queue

/-- Takes the first element that satisfies `p` out of a list. -/
def takeFirst? {α : Type} (p : α → Bool) : List α → Option (α × List α)
  | [] => none
  | a :: rest => if p a then some (a, rest) else (takeFirst? p rest).map fun (b, r) => (b, a :: r)

/-- The element taken is the first that satisfies `p`, and the others keep their order. -/
theorem takeFirst?_eq_some_iff {α : Type} {p : α → Bool} {l rest : List α} {a : α} :
    takeFirst? p l = some (a, rest) ↔
      ∃ front back, l = front ++ a :: back ∧ rest = front ++ back ∧ p a = true ∧
        ∀ b ∈ front, p b = false := by
  induction l generalizing rest with
  | nil => simp [takeFirst?]
  | cons x xs ih =>
    unfold takeFirst?
    split
    · next hx =>
      constructor
      · rintro ⟨⟩
        exact ⟨[], _, rfl, rfl, hx, by simp⟩
      · rintro ⟨front, back, hl, hr, ha, hf⟩
        -- the head is fit, so nothing can stand before what is taken
        cases front with
        | nil => simp_all
        | cons y ys =>
          obtain ⟨rfl, -⟩ := List.cons.inj hl
          simp_all
    · next hx =>
      constructor
      · intro h
        -- what is taken stands in the tail, and the head stays in front of the others
        obtain ⟨⟨b, r⟩, hb, heq⟩ := Option.map_eq_some_iff.1 h
        obtain ⟨rfl, rfl⟩ := Prod.mk.inj heq
        obtain ⟨front, back, rfl, rfl, ha, hf⟩ := ih.1 hb
        exact ⟨x :: front, back, rfl, rfl, ha, by simpa using ⟨by simpa using hx, hf⟩⟩
      · rintro ⟨front, back, hl, hr, ha, hf⟩
        -- the head is not fit, so it stands before what is taken
        cases front with
        | nil => simp_all
        | cons y ys =>
          obtain ⟨rfl, rfl⟩ := List.cons.inj hl
          subst hr
          rw [ih.2 ⟨ys, back, rfl, rfl, ha, fun b hb => hf b (by simp [hb])⟩]
          rfl

end Outbox.Queue
