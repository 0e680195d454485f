import Outbox.World

/-!
# Disciplines

A participant in a shared world makes its calls one at a time, and others change the world in
between. A `Discipline` says what the participant may rely on when it makes its next call, and
what each of its calls must respect. Beside the program runs a standing of type `γ`, which no
program sees: it keeps what the participant holds and what it still owes.

`Program.Keeps` says of the rest of a program that every call in it respects the discipline,
whatever others do in between, and that the result has a property that others cannot undo.

* `keeps_bind`   programs are put together from parts that keep the discipline
* `Keeps.later`  what others do does not break what is left of a program
-/

namespace Outbox

/-- What a participant relies on between its calls, and respects with every call. -/
structure Discipline (γ : Type) where
  /-- What others may make of the world before the next call. -/
  relies : γ → World → World → Prop
  /-- When the world lets a call be made. -/
  admits : {β : Type} → Call β → World → Prop
  /-- What a call must respect in the world in which it is made. -/
  lawful : {β : Type} → γ → Call β → World → Prop
  /-- The standing after a call with its reply. -/
  after : {β : Type} → γ → Call β → β → γ
  relies_trans : ∀ {g u v w}, relies g u v → relies g v w → relies g u w
  relies_self : ∀ {g v w}, relies g v w → relies g w w

namespace Program

variable {α β γ : Type} {D : Discipline γ} {g : γ} {w : World}

/-- What is left of a program keeps the discipline, and its result has the property `post` however
long it waits. -/
def Keeps (D : Discipline γ) (post : γ → α → World → Prop) : Program α → γ → World → Prop
  | done a, g, w => ∀ w', D.relies g w w' → post g a w'
  | call c next, g, w => ∀ w', D.relies g w w' → D.admits c w' →
      D.lawful g c w' ∧ ∀ cancelled,
        (next (World.answer cancelled c w').1).Keeps D post
          (D.after g c (World.answer cancelled c w').1) (World.answer cancelled c w').2

/-- A program that is done keeps the discipline when its result is right in every world that
follows. -/
theorem keeps_done {post : γ → α → World → Prop} {a : α}
    (h : ∀ w', D.relies g w w' → post g a w') : (done a).Keeps D post g w := h

/-- What others do in between does not break what is left of a program. -/
theorem Keeps.later {post : γ → α → World → Prop} {p : Program α} {w' : World}
    (h : p.Keeps D post g w) (hw : D.relies g w w') : p.Keeps D post g w' := by
  cases p with
  | done a => exact fun v hv => h v (D.relies_trans hw hv)
  | call c next => exact fun v hv ha => h v (D.relies_trans hw hv) ha

/-- A program may wait for others before it starts. -/
theorem keeps_of_later {post : γ → α → World → Prop} {p : Program α}
    (h : ∀ w', D.relies g w w' → p.Keeps D post g w') : p.Keeps D post g w := by
  cases p with
  | done a => exact fun v hv => h v hv v (D.relies_self hv)
  | call c next => exact fun v hv ha => h v hv v (D.relies_self hv) ha

/-- The result of a program may be passed through a function. -/
theorem Keeps.map {post : γ → α → World → Prop} {post' : γ → β → World → Prop} {p : Program α}
    {f : α → β} (h : p.Keeps D post g w) (himp : ∀ g a w, post g a w → post' g (f a) w) :
    (p >>= fun a => done (f a)).Keeps D post' g w := by
  induction p generalizing g w with
  | done a => exact fun v hv => himp g a v (h v hv)
  | call c next ih =>
    intro v hv ha
    obtain ⟨hl, hnext⟩ := h v hv ha
    exact ⟨hl, fun cancelled => ih _ (hnext cancelled)⟩

/-- What a program keeps can be weakened. -/
theorem Keeps.weaken {post post' : γ → α → World → Prop} {p : Program α}
    (h : p.Keeps D post g w) (himp : ∀ g a w, post g a w → post' g a w) :
    p.Keeps D post' g w := by
  have hmap := h.map (f := id) himp
  rwa [show (fun a => done (id a)) = (done : α → Program α) from rfl, bind_done] at hmap

/-- One program after the other. -/
theorem keeps_bind {mid : γ → α → World → Prop} {post : γ → β → World → Prop} {p : Program α}
    {f : α → Program β} (h : p.Keeps D mid g w)
    (hf : ∀ g' a w', mid g' a w' → (f a).Keeps D post g' w') : (p >>= f).Keeps D post g w := by
  induction p generalizing g w with
  | done a => exact keeps_of_later fun v hv => hf g a v (h v hv)
  | call c next ih =>
    intro v hv ha
    obtain ⟨hl, hnext⟩ := h v hv ha
    exact ⟨hl, fun cancelled => ih _ (hnext cancelled)⟩

end Program

end Outbox
