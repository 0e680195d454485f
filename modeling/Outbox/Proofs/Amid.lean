import Mathlib.Logic.Relation
import Outbox.Proofs.Runs
import Outbox.World

/-!
# Runs amid others

A participant makes its calls on a world in which others are at work: before each call, and after
the last one, the others make any number of moves. What they may do is left open, and may depend
on what the participant has done so far, so that what it holds can be kept from them.

* `amid_bind`   a run of two programs in sequence is a run of one and then of the other
* `amid_run`    others may keep still
-/

namespace Outbox

/-- A call that a participant has made, with the world in which it was made. -/
structure Act : Type 1 where
  {β : Type}
  call : Call β
  world : World

namespace Act

/-- The world that the call has left. -/
def after (a : Act) : World := (World.answer false a.call a.world).2

end Act

namespace Program

variable {α β : Type} {moves : List Act → World → World → Prop} {past acts : List Act}
  {w w' : World} {a : α} {b : β}

/-- The runs of a program amid the moves of others: from a world in which some calls lie in the
past to the one in which others leave things, with the acts of the program and its result. -/
inductive Amid (moves : List Act → World → World → Prop) :
    Program α → List Act → World → List Act → α → World → Prop
  | done {a : α} {past : List Act} {w w' : World} :
      Relation.ReflTransGen (moves past) w w' → Amid moves (done a) past w [] a w'
  | call {β : Type} {c : Call β} {next : β → Program α} {past acts : List Act} {w v w' : World}
      {a : α} : Relation.ReflTransGen (moves past) w v →
      Amid moves (next (World.answer false c v).1) (past ++ [⟨c, v⟩]) (World.answer false c v).2
        acts a w' →
      Amid moves (call c next) past w (⟨c, v⟩ :: acts) a w'

/-- A program that is done makes no calls; others may still move. -/
theorem amid_done {result : α} : (done result).Amid moves past w acts a w' ↔
    acts = [] ∧ a = result ∧ Relation.ReflTransGen (moves past) w w' := by
  constructor
  · intro h
    cases h with
    | done hmoves => exact ⟨rfl, rfl, hmoves⟩
  · rintro ⟨rfl, rfl, hmoves⟩
    exact .done hmoves

/-- A program that starts with a call makes it in a world that others have left. -/
theorem amid_call {c : Call β} {next : β → Program α} :
    (call c next).Amid moves past w acts a w' ↔
      ∃ v rest, Relation.ReflTransGen (moves past) w v ∧
        (next (World.answer false c v).1).Amid moves (past ++ [⟨c, v⟩])
          (World.answer false c v).2 rest a w' ∧
        acts = ⟨c, v⟩ :: rest := by
  constructor
  · intro h
    cases h with
    | call hmoves hrest => exact ⟨_, _, hmoves, hrest, rfl⟩
  · rintro ⟨v, rest, hmoves, hrest, rfl⟩
    exact .call hmoves hrest

/-- A run may begin with moves of others. -/
theorem Amid.earlier {p : Program α} {v : World} (hmoves : Relation.ReflTransGen (moves past) w v)
    (h : p.Amid moves past v acts a w') : p.Amid moves past w acts a w' := by
  cases h with
  | done hlast => exact .done (hmoves.trans hlast)
  | call hfirst hrest => exact .call (hmoves.trans hfirst) hrest

/-- A run may end with moves of others. -/
theorem Amid.later {p : Program α} {v : World} (h : p.Amid moves past w acts a v)
    (hmoves : Relation.ReflTransGen (moves (past ++ acts)) v w') :
    p.Amid moves past w acts a w' := by
  induction h with
  | done hlast =>
    rw [List.append_nil] at hmoves
    exact .done (hlast.trans hmoves)
  | call hfirst _ ih =>
    refine .call hfirst (ih ?_)
    rwa [List.append_assoc]

/-- One program after the other. -/
theorem amid_bind {p : Program α} {f : α → Program β} :
    (p >>= f).Amid moves past w acts b w' ↔
      ∃ first second a v, p.Amid moves past w first a v ∧
        (f a).Amid moves (past ++ first) v second b w' ∧ acts = first ++ second := by
  -- induction on the first program: its calls come first, with the moves of others before each
  induction p generalizing past w acts with
  | done result =>
    rw [done_bind]
    constructor
    · intro h
      -- nothing comes first, so the moves after the first program are those before the second
      exact ⟨[], acts, result, w, .done .refl, by simpa using h, rfl⟩
    · rintro ⟨first, second, a, v, hfirst, hsecond, rfl⟩
      obtain ⟨rfl, rfl, hmoves⟩ := amid_done.1 hfirst
      rw [List.append_nil] at hsecond
      exact hsecond.earlier hmoves
  | call c next ih =>
    rw [call_bind, amid_call]
    constructor
    · rintro ⟨v, rest, hmoves, hrest, rfl⟩
      obtain ⟨first, second, a, u, hfirst, hsecond, rfl⟩ := (ih _).1 hrest
      -- what lies in the past when the second program starts is the same, bracketed otherwise
      rw [List.append_assoc] at hsecond
      exact ⟨⟨c, v⟩ :: first, second, a, u, .call hmoves hfirst, hsecond, rfl⟩
    · rintro ⟨first, second, a, u, hfirst, hsecond, rfl⟩
      obtain ⟨v, rest, hmoves, hrest, rfl⟩ := amid_call.1 hfirst
      refine ⟨v, rest ++ second, hmoves, (ih _).2 ⟨rest, second, a, u, hrest, ?_, rfl⟩, rfl⟩
      rwa [List.append_assoc]

/-- The acts of a program when others keep still. -/
def actsOn : Program α → World → List Act
  | done _, _ => []
  | call c next, w => ⟨c, w⟩ :: (next (World.answer false c w).1).actsOn
    (World.answer false c w).2

/-- A program that runs while others keep still. -/
theorem amid_run (p : Program α) (past : List Act) (w : World) :
    p.Amid moves past w (p.actsOn w) (w.run false p).1 (w.run false p).2 := by
  induction p generalizing past w with
  | done a => exact .done .refl
  | call c next ih => exact .call .refl (ih _ _ _)

end Program

end Outbox
