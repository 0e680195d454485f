import Outbox.Call

/-!
# Programs over collaborators

A `Program α` makes calls one after the other, each chosen by the replies before it, and ends
with a result. It says nothing about how the collaborators answer, so one program can be run on
stores and queues in memory, on collaborators that follow a script, or one call at a time between
the calls of others.

* `run_bind`  a run of two programs in sequence is the run of one after the other
-/

namespace Outbox

/-- A sequence of calls that ends with a result. -/
inductive Program (α : Type) : Type 1 where
  | done (result : α)
  | call {β : Type} (call : Call β) (next : β → Program α)

namespace Program

variable {α β γ : Type}

/-- The first program, then the second on its result. -/
def bind (p : Program α) (f : α → Program β) : Program β :=
  match p with
  | done a => f a
  | call c next => call c fun reply => (next reply).bind f

instance : Monad Program where
  pure := done
  bind := bind

/-- The program of one call. -/
def ask (c : Call β) : Program β := call c done

@[simp] theorem pure_eq (a : α) : (pure a : Program α) = done a := rfl

@[simp] theorem done_bind (a : α) (f : α → Program β) : done a >>= f = f a := rfl

@[simp] theorem call_bind (c : Call β) (next : β → Program α) (f : α → Program γ) :
    call c next >>= f = call c fun reply => next reply >>= f := rfl

@[simp] theorem ask_bind (c : Call β) (f : β → Program α) : ask c >>= f = call c f := rfl

/-- Ending after a program adds nothing. -/
@[simp] theorem bind_done (p : Program α) : p >>= done = p := by
  induction p with
  | done a => rfl
  | call c next ih =>
    -- both sides make the same call first; after each reply the induction takes over
    rw [call_bind]
    congr 1
    funext reply
    exact ih reply

/-- Sequences of programs do not depend on how they are bracketed. -/
theorem bind_assoc (p : Program α) (f : α → Program β) (g : β → Program γ) :
    p >>= f >>= g = p >>= fun a => f a >>= g := by
  induction p with
  | done a => rfl
  | call c next ih =>
    simp only [call_bind]
    congr 1
    funext reply
    exact ih reply

instance : LawfulMonad Program :=
  LawfulMonad.mk' Program bind_done (fun _ _ => rfl) bind_assoc

/-- Runs a program on collaborators that answer every call from a state. -/
def run {σ : Type} (answer : {β : Type} → Call β → σ → β × σ) : Program α → σ → α × σ
  | done a, s => (a, s)
  | call c next, s =>
    let (reply, s) := answer c s
    (next reply).run answer s

/-- Runs a program on collaborators that may never answer. -/
def run? {σ : Type} (answer : {β : Type} → Call β → σ → Option (β × σ)) :
    Program α → σ → Option (α × σ)
  | done a, s => some (a, s)
  | call c next, s => do
    let (reply, s) ← answer c s
    (next reply).run? answer s

/-- Runs a program on collaborators that may panic instead of an answer, and then the program makes
no further calls. What it has changed until then stays. -/
def attempt {σ : Type} (answer : {β : Type} → Call β → σ → Option β × σ) :
    Program α → σ → Option α × σ
  | done a, s => (some a, s)
  | call c next, s =>
    match answer c s with
    | (some reply, s) => (next reply).attempt answer s
    | (none, s) => (none, s)

section

variable {σ : Type} (answer : {β : Type} → Call β → σ → β × σ)

@[simp] theorem run_done (a : α) (s : σ) : (done a).run answer s = (a, s) := rfl

@[simp] theorem run_call (c : Call β) (next : β → Program α) (s : σ) :
    (call c next).run answer s = (next (answer c s).1).run answer (answer c s).2 := rfl

/-- The run of two programs in sequence is the run of the first, then of the second on its
result. -/
theorem run_bind (p : Program α) (f : α → Program β) (s : σ) :
    (p >>= f).run answer s = (f (p.run answer s).1).run answer (p.run answer s).2 := by
  induction p generalizing s with
  | done a => rfl
  | call c next ih => exact ih _ _

end

end Program

end Outbox
