import Outbox.Program

/-!
# Runs of a program

A run of a program is the list of its calls, each with the reply that it got, together with the
result. What the collaborators reply is left open but for a relation `may`, so a statement about all
runs holds whatever they do.

* `runs_bind`     a run of two programs in sequence is a run of one and then of the other
* `Leads.runs`    a run so far goes on to a run of the whole program
* `Only.of_runs`  what is true of the calls that a program can make
* `Obeys.of_runs` what is true of its calls and of its result
* `runs_trace`    collaborators that answer every call from a state bring about one run
-/

namespace Outbox

/-- What a call is about. -/
inductive Call.Kind where
  /-- The clock, the source of ids and the caller are no collaborators. -/
  | inward
  | beginTransaction
  | attach
  | openStaging
  | complete
  | closeStaging
  | addRecord
  | commit
  | rollback
  | getRecord
  | setDispatched
  | dispatch
  | handle
  | observe
deriving DecidableEq

/-- What a call is about; to cancel a call does not change it. -/
def Call.kind {β : Type} : Call β → Call.Kind
  | .now | .freshId | .isCancelled => .inward
  | .beginTransaction _ _ => .beginTransaction
  | .attach _ _ _ => .attach
  | .openStaging _ _ => .openStaging
  | .complete _ => .complete
  | .closeStaging _ => .closeStaging
  | .addRecord _ _ _ => .addRecord
  | .commit _ => .commit
  | .rollback _ => .rollback
  | .getRecord _ _ => .getRecord
  | .setDispatched _ _ => .setDispatched
  | .dispatch _ => .dispatch
  | .handle _ => .handle
  | .observe _ => .observe
  | .unlessCancelled c => c.kind

/-- One call with its reply. -/
structure Exchange : Type 1 where
  {β : Type}
  call : Call β
  reply : β

/-- What the call of an exchange is about. -/
def Exchange.kind (e : Exchange) : Call.Kind := e.call.kind

namespace Program

variable {α β : Type} {may : {β : Type} → Call β → β → Prop} {calls : List Exchange} {a : α} {b : β}

/-- The runs of a program in which every reply is one that its call `may` get. -/
inductive Runs (may : {β : Type} → Call β → β → Prop) : Program α → List Exchange → α → Prop
  | done (a : α) : Runs may (done a) [] a
  | call {β : Type} {c : Call β} {next : β → Program α} {reply : β} {calls : List Exchange}
      {a : α} : may c reply → Runs may (next reply) calls a →
      Runs may (call c next) (⟨c, reply⟩ :: calls) a

/-- A program that is done has made no call. -/
theorem runs_done {result : α} :
    (done result).Runs may calls a ↔ calls = [] ∧ a = result := by
  constructor
  · rintro ⟨⟩
    exact ⟨rfl, rfl⟩
  · rintro ⟨rfl, rfl⟩
    exact .done _

/-- A program that begins with a call makes this call and goes on with the reply. -/
theorem runs_call {c : Call β} {next : β → Program α} : (call c next).Runs may calls a ↔
    ∃ reply rest, may c reply ∧ (next reply).Runs may rest a ∧ calls = ⟨c, reply⟩ :: rest := by
  constructor
  · intro h
    cases h with
    | call hreply hrest => exact ⟨_, _, hreply, hrest, rfl⟩
  · rintro ⟨reply, rest, hreply, hrest, rfl⟩
    exact .call hreply hrest

/-- One program after the other. -/
theorem runs_bind {p : Program α} {f : α → Program β} : (p >>= f).Runs may calls b ↔
    ∃ first second a, p.Runs may first a ∧ (f a).Runs may second b ∧ calls = first ++ second := by
  -- on the first program, call by call
  induction p generalizing calls with
  | done result =>
    rw [done_bind]
    -- the first part is done, so all calls are those of the second
    constructor
    -- the empty list of calls is the only one of a program that is done
    · intro h
      exact ⟨[], calls, result, .done result, h, rfl⟩
    · rintro ⟨first, second, a, hfirst, hsecond, rfl⟩
      obtain ⟨rfl, rfl⟩ := runs_done.1 hfirst
      exact hsecond
  | call c next ih =>
    rw [call_bind, runs_call]
    -- the first call belongs to the first part
    constructor
    -- the reply decides how it goes on, so the induction is for the program behind that reply
    · rintro ⟨reply, rest, hreply, hrest, rfl⟩
      obtain ⟨first, second, a, hfirst, hsecond, heq⟩ := (ih reply).1 hrest
      rw [heq]
      exact ⟨_, second, a, .call hreply hfirst, hsecond, rfl⟩
    · rintro ⟨first, second, a, hfirst, hsecond, rfl⟩
      obtain ⟨reply, rest, hreply, hrest, rfl⟩ := runs_call.1 hfirst
      exact ⟨reply, rest ++ second, hreply, (ih reply).2 ⟨rest, second, a, hrest, hsecond, rfl⟩,
        rfl⟩

/-- A run so far: after some calls this is what is left of the program. -/
inductive Leads (may : {β : Type} → Call β → β → Prop) (p : Program α) :
    List Exchange → Program α → Prop
  | start : Leads may p [] p
  | next {β : Type} {c : Call β} {next : β → Program α} {reply : β} {calls : List Exchange} :
      Leads may p calls (call c next) → may c reply →
      Leads may p (calls ++ [⟨c, reply⟩]) (next reply)

/-- A run so far and a run of what is left are a run of the program. -/
theorem Leads.runs {p rest : Program α} {later : List Exchange} (h : p.Leads may calls rest)
    (hrest : rest.Runs may later a) : p.Runs may (calls ++ later) a := by
  -- at the latest call: its reply leads to what is left
  induction h generalizing later with
  | start => exact hrest
  | next _ hreply ih =>
    rw [List.append_assoc]
    exact ih (.call hreply hrest)

/-- The program makes only calls that are about what is allowed. -/
def Only (allowed : Call.Kind → Prop) : Program α → Prop
  | done _ => True
  | call c next => allowed c.kind ∧ ∀ reply, (next reply).Only allowed

/-- What two parts make of calls of allowed kinds only, both together do. -/
theorem Only.bind {allowed : Call.Kind → Prop} {p : Program α} {f : α → Program β}
    (hp : p.Only allowed) (hf : ∀ a, (f a).Only allowed) : (p >>= f).Only allowed := by
  -- call by call, until the second program stands where the first is done
  induction p with
  | done a => exact hf a
  | call c next ih => exact ⟨hp.1, fun reply => ih reply (hp.2 reply)⟩

/-- The calls of a run are of the kinds that the program makes. -/
theorem Only.of_runs {allowed : Call.Kind → Prop} {p : Program α} (hp : p.Only allowed)
    (h : p.Runs may calls a) : ∀ e ∈ calls, allowed e.kind := by
  induction h with
  | done a => exact fun e he => absurd he List.not_mem_nil
  | call _ _ ih => exact List.forall_mem_cons.2 ⟨hp.1, ih (hp.2 _)⟩

/-- Whatever the collaborators reply, the calls of the program satisfy `P` and its result `Q`. -/
def Obeys (P : {β : Type} → Call β → Prop) (Q : α → Prop) : Program α → Prop
  | done a => Q a
  | call c next => P c ∧ ∀ reply, (next reply).Obeys P Q

section

variable {P : {β : Type} → Call β → Prop} {Q Q' : α → Prop}

/-- What follows an obedient program may build on its result. -/
theorem Obeys.bind {R : β → Prop} {p : Program α} {f : α → Program β} (hp : p.Obeys P Q)
    (hf : ∀ a, Q a → (f a).Obeys P R) : (p >>= f).Obeys P R := by
  induction p with
  | done a => exact hf a hp
  | call c next ih => exact ⟨hp.1, fun reply => ih reply (hp.2 reply)⟩

/-- A result may be described less exactly. -/
theorem Obeys.mono {p : Program α} (hp : p.Obeys P Q) (hQ : ∀ a, Q a → Q' a) :
    p.Obeys P Q' := by
  induction p with
  | done a => exact hQ a hp
  | call c next ih => exact ⟨hp.1, fun reply => ih reply (hp.2 reply)⟩

/-- And so may the calls. -/
theorem Obeys.imp {P' : {β : Type} → Call β → Prop} {p : Program α} (hp : p.Obeys P Q)
    (hP : ∀ {β : Type} (c : Call β), P c → P' c) : p.Obeys P' Q := by
  induction p with
  | done a => exact hp
  | call c next ih => exact ⟨hP c hp.1, fun reply => ih reply (hp.2 reply)⟩

/-- Nothing is said of a program that may do anything. -/
theorem obeys_true (p : Program α) : p.Obeys (fun _ => True) fun _ => True := by
  induction p with
  | done a => exact trivial
  | call c next ih => exact ⟨trivial, ih⟩

/-- The calls of a run are as the program obeys, and so is its result. -/
theorem Obeys.of_runs {p : Program α} (hp : p.Obeys P Q) (h : p.Runs may calls a) :
    (∀ e ∈ calls, P e.call) ∧ Q a := by
  induction h with
  | done a => exact ⟨fun e he => absurd he List.not_mem_nil, hp⟩
  | call _ _ ih =>
    obtain ⟨hcalls, hresult⟩ := ih (hp.2 _)
    exact ⟨List.forall_mem_cons.2 ⟨hp.1, hcalls⟩, hresult⟩

end

/-- A program that makes only calls of some kinds obeys that. -/
theorem Only.obeys {allowed : Call.Kind → Prop} {p : Program α} (hp : p.Only allowed) :
    p.Obeys (fun c => allowed c.kind) fun _ => True := by
  induction p with
  | done a => exact trivial
  | call c next ih => exact ⟨hp.1, fun reply => ih reply (hp.2 reply)⟩

/-- And the other way around. -/
theorem Obeys.only {allowed : Call.Kind → Prop} {Q : α → Prop} {p : Program α}
    (hp : p.Obeys (fun c => allowed c.kind) Q) : p.Only allowed := by
  induction p with
  | done a => exact trivial
  | call c next ih => exact ⟨hp.1, fun reply => ih reply (hp.2 reply)⟩

/-- There is a run as long as every call may get some reply. -/
theorem exists_runs (h : ∀ {β : Type} (c : Call β), ∃ reply, may c reply) (p : Program α) :
    ∃ calls a, p.Runs may calls a := by
  induction p with
  | done a => exact ⟨[], a, .done a⟩
  | call c next ih =>
    -- some reply is given, and what follows it has a run
    obtain ⟨reply, hreply⟩ := h c
    obtain ⟨calls, a, hrest⟩ := ih reply
    exact ⟨_, a, .call hreply hrest⟩

/-- A program has a run as soon as the calls that it can make may get some reply. -/
theorem Only.exists_runs {allowed : Call.Kind → Prop} {p : Program α} (hp : p.Only allowed)
    (h : ∀ {β : Type} (c : Call β), allowed c.kind → ∃ reply, may c reply) :
    ∃ calls a, p.Runs may calls a := by
  induction p with
  | done a => exact ⟨[], a, .done a⟩
  | call c next ih =>
    obtain ⟨reply, hreply⟩ := h c hp.1
    obtain ⟨calls, a, hrest⟩ := ih reply (hp.2 reply)
    exact ⟨_, a, .call hreply hrest⟩

/-- Every reply in a run is one that its call may get. -/
theorem Runs.may_of_mem {p : Program α} (h : p.Runs may calls a) :
    ∀ e ∈ calls, may e.call e.reply := by
  induction h with
  | done a => exact fun e he => absurd he List.not_mem_nil
  | call hreply _ ih => exact List.forall_mem_cons.2 ⟨hreply, ih⟩

/-- The calls of a program on collaborators that answer every call from a state. -/
def trace {σ : Type} (answer : {β : Type} → Call β → σ → β × σ) : Program α → σ → List Exchange
  | done _, _ => []
  | call c next, s => ⟨c, (answer c s).1⟩ :: (next (answer c s).1).trace answer (answer c s).2

/-- The trace of two programs, one after the other. -/
theorem trace_bind {σ : Type} (answer : {β : Type} → Call β → σ → β × σ) (p : Program α)
    (f : α → Program β) (s : σ) : (p >>= f).trace answer s =
      p.trace answer s ++ (f (p.run answer s).1).trace answer (p.run answer s).2 := by
  -- call by call, while the state moves on with each answer
  induction p generalizing s with
  | done a => rfl
  | call c next ih =>
    rw [call_bind, trace, ih]
    rfl

/-- The trace of a program is one of its runs. -/
theorem runs_trace {σ : Type} {answer : {β : Type} → Call β → σ → β × σ}
    (h : ∀ {β : Type} (c : Call β) (s : σ), may c (answer c s).1) (p : Program α) (s : σ) :
    p.Runs may (p.trace answer s) (p.run answer s).1 := by
  induction p generalizing s with
  | done a => exact .done a
  | call c next ih => exact .call (h c s) (ih _ _)

end Program

end Outbox
