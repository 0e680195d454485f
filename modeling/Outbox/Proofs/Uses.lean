import Outbox.Proofs.Life

/-!
# Uses of a session

A caller uses a session by one request after the other. Whatever takes a token passes the same gate
first: the phase of the session must allow it, and the token must not be cancelled. Behind the gate
a message that is sent or published, a `Posting`, is prepared by the router, and what it prepares is
what a session of either kind collects.

* `runs_gate`                the three ways of a run through the gate
* `Session.perform_eq_gate`  every request that takes a token goes through it
* `Session.runs_posting`     what becomes of a posting
* `Session.used_usesIn`      a world brings about one course of uses
-/

namespace Outbox

open Program

/-- A message that is to be sent or published. -/
inductive Posting where
  | send (message : Draft) (how : Sending)
  | publish (message : Draft) (how : Publishing)

/-- The request that has a session collect the message. -/
def Posting.request : Posting → Session.Request
  | .send m how => .send m how
  | .publish m how => .publish m how

/-- A request is a posting, or it is none. -/
theorem Session.Request.posting_or (what : Session.Request) :
    (∃ p : Posting, what = p.request) ∨ ∀ p : Posting, what ≠ p.request := by
  cases what with
  | send m how => exact .inl ⟨.send m how, rfl⟩
  | publish m how => exact .inl ⟨.publish m how, rfl⟩
  | openWith _ | commit | dispose | drop => exact .inr (by rintro ⟨⟩ <;> exact nofun)

/-- The operation that a router makes of a posting. -/
def Router.prepare (r : Router) : Posting → Program (Except Misuse Operation)
  | .send m how => r.operationToSend m how
  | .publish m how => return .ok (← r.operationToPublish m how)

/-- Goes on when the phase allows it and the caller has not cancelled. -/
def gate {α : Type} (allowed : Except Misuse Unit) (refused : CallError → α) (rest : Program α) :
    Program α := do
  match ← passIf allowed with
  | .error e => return refused e
  | .ok () => rest

section

variable {α β : Type} {may : {β : Type} → Call β → β → Prop} {calls : List Exchange} {a : α}
  {allowed : Except Misuse Unit} {refused : CallError → α} {rest : Program α}

/-- What follows a gate follows what is behind it, and a refusal as well. -/
theorem gate_bind (f : α → Program β) :
    gate allowed refused rest >>= f =
      passIf allowed >>= fun passed => match passed with
        | .error e => f (refused e)
        | .ok () => rest >>= f := by
  rw [gate, bind_assoc]
  congr 1
  funext passed
  cases passed <;> rfl

/-- What is not allowed is refused before anything is asked, and a caller who has cancelled is asked
nothing more. -/
theorem runs_gate (h : (gate allowed refused rest).Runs may calls a) :
    (∃ e, allowed = .error e ∧ calls = [] ∧ a = refused (.misuse e)) ∨
    (allowed = .ok () ∧ calls = [⟨.isCancelled, true⟩] ∧ a = refused .cancelled) ∨
    (allowed = .ok () ∧ ∃ later, calls = ⟨.isCancelled, false⟩ :: later ∧
      rest.Runs may later a) := by
  obtain ⟨first, second, passed, hfirst, hsecond, rfl⟩ := runs_bind.1 h
  -- the phase refuses, or the caller has cancelled, or the request goes on
  cases allowed with
  | error e =>
    obtain ⟨rfl, rfl⟩ := runs_done.1 hfirst
    obtain ⟨rfl, rfl⟩ := runs_done.1 hsecond
    exact .inl ⟨e, rfl, rfl, rfl⟩
  | ok _ =>
    obtain ⟨cancelled, last, -, hlast, rfl⟩ := runs_call.1 hfirst
    cases cancelled with
    | true =>
      obtain ⟨rfl, rfl⟩ := runs_done.1 hlast
      obtain ⟨rfl, rfl⟩ := runs_done.1 hsecond
      exact .inr (.inl ⟨rfl, rfl, rfl⟩)
    | false =>
      obtain ⟨rfl, rfl⟩ := runs_done.1 hlast
      exact .inr (.inr ⟨rfl, second, rfl, hsecond⟩)

end

/-- Whether a request is made with a token by which the caller can cancel it. -/
def Session.Request.takesToken : Session.Request → Bool
  | .openWith _ | .send _ _ | .publish _ _ | .commit => true
  | .dispose | .drop => false

/-- What the phase of a session says to a request that takes a token. -/
def Session.Phase.permits (phase : Session.Phase) : Session.Request → Except Misuse Unit
  | .openWith _ => phase.requireUnopened
  | _ => phase.requireOpen

/-- The error with which a session that is over refuses whatever takes a token. -/
def Session.Phase.refusal? : Session.Phase → Option Misuse
  | committed => some .alreadyCommitted
  | failed => some .commitFailed
  | disposed => some .disposed
  | unopened | opened => none

namespace Session

/-- Where a phase refuses, it refuses every request. -/
theorem Phase.permits_of_refusal {phase : Phase} {e : Misuse} (h : phase.refusal? = some e)
    (what : Request) : phase.permits what = .error e := by
  cases phase with
  | unopened | opened => exact nomatch h
  | committed | failed | disposed =>
    obtain rfl := Option.some.inj h
    cases what <;> rfl

/-- The router of a session. -/
def router : Session → Router
  | outboxed s => s.router
  | direct s => s.router

/-- The session with one more operation in its batch. -/
def add (op : Operation) : Session → Session
  | outboxed s => outboxed (s.add op)
  | direct s => direct (s.add op)

/-- What is added comes last. -/
theorem batch_add (s : Session) (op : Operation) : (s.add op).batch = s.batch ++ [op] := by
  cases s <;> rfl

/-- Collecting an operation changes no route. -/
theorem router_add (s : Session) (op : Operation) : (s.add op).router = s.router := by
  cases s <;> rfl

/-- What is left to do of a posting that has passed the gate. -/
def collect (s : Session) (p : Posting) : Program (Option Session × Except CallError Unit) := do
  match ← s.router.prepare p with
  | .error e => return (some s, .error (.misuse e))
  | .ok op => return (some (s.add op), .ok ())

/-- To send and to publish, with either session, is to pass the gate and then to collect. -/
theorem perform_posting (s : Session) (p : Posting) :
    s.perform p.request =
      gate s.phase.requireOpen (fun e => (some s, .error e)) (s.collect p) := by
  -- two sessions and two postings, and all four go through the same steps
  cases s <;> cases p
  all_goals
    simp only [perform, Posting.request, send, publish, Outboxed.send, Outboxed.publish,
      Direct.send, Direct.publish, collectSend, collectPublish, bind_assoc, gate]
    refine congrArg _ (funext fun passed => ?_)
    cases passed with
    | error e => rfl
    | ok _ =>
      simp only [collect, Router.prepare, bind_assoc]
      refine congrArg _ (funext fun made => ?_)
      first | rfl | (cases made <;> rfl)

/-- What is done through a gate is done through one also when the session is wrapped again. -/
theorem exists_gate {σ : Type} {s : σ} {wrap : σ → Session} {allowed : Except Misuse Unit}
    {p rest : Program (σ × Except CallError Unit)}
    (h : p = gate allowed (fun e => (s, .error e)) rest) :
    ∃ rest, (p >>= (fun r => done (r.map wrap id)) >>= fun r => done (r.map some id)) =
      gate allowed (fun e => (some (wrap s), .error e)) rest :=
  ⟨_, by rw [h, bind_assoc, gate_bind]; rfl⟩

/-- Whatever takes a token goes through the gate. -/
theorem perform_eq_gate (s : Session) (what : Session.Request) (h : what.takesToken = true) :
    ∃ rest, s.perform what =
      gate (s.phase.permits what) (fun e => (some s, .error e)) rest := by
  cases what with
  | openWith opening => cases s <;> exact exists_gate rfl
  | send m how => exact ⟨_, s.perform_posting (.send m how)⟩
  | publish m how => exact ⟨_, s.perform_posting (.publish m how)⟩
  | commit => cases s <;> exact exists_gate rfl
  | dispose | drop => exact nomatch h

end Session

/-- To prepare an operation calls nothing outward. -/
theorem quiet_prepare (r : Router) (p : Posting) : (r.prepare p).Quiet := by
  cases p with
  | send m how => exact quiet_operationToSend r m how
  | publish m how => exact Only.bind (quiet_operationToPublish r m how) fun op => trivial

namespace Session

section

variable {may : {β : Type} → Call β → β → Prop} {calls : List Exchange} {s s' : Session}
  {left : Option Session} {result : Except CallError Unit}

/-- A wrapped program runs as the program does, and only its result is wrapped. -/
theorem runs_wrapped {σ : Type} {p : Program (σ × Except CallError Unit)} {wrap : σ → Session}
    (h : (p >>= (fun r => done (r.map wrap id)) >>= fun r => done (r.map some id)).Runs may calls
      (left, result)) : ∃ r, p.Runs may calls r ∧ left = some (wrap r.1) ∧ result = r.2 := by
  rw [bind_assoc] at h
  obtain ⟨first, second, r, hfirst, hsecond, rfl⟩ := runs_bind.1 h
  obtain ⟨rfl, heq⟩ := runs_done.1 hsecond
  obtain ⟨rfl, rfl⟩ := Prod.mk.inj heq
  rw [List.append_nil]
  exact ⟨r, hfirst, rfl, rfl⟩

/-- What the phase of a session does not permit is refused, and nothing else happens. -/
theorem runs_refused {what : Request} {e : Misuse} (htoken : what.takesToken = true)
    (he : s.phase.permits what = .error e)
    (h : (s.perform what).Runs may calls (left, result)) :
    calls = [] ∧ left = some s ∧ result = .error (.misuse e) := by
  obtain ⟨rest, hgate⟩ := s.perform_eq_gate what htoken
  rw [hgate, he] at h
  -- of the three ways through the gate only the first is open
  obtain ⟨e', he', hcalls, heq⟩ | ⟨hallowed, -⟩ | ⟨hallowed, -⟩ := runs_gate h
  · obtain rfl := Except.error.inj he'
    exact ⟨hcalls, Prod.mk.inj heq⟩
  · exact nomatch hallowed
  · exact nomatch hallowed

/-- What the router prepares is collected, and what it refuses is refused. -/
theorem runs_collect {p : Posting} (h : (s.collect p).Runs may calls (left, result)) :
    (∃ e, (s.router.prepare p).Runs may calls (.error e) ∧ left = some s ∧
      result = .error (.misuse e)) ∨
    (∃ op, (s.router.prepare p).Runs may calls (.ok op) ∧ left = some (s.add op) ∧
      result = .ok ()) := by
  obtain ⟨first, second, made, hfirst, hsecond, rfl⟩ := runs_bind.1 h
  -- what the router refuses is not collected
  cases made with
  | error e =>
    obtain ⟨rfl, heq⟩ := runs_done.1 hsecond
    obtain ⟨rfl, rfl⟩ := Prod.mk.inj heq
    rw [List.append_nil]
    exact .inl ⟨e, hfirst, rfl, rfl⟩
  | ok op =>
    obtain ⟨rfl, heq⟩ := runs_done.1 hsecond
    obtain ⟨rfl, rfl⟩ := Prod.mk.inj heq
    rw [List.append_nil]
    exact .inr ⟨op, hfirst, rfl, rfl⟩

/-- A posting is refused, or cancelled, or its operation is collected. -/
theorem runs_posting {p : Posting} (h : (s.perform p.request).Runs may calls (left, result)) :
    (∃ e, result = .error e ∧ outward calls = [] ∧ left = some s) ∨
    (∃ op later, result = .ok () ∧ calls = ⟨.isCancelled, false⟩ :: later ∧
      (s.router.prepare p).Runs may later (.ok op) ∧ left = some (s.add op)) := by
  rw [perform_posting] at h
  obtain ⟨e, -, rfl, heq⟩ | ⟨-, rfl, heq⟩ | ⟨-, later, rfl, hlater⟩ := runs_gate h
  -- at the gate nothing is called outward, for whichever reason it stays shut
  · obtain ⟨rfl, rfl⟩ := Prod.mk.inj heq
    exact .inl ⟨_, rfl, rfl, rfl⟩
  · obtain ⟨rfl, rfl⟩ := Prod.mk.inj heq
    exact .inl ⟨_, rfl, rfl, rfl⟩
  · obtain ⟨e, hprepare, rfl, rfl⟩ | ⟨op, hprepare, rfl, rfl⟩ := runs_collect hlater
    · have hout : outward later = [] := (quiet_prepare _ _).outward_eq_nil hprepare
      exact .inl ⟨_, rfl, hout, rfl⟩
    · exact .inr ⟨op, later, rfl, rfl, hprepare, rfl⟩

end

/-- One use of a session: what was requested, the calls that were made, and how it ended. -/
structure Use : Type 1 where
  what : Request
  calls : List Exchange
  result : Except CallError Unit

/-- Whether the session has collected an operation. -/
def Use.collected (use : Use) : Bool :=
  match use.what, use.result with
  | .send _ _, .ok _ | .publish _ _, .ok _ => true
  | _, _ => false

/-- A posting that goes well is collected. -/
theorem Use.collected_ok (p : Posting) (calls : List Exchange) :
    Use.collected ⟨p.request, calls, .ok ()⟩ = true := by
  cases p <;> rfl

/-- A posting that fails is not. -/
theorem Use.collected_error (p : Posting) (calls : List Exchange) (e : CallError) :
    Use.collected ⟨p.request, calls, .error e⟩ = false := by
  cases p <;> rfl

/-- Nothing but a posting is collected. -/
theorem Use.collected_eq_false {use : Use} (h : ∀ p : Posting, use.what ≠ p.request) :
    use.collected = false := by
  unfold Use.collected
  split
  · next m how _ hwhat _ => exact absurd hwhat (h (.send m how))
  · next m how _ hwhat _ => exact absurd hwhat (h (.publish m how))
  · rfl

/-- The operation is what the router has prepared in this use. -/
def Use.Prepares (may : {β : Type} → Call β → β → Prop) (r : Router) (use : Use) (op : Operation) :
    Prop :=
  ∃ p later, use.what = p.request ∧ use.calls = ⟨.isCancelled, false⟩ :: later ∧
    (r.prepare p).Runs may later (.ok op)

/-- A session as it is made. -/
inductive New : Session → Prop
  | outboxed (store : String) (staging : StagingId) (router : Router) (processor : String) :
      New (.outboxed { store, staging, router, processorAddress := processor })
  | direct (staging : StagingId) (router : Router) : New (.direct { staging, router })

/-- What a session becomes by its uses, when every reply is one that its call `may` get. -/
inductive Used (may : {β : Type} → Call β → β → Prop) : Session → List Use → Session → Prop
  | none (s : Session) : Used may s [] s
  | next {s t s' : Session} {use : Use} {uses : List Use} :
      (s.perform use.what).Runs may use.calls (some t, use.result) → Used may t uses s' →
      Used may s (use :: uses) s'

/-- Uses a session in a world, by requests whose tokens are cancelled or not, up to where it is
destroyed. -/
def usesIn (s : Session) (w : World) : List (Request × Bool) → List Use × Session × World
  | [] => ([], s, w)
  | (what, cancelled) :: rest =>
    match w.run cancelled (s.perform what) with
    | ((some t, result), w') =>
      let calls := (s.perform what).trace (World.answer cancelled) w
      (⟨what, calls, result⟩ :: (usesIn t w' rest).1, (usesIn t w' rest).2)
    | ((none, _), _) => ([], s, w)

/-- A list of requests is a list of uses, whatever the world replies. -/
theorem used_usesIn (s : Session) (w : World) (requests : List (Request × Bool)) :
    Used (fun _ _ => True) s (s.usesIn w requests).1 (s.usesIn w requests).2.1 := by
  -- on the requests, with the session and the world that the first one leaves
  induction requests generalizing s w with
  | nil => exact .none s
  | cons first rest ih =>
    obtain ⟨what, cancelled⟩ := first
    have hrun : (s.perform what).Runs (fun _ _ => True)
        ((s.perform what).trace (World.answer cancelled) w)
        (w.run cancelled (s.perform what)).1 := runs_trace (fun _ _ => trivial) _ _
    unfold usesIn
    split
    · next t result w' heq =>
      rw [heq] at hrun
      exact .next hrun (ih t w')
    · exact .none s

end Session

end Outbox
