import Outbox.Proofs.Contract.Delivery
import Outbox.Proofs.Contract.Effects
import Outbox.Proofs.Contract.Session

/-!
# The invariant of a system

Every participant of a system has a standing, no two of them hold the same staging or transaction,
and what is left of each task keeps the contract. An event changes the standing of at most one
participant, and what it does to the world is among what all others rely on.

* `System.Inv.step`      every event that fits the terms keeps the invariant
* `System.Inv.lawful`    the next call of a participant is lawful
-/

namespace Outbox

variable {T : Terms} {g : Standing} {w : World}

/-! ### What happens from outside -/

/-- Nothing happens, and nobody is let down. -/
theorem Relies.refl (hw : Shared T w) : Relies T g w w :=
  ⟨.refl w, hw, fun _ _ => rfl, fun _ _ => rfl⟩

/-- What happens to the world from outside is among what participants rely on, as long as the
clock is set to a reading that the terms allow. -/
theorem relies_disturb {d : Disturbance} (hw : Shared T w)
    (hclock : ∀ clock, d = .setClock clock → T.time clock.now) : Relies T g w (w.disturb d) := by
  have hself : Relies T g w w := .refl hw
  cases d with
  | failStore store call reason =>
    -- the only event from outside that touches a store, and it touches only what is armed there
    have harm : (w.database.store store).SameContent ((w.database.store store).arm call reason) :=
      ⟨rfl, rfl⟩
    have hsame := Database.sameContent_setStore harm
    refine ⟨⟨fun name => ?_, List.prefix_rfl⟩, ⟨hw.visible, hw.time, fun id r hr => ?_,
      fun id r hr => ?_⟩, fun _ _ => rfl, fun _ _ => rfl⟩
    · exact Store.grows_of_records_eq (hsame name).records
    · exact hw.id_eq id r (((hsame T.store).record? id).symm.trans hr)
    · exact hw.accepted id r (((hsame T.store).record? id).symm.trans hr)
  | failLookUp reason => exact hself.of_database_transport rfl rfl rfl rfl
  | failMark reason => exact hself.of_database_transport rfl rfl rfl rfl
  | rejectNext reason => exact hself.of_database_transport rfl rfl rfl rfl
  -- the new reading is one that the terms allow
  | setClock clock =>
    exact ⟨⟨.refl _, List.prefix_rfl⟩, ⟨hw.visible, hclock clock rfl, hw.id_eq, hw.accepted⟩,
      fun _ _ => rfl, fun _ _ => rfl⟩
  | subscribe topic queue =>
    refine hself.of_database_transport rfl ?_ rfl rfl
    simp only [World.disturb, Transport.subscribe]
    split <;> rfl
  | dispatch ops => exact hself.dispatch ops
  | receive queue =>
    simp only [World.disturb]
    split
    · next m transport htake =>
      obtain ⟨-, -, -, -, -, -, -, rfl⟩ := Transport.take?_eq_some_iff.1 htake
      exact hself.of_database_transport rfl rfl rfl rfl
    · exact hself

/-- What happens to transactions and stagings of others breaks nobody's reliance. -/
theorem relies_of_stores {d : Database} (hw : Shared T w) (hd : d.stores = w.database.stores)
    (hstaging : ∀ id, g.staging = some id → d.stagings[id]? = w.database.stagings[id]?)
    (htransaction : ∀ tx, g.transaction = some tx →
      d.transactions[tx]? = w.database.transactions[tx]?) :
    Relies T g w { w with database := d } := by
  have hstore : d.store T.store = w.database.store T.store := by
    rw [Database.store, Database.store, hd]
  refine ⟨⟨Database.grows_of_stores_eq hd, List.prefix_rfl⟩, ⟨hw.visible, hw.time, ?_, ?_⟩,
    hstaging, htransaction⟩
  · simpa only [World.record?, hstore] using hw.id_eq
  · intro id r hr
    exact hw.accepted id r (by simpa only [World.record?, hstore] using hr)

/-! ### Tasks and their standings -/

namespace Task

/-- What is left of a task keeps the contract of its participant. -/
def Keeps (T : Terms) (g : Standing) (w : World) : Task → Prop
  | idle staged _ session => ∃ s, session = .outboxed s ∧ s.Stands T staged g w
  | busy staged _ session what rest => ∃ s, session = .outboxed s ∧
      rest.Keeps (contract T (.session staged s)) (AfterRequest T staged what) g w
  | delivery k m rest => k.setup.store = T.store ∧ MayOwe T k m g ∧
      rest.Keeps (contract T (.delivery k m)) (fun g' _ w' => AfterDelivery T m g' w' k) g w
  | gone => True

/-- A task keeps the contract while others do what it relies on. -/
theorem Keeps.later {t : Task} {w' : World} (h : t.Keeps T g w) (hw : Relies T g w w') :
    t.Keeps T g w' := by
  -- what others do changes neither the task nor the session it holds
  cases t with
  | idle staged n session =>
    obtain ⟨s, rfl, hs⟩ := h
    exact ⟨s, rfl, hs.later hw⟩
  | busy staged n session what rest =>
    obtain ⟨s, rfl, hrest⟩ := h
    exact ⟨s, rfl, hrest.later hw⟩
  | delivery k m rest =>
    obtain ⟨hstore, howes, hrest⟩ := h
    exact ⟨hstore, howes, hrest.later hw⟩
  | gone => trivial

/-- A request goes on, or it leaves the session where it may stand. -/
theorem keeps_ofRequest {staged : List Change} {n : Nat} {s : Session.Outboxed}
    {what : Session.Request} {rest : Program (Option Session × Except CallError Unit)}
    (hw : Shared T w)
    (h : rest.Keeps (contract T (.session staged s)) (AfterRequest T staged what) g w) :
    (ofRequest staged n (.outboxed s) what rest).Keeps T g w := by
  -- a request that has ended leaves the session that it returns, or none
  cases rest with
  | done result =>
    obtain ⟨session, result⟩ := result
    cases session with
    | none => trivial
    | some session =>
      obtain ⟨s', rfl, hs'⟩ := (h w (.refl hw)).1 session rfl
      exact ⟨s', rfl, hs'⟩
  | call c next => exact ⟨s, rfl, h⟩

/-- The role in which a task makes its next call. -/
def role? : Task → Option Role
  | busy staged _ (.outboxed s) _ _ => some (.session staged s)
  | delivery k m _ => some (.delivery k m)
  | _ => none

end Task

/-- The standings of all participants. -/
abbrev Standings := Nat → Standing

/-- The standings with one of them replaced. -/
def Standings.set (G : Standings) (who : Nat) (g : Standing) : Standings :=
  fun i => if i = who then g else G i

/-- The participant that was set has the new standing. -/
@[simp] theorem Standings.set_self (G : Standings) (who : Nat) (g : Standing) :
    G.set who g who = g := if_pos rfl

/-- To set a standing to what it is changes nothing. -/
@[simp] theorem Standings.set_eq_self (G : Standings) (who : Nat) : G.set who (G who) = G := by
  funext i
  by_cases h : i = who <;> simp [set, h]

/-- All others have the standing that they had. -/
theorem Standings.set_of_ne (G : Standings) {who i : Nat} (g : Standing) (h : i ≠ who) :
    G.set who g i = G i := if_neg h

/-- Participants hold numbers below `n`, none of them two participants. -/
structure Exclusive (holds : Nat → Option Nat) (n : Nat) : Prop where
  lt : ∀ i id, holds i = some id → id < n
  inj : ∀ i j id, holds i = some id → holds j = some id → i = j

/-- A participant may go on holding what it holds, or take a number that was not in use. -/
theorem Exclusive.set {G : Standings} {n n' who : Nat} (holds : Standing → Option Nat)
    (h : Exclusive (fun i => holds (G i)) n) (hn : n ≤ n')
    (hg : ∀ id, holds g = some id → holds (G who) = some id ∨ n ≤ id ∧ id < n') :
    Exclusive (fun i => holds (G.set who g i)) n' := by
  -- the others hold what they held, so nothing that is new
  have hlt : ∀ i, i ≠ who → ∀ id, holds (G.set who g i) = some id → id < n := by
    intro i hi id hid
    rw [Standings.set_of_ne G g hi] at hid
    exact h.lt i id hid
  have hother : ∀ i, i ≠ who → ∀ id, holds (G.set who g i) = some id →
      holds (G.set who g who) ≠ some id := by
    intro i hi id hid hwho
    rw [Standings.set_self] at hwho
    rcases hg id hwho with hheld | ⟨hle, -⟩
    · rw [Standings.set_of_ne G g hi] at hid
      exact hi (h.inj i who id hid hheld)
    · exact absurd (hlt i hi id hid) (Nat.not_lt.2 hle)
  constructor
  -- what is held lies below the bound
  · intro i id hid
    by_cases hi : i = who
    · subst hi
      rw [Standings.set_self] at hid
      rcases hg id hid with hheld | ⟨-, hlt'⟩
      · exact Nat.lt_of_lt_of_le (h.lt i id hheld) hn
      · exact hlt'
    -- somebody else holds what was held before
    · exact Nat.lt_of_lt_of_le (hlt i hi id hid) hn
  · intro i j id hi hj
    -- two who hold the same are one: both the participant, both others, or neither is possible
    by_cases hiw : i = who <;> by_cases hjw : j = who
    · exact hiw.trans hjw.symm
    · subst hiw
      exact absurd hi (hother j hjw id hj)
    · subst hjw
      exact absurd hj (hother i hiw id hi)
    · rw [Standings.set_of_ne G g hiw] at hi
      rw [Standings.set_of_ne G g hjw] at hj
      exact h.inj i j id hi hj

/-! ### Edits -/

/-- The edit of a document, as the change that it stages. -/
theorem Edit.eq_stage (e : Edit) : ∃ key change, (∀ d id, e.stage d id = d.stage id key change) ∧
    (∀ partition, e.within partition = change (Store.keyWithin partition key)) ∧
    ∀ partition, recordIds [e.within partition] = [] := by
  cases e with
  | put key value => exact ⟨key, (.put · value), fun _ _ => rfl, fun _ => rfl, fun _ => rfl⟩
  | delete key => exact ⟨key, .delete, fun _ _ => rfl, fun _ => rfl, fun _ => rfl⟩

namespace Session.Outboxed

variable {s : Session.Outboxed} {staged : List Change}

/-- An open session gives its staging to an edit, and no other session does. -/
theorem stagingIfOpen_eq_ok_iff {id : StagingId} :
    s.stagingIfOpen = .ok id ↔ s.staging = id ∧ s.phase = .opened := by
  unfold stagingIfOpen
  cases s.phase <;> simp [Phase.requireOpen, Except.map]

/-- An edit of an open session changes its staging, and nothing else. -/
theorem Stands.edit (h : s.Stands T staged g w) (hphase : s.phase = .opened) (e : Edit) :
    ∃ u, e.stage w.database s.staging = (.ok (), w.database.setStaging s.staging u) ∧
      s.Stands T
        (staged ++ [e.within ((Session.outboxed s).opening?.bind (·.hints.partitionKey))]) g
        { w with database := w.database.setStaging s.staging u } := by
  -- an open session has the staging and the transaction of its opening
  obtain ⟨o, tx, ho, htx, horder, hg, htransaction, hstaging⟩ := h.opened hphase
  obtain ⟨key, change, hstage, hwithin, hplain⟩ := e.eq_stage
  have hpartition : (Session.outboxed s).opening?.bind (·.hints.partitionKey) =
      o.opening.hints.partitionKey := by
    simp [Session.opening?, ho]
  rw [hpartition]
  have hu := Database.getElem?_setStaging_self hstaging
    (u := ⟨T.store, .attached tx, o.opening.hints.partitionKey,
      staged ++ [e.within o.opening.hints.partitionKey]⟩)
  refine ⟨_, ?_, h.toBelongs, ?_, fun hp => ?_,
    fun _ => ⟨o, tx, ho, htx, horder, hg, htransaction, hu⟩⟩
  -- the staging takes the change with the partition of the session on it
  · rw [hstage, hwithin]
    simp [Database.stage, hstaging]
  -- an edit is about documents, so what is staged stays without records
  · rw [recordIds_append, h.plain, hplain]
    rfl
  · exact nomatch hphase.symm.trans hp

end Session.Outboxed

namespace System

/-- What holds of a system whose participants have the standings `G`. -/
structure Inv (T : Terms) (G : Standings) (s : System) : Prop where
  shared : Shared T s.world
  keeps : ∀ i (t : Task), s.tasks[i]? = some t → t.Keeps T (G i) s.world
  absent : ∀ i, s.tasks.length ≤ i → G i = {}
  stagings : Exclusive (fun i => (G i).staging) s.world.database.stagings.length
  transactions : Exclusive (fun i => (G i).transaction) s.world.database.transactions.length

/-- The copy of a message whose delivery has failed is about to be handed over. -/
def Forwarding (s : System) (who : Nat) : Prop :=
  ∃ worker m e next, s.tasks[who]? =
    some (.delivery (.worker worker) m (.call (.dispatch [worker.forwarded m e]) next))

/-- An event that fits the terms. -/
def Fits (T : Terms) (s : System) : Event → Prop
  | .create store _ address => store = T.store ∧ T.address address
  | .request _ what => ∀ opening, what = .openWith opening → T.opening opening
  | .take worker => worker.receiver.store = T.store ∧ T.address worker.receiver.address
  | .hand p _ => p.store = T.store
  | .call who _ => T.reliable → s.Forwarding who → s.world.transport.rejection = none
  | .disturb d => ∀ clock, d = .setClock clock → T.time clock.now
  | .edit _ _ => True

open Classical in
/-- The duty of a worker that has taken a message off its queue. -/
noncomputable def taken (T : Terms) (m : Message) : Standing :=
  { duty := if T.sound m then some m.id else none }

/-- The standings after an event. -/
noncomputable def standings (T : Terms) (G : Standings) (s : System) : Event → Standings
  | .create _ _ _ => G.set s.tasks.length { staging := some s.world.database.stagings.length }
  | .request who _ =>
    match s.tasks[who]? with
    | some (.idle _ _ _) => G.set who { G who with committed := false }
    | _ => G
  | .take worker =>
    match s.world.transport.take? worker.receiver.address s.world.clock.elapsed with
    | some (m, _) => G.set s.tasks.length (taken T m)
    | none => G
  | .call who cancelled =>
    match s.tasks[who]?.bind (Task.turn? who) with
    | some turn =>
      G.set who ((G who).after T turn.call (World.answer cancelled turn.call s.world).1)
    | none => G
  | .edit _ _ | .hand _ _ | .disturb _ => G

variable {G : Standings} {s : System}

/-- One participant has moved on, and the others rely on what has happened. -/
theorem Inv.move {s' : System} {who : Nat} (h : Inv T G s) (hshared : Shared T s'.world)
    (htasks : ∀ i, i ≠ who → s'.tasks[i]? = s.tasks[i]?)
    (hlength : s.tasks.length ≤ s'.tasks.length) (hwho : who < s'.tasks.length)
    (hown : ∀ t : Task, s'.tasks[who]? = some t → t.Keeps T g s'.world)
    (hothers : ∀ i, i ≠ who → Relies T (G i) s.world s'.world)
    (hstagings : Exclusive (fun i => (G.set who g i).staging) s'.world.database.stagings.length)
    (htransactions : Exclusive (fun i => (G.set who g i).transaction)
      s'.world.database.transactions.length) :
    Inv T (G.set who g) s' where
  shared := hshared
  -- the participant itself keeps what is said of it, and the others rely on what has happened
  keeps i t ht := by
    by_cases hi : i = who
    · subst hi
      rw [Standings.set_self]
      exact hown t ht
    · rw [Standings.set_of_ne G g hi]
      rw [htasks i hi] at ht
      exact (h.keeps i t ht).later (hothers i hi)
  absent i hi := by
    rw [Standings.set_of_ne G g (by omega)]
    exact h.absent i (by omega)
  stagings := hstagings
  transactions := htransactions

/-! ### Events -/

/-- The staging of a new session is new, so it is nobody's yet. -/
theorem Inv.relies_create (h : Inv T G s) (store : String) (router : Router) (address : String)
    (i : Nat) : Relies T (G i) s.world (s.create store router address).world := by
  refine relies_of_stores h.shared rfl (fun id hid => ?_) fun _ _ => rfl
  exact List.getElem?_append_left (h.stagings.lt i id hid)

/-- A session that is made owns a new staging. -/
theorem Inv.create {store address : String} {router : Router} (h : Inv T G s)
    (hstore : store = T.store) (haddress : T.address address) :
    Inv T (G.set s.tasks.length { staging := some s.world.database.stagings.length })
      (s.create store router address) := by
  have hrelies := h.relies_create store router address
  have hnew : (s.create store router address).world.database.stagings.length =
      s.world.database.stagings.length + 1 := by
    simp [System.create, Database.newStaging]
  refine h.move (hrelies 0).shared (fun i hi => ?_) ?_ ?_ (fun t ht => ?_) (fun i _ => hrelies i)
    (.set Standing.staging h.stagings ?_ fun id hid => ?_)
    (.set Standing.transaction h.transactions (Nat.le_refl _) nofun)
  · exact getElem?_tasks_append _ hi
  · simp [System.create]
  · simp [System.create]
  -- the session is unopened, and its staging is the newest one
  · obtain rfl : Task.idle [] 0 _ = t := Option.some.inj (by simpa [System.create] using ht)
    refine ⟨_, rfl, ⟨hstore, haddress, rfl, rfl⟩, rfl, fun _ => ⟨rfl, rfl, ?_⟩, nofun⟩
    simp [System.create, Database.newStaging, hstore]
  · omega
  · obtain rfl := Option.some.inj hid
    exact .inr ⟨Nat.le_refl _, by omega⟩

/-- A request is made on a session that stands, so it keeps the contract. -/
theorem Inv.request {who n : Nat} {staged : List Change} {session : Session}
    {what : Session.Request} (h : Inv T G s)
    (ht : s.tasks[who]? = some (.idle staged n session))
    (hopening : ∀ opening, what = .openWith opening → T.opening opening) :
    Inv T (G.set who { G who with committed := false }) (s.request who what) := by
  -- the stores are untouched, so the others have nothing to rely on anew
  obtain ⟨hlt, -⟩ := List.getElem?_eq_some_iff.1 ht
  obtain ⟨session, rfl, hstands⟩ := h.keeps who _ ht
  rw [request_of_idle ht]
  refine h.move h.shared (fun i hi => List.getElem?_set_ne hi.symm) ?_ ?_ (fun t ht' => ?_)
    (fun i _ => .refl h.shared)
    (.set Standing.staging h.stagings (Nat.le_refl _) fun _ hid => .inl hid)
    (.set Standing.transaction h.transactions (Nat.le_refl _) fun _ htx => .inl htx)
  · simp
  · simpa using hlt
  · obtain rfl : Task.ofRequest _ _ _ _ _ = t := by simpa [hlt] using ht'
    exact Task.keeps_ofRequest h.shared (keeps_perform hstands.forget rfl hopening)

/-- An edit is refused, or it changes the staging of the session and nothing else. -/
theorem Inv.edit_cases (h : Inv T G s) (who : Nat) (e : Edit) : s.edit who e = s ∨
    ∃ staged staged' n session u, s.tasks[who]? = some (.idle staged n (.outboxed session)) ∧
      (G who).staging = some session.staging ∧
      session.Stands T staged' (G who)
        { s.world with database := s.world.database.setStaging session.staging u } ∧
      s.edit who e =
        { s with
          world := { s.world with database := s.world.database.setStaging session.staging u }
          tasks := s.tasks.set who (.idle staged' n (.outboxed session)) } := by
  -- the general case analysis says that an edit was possible; the session says what it was
  rcases s.edit_cases who e with heq | ⟨staged, n, session, id, database, ht, hid, hd, heq⟩
  · exact .inl heq
  · obtain ⟨session, rfl, hstands⟩ := h.keeps who _ ht
    obtain ⟨rfl, hphase⟩ := Session.Outboxed.stagingIfOpen_eq_ok_iff.1 hid
    obtain ⟨u, hd', hstands'⟩ := hstands.edit hphase e
    obtain rfl : _ = database := congrArg Prod.snd (hd'.symm.trans hd)
    exact .inr ⟨staged, _, n, session, u, ht, hstands.staging, hstands', heq⟩

/-- Nobody else holds the staging that an edit changes. -/
theorem Inv.relies_edit (h : Inv T G s) (who : Nat) (e : Edit) {i : Nat} (hi : i ≠ who) :
    Relies T (G i) s.world (s.edit who e).world := by
  obtain heq | ⟨_, _, _, session, u, -, hstaging, -, heq⟩ := h.edit_cases who e
  · rw [heq]
    exact .refl h.shared
  · rw [heq]
    refine relies_of_stores h.shared rfl (fun id hid => ?_) fun _ _ => rfl
    refine List.getElem?_set_ne fun hsame => hi ?_
    exact h.stagings.inj i who id hid (hsame ▸ hstaging)

/-- An edit keeps the invariant. -/
theorem Inv.edit {who : Nat} {e : Edit} (h : Inv T G s) : Inv T G (s.edit who e) := by
  have hrelies := fun i hi => h.relies_edit who e (i := i) hi
  obtain heq | ⟨_, _, _, session, u, ht, -, hstands, heq⟩ := h.edit_cases who e
  · rw [heq]
    exact h
  · rw [heq] at hrelies ⊢
    obtain ⟨hlt, -⟩ := List.getElem?_eq_some_iff.1 ht
    rw [← G.set_eq_self who]
    refine h.move ?_ (fun i hi => List.getElem?_set_ne hi.symm) ?_ ?_ (fun t ht' => ?_) hrelies
      ?_ ?_
    · exact (relies_of_stores (g := {}) (d := s.world.database.setStaging session.staging u)
        h.shared rfl nofun nofun).shared
    · simp
    · simpa using hlt
    · obtain rfl : Task.idle _ _ _ = t := by simpa [hlt] using ht'
      -- the staging has changed, and the session stands with what is in it now
      exact ⟨session, rfl, hstands⟩
    · rw [G.set_eq_self]
      simpa [Database.setStaging] using h.stagings
    · rw [G.set_eq_self]
      exact h.transactions

/-- What happens from outside leaves the stagings alone. -/
theorem disturb_stagings (w : World) (d : Disturbance) :
    (w.disturb d).database.stagings = w.database.stagings := by
  cases d with
  | receive queue =>
    simp only [World.disturb]
    split <;> rfl
  | _ => rfl

/-- It leaves the transactions alone as well. -/
theorem disturb_transactions (w : World) (d : Disturbance) :
    (w.disturb d).database.transactions = w.database.transactions := by
  cases d with
  | receive queue =>
    simp only [World.disturb]
    split <;> rfl
  | _ => rfl

/-- What happens from outside keeps the invariant, as long as the clock is set to a reading that the
terms allow. -/
theorem Inv.disturb {d : Disturbance} (h : Inv T G s)
    (hclock : ∀ clock, d = .setClock clock → T.time clock.now) :
    Inv T G { s with world := s.world.disturb d } where
  -- clauses that speak of stores and log are untouched by what happens outside
  shared := (relies_disturb (g := {}) h.shared hclock).shared
  keeps i t ht := (h.keeps i t ht).later (relies_disturb h.shared hclock)
  absent := h.absent
  stagings := by
    rw [disturb_stagings]
    exact h.stagings
  transactions := by
    rw [disturb_transactions]
    exact h.transactions

/-- That a message leaves its queue breaks nobody's reliance. -/
theorem relies_transport {transport : Transport} (hw : Shared T w)
    (htransport : transport.dispatched = w.transport.dispatched) :
    Relies T g w { w with transport } :=
  (Relies.refl hw).of_database_transport rfl htransport rfl rfl

/-- A consumer starts to deliver a message that has just been taken, or that it was handed. -/
theorem Inv.start {k : Consumer} {m : Message} {transport : Transport} (h : Inv T G s)
    (htransport : transport.dispatched = s.world.transport.dispatched)
    (hstore : k.setup.store = T.store) (hg : g.staging = none ∧ g.transaction = none)
    (howes : MayOwe T k m g) :
    Inv T (G.set s.tasks.length g)
      (start { s with world := { s.world with transport } } k m) := by
  have hrelies := fun g => relies_transport (T := T) (g := g) h.shared htransport
  refine h.move (hrelies {}).shared (fun i hi => ?_) ?_ ?_ (fun t ht => ?_) (fun i _ => hrelies _)
    (.set Standing.staging h.stagings (Nat.le_refl _) ?_)
    (.set Standing.transaction h.transactions (Nat.le_refl _) ?_)
  · exact getElem?_tasks_append _ hi
  · simp [System.start]
  · simp [System.start]
  -- the whole delivery is still to come, and every delivery keeps the contract
  · obtain rfl : Task.delivery k m (k.deliver m) = t :=
      Option.some.inj (by simpa [System.start] using ht)
    exact ⟨hstore, howes, keeps_deliver hstore howes⟩
  · exact fun id hid => nomatch hg.1.symm.trans hid
  · exact fun id hid => nomatch hg.2.symm.trans hid

/-- A session forwards nothing, so nothing is asked of the world for its calls. -/
theorem admits_session (staged : List Change) (session : Session.Outboxed) {β : Type}
    (c : Call β) (w : World) : Admits T (.session staged session) c w := by
  cases c with
  | dispatch ops => exact fun _ h => h.elim
  | _ => trivial

/-- A worker that forwards a message meets a transport that accepts it, when the event fits. -/
theorem admits_delivery {who : Nat} {k : Consumer} {m : Message} {β : Type} {c : Call β}
    {next : β → Program (Except DeliveryError Disposition)}
    (ht : s.tasks[who]? = some (.delivery k m (.call c next)))
    (hfits : T.reliable → s.Forwarding who → s.world.transport.rejection = none) :
    Admits T (.delivery k m) c s.world := by
  -- the terms are about dispatches only, and of these about the copies that a worker forwards
  cases c with
  | dispatch ops =>
    intro hreliable hforwards
    cases k with
    | worker worker =>
      obtain ⟨e, rfl⟩ := hforwards
      exact hfits hreliable ⟨worker, m, e, next, ht⟩
    | receiver p => exact hforwards.elim
  | _ => trivial

/-- The next call of a task is lawful, the log tells of no more than the call and the end of a
request, and what is left of the task keeps the contract. -/
theorem Inv.lawful {who : Nat} {t : Task} {turn : Turn} (cancelled : Bool) (h : Inv T G s)
    (ht : s.tasks[who]? = some t) (hturn : t.turn? who = some turn)
    (hfits : T.reliable → s.Forwarding who → s.world.transport.rejection = none) :
    ∃ (role : Role) (n : Nat) (tail : turn.β → List Entry),
      t.role? = some role ∧ Lawful T role (G who) turn.call s.world ∧
      (∀ reply, (turn.resume reply).2 =
        Task.note who n role.contribution turn.call reply ++ tail reply) ∧
      (∀ reply, ∀ entry ∈ tail reply, ∃ what result, entry = .returned who n what result) ∧
      (turn.resume (World.answer cancelled turn.call s.world).1).1.Keeps T
        ((G who).after T turn.call (World.answer cancelled turn.call s.world).1)
        (World.answer cancelled turn.call s.world).2 := by
  -- a request that is under way, or a delivery; of both the invariant says that they keep the
  -- contract
  cases Task.hasTurn_of_turn? hturn with
  | busy staged n session what c next =>
    obtain ⟨session, rfl, hrest⟩ := h.keeps who _ ht
    obtain ⟨hlawful, hnext⟩ := hrest s.world (.refl h.shared) (admits_session ..)
    refine ⟨.session staged session, n, fun reply => Task.ending who n what (next reply), rfl,
      hlawful, fun _ => rfl, fun reply entry hentry => ?_, ?_⟩
    · obtain ⟨result, -, heq⟩ := mem_ending.1 hentry
      exact ⟨what, result.2, heq⟩
    · exact Task.keeps_ofRequest (shared_answer cancelled h.shared hlawful) (hnext cancelled)
  | delivery k m c next =>
    obtain ⟨hstore, howes, hrest⟩ := h.keeps who _ ht
    obtain ⟨hlawful, hnext⟩ := hrest s.world (.refl h.shared) (admits_delivery ht hfits)
    refine ⟨.delivery k m, 0, fun _ => [], rfl, hlawful, fun _ => (List.append_nil _).symm,
      fun _ _ hentry => absurd hentry List.not_mem_nil, hstore, ?_, hnext cancelled⟩
    -- the duty is passed on by this call, or it is what it was
    rcases Standing.duty_after (T := T) (g := G who) (c := c)
      (World.answer cancelled c s.world).1 with hnone | hsame
    · exact .inl hnone
    · exact howes.imp hsame.trans fun ⟨hsome, hm⟩ => ⟨hsame.trans hsome, hm⟩

/-- Others own something else than the one that makes a call, and what they own has been there
before. -/
theorem Inv.relies_call {who : Nat} {turn : Turn} (cancelled : Bool) (h : Inv T G s)
    (hturn : s.tasks[who]?.bind (Task.turn? who) = some turn)
    (hfits : T.reliable → s.Forwarding who → s.world.transport.rejection = none) {i : Nat}
    (hi : i ≠ who) : Relies T (G i) s.world (s.call who cancelled).world := by
  obtain ⟨t, ht, hturn'⟩ := Option.bind_eq_some_iff.1 hturn
  obtain ⟨role, n, tail, -, hlawful, -, -, -⟩ := h.lawful cancelled ht hturn' hfits
  rw [call_of_turn hturn]
  refine relies_answer cancelled h.shared hlawful (fun id hid heq => hi ?_)
    fun tx htx => ⟨fun heq => hi ?_, ?_⟩
  · exact h.stagings.inj i who id hid heq
  · exact h.transactions.inj i who tx htx heq
  · exact h.transactions.lt i tx htx

/-- A call keeps the invariant. -/
theorem Inv.call {who : Nat} {turn : Turn} {cancelled : Bool} (h : Inv T G s)
    (hturn : s.tasks[who]?.bind (Task.turn? who) = some turn)
    (hfits : T.reliable → s.Forwarding who → s.world.transport.rejection = none) :
    Inv T (G.set who ((G who).after T turn.call (World.answer cancelled turn.call s.world).1))
      (s.call who cancelled) := by
  have hrelies := fun i hi => h.relies_call cancelled hturn hfits (i := i) hi
  obtain ⟨t, ht, hturn'⟩ := Option.bind_eq_some_iff.1 hturn
  obtain ⟨hlt, -⟩ := List.getElem?_eq_some_iff.1 ht
  obtain ⟨role, n, tail, -, hlawful, -, -, hkeeps⟩ := h.lawful cancelled ht hturn' hfits
  obtain ⟨hstagings, htransactions⟩ := length_answer cancelled hlawful
  rw [call_of_turn hturn] at hrelies ⊢
  refine h.move (shared_answer cancelled h.shared hlawful)
    (fun i hi => List.getElem?_set_ne hi.symm) ?_ ?_ (fun t' ht' => ?_) hrelies
    -- the staging is the same, and a transaction that is new has a number that nobody else holds
    (.set Standing.staging h.stagings (Nat.le_of_eq hstagings.symm) fun id hid => ?_)
    (.set Standing.transaction h.transactions htransactions fun tx htx => ?_)
  · simp
  · simpa using hlt
  · obtain rfl : _ = t' := by simpa [hlt] using ht'
    exact hkeeps
  -- what it holds after the call it held before, or the call has just made it
  · rw [Standing.staging_after] at hid
    exact .inl hid
  · rcases Standing.transaction_after (T := T) (g := G who) (c := turn.call) (w := s.world)
      cancelled with hsame | ⟨hnew, hlt'⟩
    · exact .inl (hsame.symm.trans htx)
    · obtain rfl := Option.some.inj (hnew.symm.trans htx)
      exact .inr ⟨Nat.le_refl _, hlt'⟩

/-- Every event that fits the terms keeps the invariant. -/
theorem Inv.step {e : Event} (h : Inv T G s) (hfits : Fits T s e) :
    Inv T (standings T G s e) (s.step e) := by
  -- one case for each event, and the standing of one participant changes with it
  cases e with
  | create store router address => exact h.create hfits.1 hfits.2
  | request who what =>
    simp only [standings]
    split
    · next staged n session ht => exact h.request ht hfits
    · next hno =>
      rw [System.step, request_of_not_idle hno]
      exact h
  | edit who e => exact h.edit
  | take worker =>
    simp only [standings, System.step]
    split
    · next m transport htake =>
      rw [take_of_some htake]
      obtain ⟨-, -, -, -, -, -, -, rfl⟩ := Transport.take?_eq_some_iff.1 htake
      refine h.start (k := .worker worker) rfl hfits.1 ⟨rfl, rfl⟩ ?_
      -- only a sound message makes its worker owe something
      by_cases hm : T.sound m
      · exact .inr ⟨if_pos hm, hm, hfits.2⟩
      · exact .inl (if_neg hm)
    · next hnone =>
      rw [take_of_none hnone]
      exact h
  | hand p m =>
    -- a receiver on its own owes nothing, as nobody does who is not there yet
    have hnew := h.absent s.tasks.length (Nat.le_refl _)
    have hstart := h.start (k := .receiver p) (m := m) (g := {}) rfl hfits ⟨rfl, rfl⟩ (.inl rfl)
    rw [← hnew, G.set_eq_self] at hstart
    exact hstart
  | call who cancelled =>
    simp only [standings]
    split
    · next turn hturn => exact h.call hturn hfits
    · next hnone =>
      rw [System.step, call_of_none hnone]
      exact h
  | disturb d => exact h.disturb hfits

end System

end Outbox
