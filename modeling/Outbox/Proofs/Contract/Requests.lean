import Outbox.Proofs.Contract.Invariant

/-!
# Requests and commits

The requests on a session are numbered, and the log tells of their ends and of the commits that
have succeeded. In every state that is reached, a request that has ended had its transaction
committed exactly when it was a commit and has ended well.

* `System.Requests.step`  every event that fits the terms keeps this
-/

namespace Outbox

variable {T : Terms} {G : Standings} {s : System}

/-- What the log tells of the requests of a participant. -/
def Task.Logged (log : List Entry) (g : Standing) (who : Nat) : Task → Prop
  | idle _ k _ => (∀ n changes, .committed who n changes ∈ log → n ≤ k) ∧
      (∀ n what result, .returned who n what result ∈ log → n ≤ k)
  | busy _ k _ _ _ => (∀ n changes, .committed who n changes ∈ log → n ≤ k) ∧
      (∀ n what result, .returned who n what result ∈ log → n < k) ∧
      (g.committed = true ↔ ∃ changes, .committed who k changes ∈ log)
  | delivery _ _ _ => ∀ n what result, .returned who n what result ∉ log
  | gone => True

/-- The end of a request and the log agree on whether its transaction was committed. -/
def ResultLogged (log : List Entry) (who : Nat) : Prop :=
  ∀ n what result, .returned who n what result ∈ log →
    ((∃ changes, .committed who n changes ∈ log) ↔ what = .commit ∧ result = .ok ())

/-- Entries of others do not count. -/
theorem mem_append_of_who {log entries : List Entry} {who : Nat} {entry : Entry}
    (hentries : ∀ e ∈ entries, e.who ≠ who) (h : entry.who = who) :
    entry ∈ log ++ entries ↔ entry ∈ log := by
  rw [List.mem_append]
  exact ⟨fun hmem => hmem.resolve_right fun hnew => hentries entry hnew h, .inl⟩

/-- Entries of others change nothing in what the log says of a task. -/
theorem Task.Logged.append {t : Task} {log entries : List Entry} {g : Standing} {who : Nat}
    (h : t.Logged log g who) (hentries : ∀ e ∈ entries, e.who ≠ who) :
    t.Logged (log ++ entries) g who := by
  have hc : ∀ n changes, Entry.committed who n changes ∈ log ++ entries ↔
      .committed who n changes ∈ log := fun n changes => mem_append_of_who hentries rfl
  have hr : ∀ n what result, Entry.returned who n what result ∈ log ++ entries ↔
      .returned who n what result ∈ log := fun n what result => mem_append_of_who hentries rfl
  cases t with
  | gone => trivial
  | _ => simpa only [Logged, hc, hr] using h

/-- Nor in what it says of the requests of a participant. -/
theorem ResultLogged.append {log entries : List Entry} {who : Nat} (h : ResultLogged log who)
    (hentries : ∀ e ∈ entries, e.who ≠ who) : ResultLogged (log ++ entries) who := by
  intro n what result hmem
  have hc : ∀ n changes, Entry.committed who n changes ∈ log ++ entries ↔
      .committed who n changes ∈ log := fun n changes => mem_append_of_who hentries rfl
  simp only [hc]
  exact h n what result ((mem_append_of_who hentries rfl).1 hmem)

section

variable {log : List Entry} {g : Standing} {who k : Nat} {staged : List Change}
  {session : Session} {what : Session.Request}
  {rest : Program (Option Session × Except CallError Unit)}

/-- What is left of the latest request, with its end on the log when nothing is left. -/
theorem logged_ofRequest (hc : ∀ n changes, .committed who n changes ∈ log → n ≤ k)
    (hr : ∀ n what result, .returned who n what result ∈ log → n < k)
    (hflag : g.committed = true ↔ ∃ changes, .committed who k changes ∈ log) :
    (Task.ofRequest staged k session what rest).Logged (log ++ Task.ending who k what rest) g
      who := by
  -- the request goes on, or it has ended and its end is the last entry
  cases rest with
  | call c next =>
    rw [show Task.ending who k what (.call c next) = [] from rfl, List.append_nil]
    exact ⟨hc, hr, hflag⟩
  | done result =>
    obtain ⟨session', result⟩ := result
    cases session' with
    | none => trivial
    | some session' =>
      refine ⟨fun n changes hmem => ?_, fun n what' result' hmem => ?_⟩
      · rcases List.mem_append.1 hmem with hold | hnew
        · exact hc n changes hold
        · exact nomatch List.mem_singleton.1 hnew
      -- the end that is new bears the number of the request, and all older ones are lower
      · rcases List.mem_append.1 hmem with hold | hnew
        · exact Nat.le_of_lt (hr n what' result' hold)
        · obtain ⟨-, rfl, -, -⟩ := Entry.returned.inj (List.mem_singleton.1 hnew)
          exact Nat.le_refl _

/-- The end of the latest request tells the truth about its commit. -/
theorem resultLogged_ofRequest (h : ResultLogged log who)
    (hflag : g.committed = true ↔ ∃ changes, .committed who k changes ∈ log)
    (hafter : ∀ result, rest = .done result →
      (g.committed = true ↔ what = .commit ∧ result.2 = .ok ())) :
    ResultLogged (log ++ Task.ending who k what rest) who := by
  intro n what' result' hmem
  -- the end of a request adds no commit to the log
  have hc : ∀ n changes, Entry.committed who n changes ∈ log ++ Task.ending who k what rest ↔
      .committed who n changes ∈ log := by
    intro n changes
    rw [List.mem_append, mem_ending]
    refine ⟨fun hmem => hmem.resolve_right fun ⟨_, _, heq⟩ => ?_, .inl⟩
    exact nomatch heq
  simp only [hc]
  rcases List.mem_append.1 hmem with hold | hnew
  · exact h n what' result' hold
  · obtain ⟨result, hrest, heq⟩ := mem_ending.1 hnew
    obtain ⟨-, rfl, rfl, rfl⟩ := Entry.returned.inj heq
    exact hflag.symm.trans (hafter result hrest)

/-- Noting a call of the latest request does not touch those that have ended. -/
theorem ResultLogged.note (h : ResultLogged log who)
    (hr : ∀ n what result, .returned who n what result ∈ log → n < k) {contribution : List Change}
    {β : Type} (c : Call β) (reply : β) :
    ResultLogged (log ++ Task.note who k contribution c reply) who := by
  intro n what' result' hmem
  -- a note is about calls, and never the end of a request
  have hold : Entry.returned who n what' result' ∈ log := by
    refine (List.mem_append.1 hmem).resolve_right fun hnew => ?_
    rcases mem_note hnew with heq | ⟨_, _, heq⟩ <;> exact nomatch heq
  have hc : ∀ changes, Entry.committed who n changes ∈
      log ++ Task.note who k contribution c reply ↔ .committed who n changes ∈ log := by
    intro changes
    refine ⟨fun hmem => (List.mem_append.1 hmem).resolve_right fun hnew => ?_,
      fun hmem => List.mem_append.2 (.inl hmem)⟩
    rcases mem_note hnew with heq | ⟨_, _, heq⟩
    -- were it this commit, the request would have ended before its commit was noted
    · obtain ⟨-, rfl, -⟩ := Entry.committed.inj heq
      exact Nat.lt_irrefl _ (hr _ _ _ hold)
    · exact nomatch heq
  simp only [hc]
  exact h n what' result' hold

end

namespace System

/-- What the log tells of the requests of all participants. -/
structure Requests (G : Standings) (s : System) : Prop where
  tasks : ∀ i (t : Task), s.tasks[i]? = some t → t.Logged s.log (G i) i
  who_lt : ∀ e ∈ s.log, e.who < s.tasks.length
  result : ∀ i, ResultLogged s.log i

/-- One participant has moved on, and the new entries tell of it. -/
theorem Requests.move {s' : System} {who : Nat} {g : Standing} (entries : List Entry)
    (h : Requests G s) (hlog : s'.log = s.log ++ entries) (hwho : ∀ e ∈ entries, e.who = who)
    (htasks : ∀ i, i ≠ who → s'.tasks[i]? = s.tasks[i]?)
    (hlength : s.tasks.length ≤ s'.tasks.length) (hlt : who < s'.tasks.length)
    (hown : ∀ t : Task, s'.tasks[who]? = some t → t.Logged s'.log g who)
    (hresult : ResultLogged s'.log who) : Requests (G.set who g) s' := by
  have hothers : ∀ i, i ≠ who → ∀ e ∈ entries, e.who ≠ i :=
    fun i hi e he heq => hi (heq.symm.trans (hwho e he))
  refine ⟨fun i t ht => ?_, fun e he => ?_, fun i => ?_⟩
  · by_cases hi : i = who
    · subst hi
      rw [Standings.set_self]
      exact hown t ht
    · -- nothing new tells of the others
      rw [Standings.set_of_ne G g hi, hlog]
      rw [htasks i hi] at ht
      exact (h.tasks i t ht).append (hothers i hi)
  · rw [hlog] at he
    rcases List.mem_append.1 he with hold | hnew
    · exact Nat.lt_of_lt_of_le (h.who_lt e hold) hlength
    · exact hwho e hnew ▸ hlt
  · by_cases hi : i = who
    · exact hi ▸ hresult
    · rw [hlog]
      exact (h.result i).append (hothers i hi)

/-- A participant that has just come tells of nothing yet. -/
theorem Requests.join {s' : System} {t : Task} {g : Standing} (h : Requests G s)
    (hlog : s'.log = s.log) (htasks : s'.tasks = s.tasks ++ [t])
    (ht : (∀ entry ∈ s.log, entry.who ≠ s.tasks.length) → t.Logged s.log g s.tasks.length) :
    Requests (G.set s.tasks.length g) s' := by
  have hnone : ∀ entry ∈ s.log, entry.who ≠ s.tasks.length :=
    fun entry he => Nat.ne_of_lt (h.who_lt entry he)
  refine h.move [] (by simp [hlog]) (by simp) (fun i hi => ?_) ?_ ?_ (fun t' ht' => ?_)
    fun n what result hmem => ?_
  · rw [htasks]
    exact getElem?_tasks_append t hi
  · simp [htasks]
  · simp [htasks]
  · obtain rfl : t = t' := Option.some.inj (by simpa [htasks] using ht')
    rw [hlog]
    exact ht hnone
  · exact absurd rfl (hnone _ (hlog ▸ hmem))

/-- An edit makes no entry. -/
theorem Requests.edit {who : Nat} {e : Edit} (h : Requests G s) :
    Requests G (s.edit who e) := by
  rcases s.edit_cases who e with heq | ⟨staged, n, session, id, database, ht, -, -, heq⟩
  · rw [heq]
    exact h
  · obtain ⟨hlt, -⟩ := List.getElem?_eq_some_iff.1 ht
    rw [heq, ← G.set_eq_self who]
    refine h.move [] (by simp) (by simp) (fun i hi => List.getElem?_set_ne hi.symm) (by simp)
      (by simpa using hlt) (fun t ht' => ?_) (h.result who)
    obtain rfl : Task.idle _ _ _ = t := by simpa [hlt] using ht'
    -- what is staged does not count for what the log tells
    have hlogged : (Task.idle staged n session).Logged s.log (G who) who := h.tasks who _ ht
    exact hlogged

/-- A request that begins has its own number, and no commit of it is logged. -/
theorem Requests.request {who n : Nat} {staged : List Change} {session : Session}
    {what : Session.Request} (h : Requests G s) (hinv : Inv T G s)
    (ht : s.tasks[who]? = some (.idle staged n session))
    (hopening : ∀ opening, what = .openWith opening → T.opening opening) :
    Requests (G.set who { G who with committed := false }) (s.request who what) := by
  obtain ⟨hlt, -⟩ := List.getElem?_eq_some_iff.1 ht
  obtain ⟨session, rfl, hstands⟩ := hinv.keeps who _ ht
  obtain ⟨hcommitted, hreturned⟩ := h.tasks who _ ht
  -- the request has a new number, so the log tells of no commit of it
  have hkeeps := keeps_perform hstands.forget rfl hopening
  rw [request_of_idle ht]
  generalize (Session.outboxed session).perform what = rest at hkeeps ⊢
  have hflag : ({ G who with committed := false } : Standing).committed = true ↔
      ∃ changes, .committed who (n + 1) changes ∈ s.log := by
    refine ⟨fun hfalse => absurd hfalse (by simp), fun hlogged => ?_⟩
    obtain ⟨changes, hmem⟩ := hlogged
    have hle := hcommitted _ _ hmem
    omega
  refine h.move _ rfl (fun e he => ?_) (fun i hi => List.getElem?_set_ne hi.symm) (by simp)
    (by simpa using hlt) (fun t ht' => ?_) ?_
  · obtain ⟨result, -, rfl⟩ := mem_ending.1 he
    rfl
  · obtain rfl : Task.ofRequest _ _ _ _ _ = t := by simpa [hlt] using ht'
    refine logged_ofRequest (fun k changes hmem => ?_) (fun k what' result hmem => ?_) hflag
    · exact Nat.le_succ_of_le (hcommitted k changes hmem)
    · exact Nat.lt_succ_of_le (hreturned k what' result hmem)
  · refine resultLogged_ofRequest (h.result who) hflag fun result hrest => ?_
    subst hrest
    exact (hkeeps s.world (.refl hinv.shared)).2

/-- A call goes on with what the log tells of its request. -/
theorem Requests.call {who : Nat} {turn : Turn} {cancelled : Bool} (h : Requests G s)
    (hinv : Inv T G s) (hturn : s.tasks[who]?.bind (Task.turn? who) = some turn) :
    Requests (G.set who ((G who).after T turn.call (World.answer cancelled turn.call s.world).1))
      (s.call who cancelled) := by
  obtain ⟨t, ht, hturn'⟩ := Option.bind_eq_some_iff.1 hturn
  obtain ⟨hlt, -⟩ := List.getElem?_eq_some_iff.1 ht
  have hown := h.tasks who t ht
  rw [call_of_turn hturn]
  cases Task.hasTurn_of_turn? hturn' with
  | busy staged n session what c next =>
    obtain ⟨session, rfl, hrest⟩ := hinv.keeps who _ ht
    obtain ⟨hcommitted, hreturned, hflag⟩ := hown
    obtain ⟨hlawful, hnext⟩ := hrest s.world (.refl hinv.shared) (admits_session ..)
    have hshared := shared_answer cancelled hinv.shared hlawful
    -- the standing and the log learn of a commit at the same moment
    have hflag' : ((G who).after T c (World.answer cancelled c s.world).1).committed = true ↔
        ∃ changes, .committed who n changes ∈ s.log ++
          Task.note who n (Role.session staged session).contribution c
            (World.answer cancelled c s.world).1 := by
      rw [Standing.committed_after who n (Role.session staged session).contribution, hflag]
      simp only [List.mem_append, exists_or]
    rw [← List.append_assoc]
    refine h.move _ (List.append_assoc ..) (fun e he => ?_)
      (fun i hi => List.getElem?_set_ne hi.symm) (by simp) (by simpa using hlt)
      (fun t ht' => ?_) ?_
    -- entries: what the call has done, and the end of the request if it was the last call
    · rcases List.mem_append.1 he with hnote | hend
      · rcases mem_note hnote with rfl | ⟨_, _, rfl⟩ <;> rfl
      · obtain ⟨result, -, rfl⟩ := mem_ending.1 hend
        rfl
    · obtain rfl : Task.ofRequest _ _ _ _ _ = t := by simpa [hlt] using ht'
      -- the task that is left: its commits and ends bear numbers up to that of the request
      refine logged_ofRequest (fun k changes hmem => ?_) (fun k what' result hmem => ?_) hflag'
      · rcases List.mem_append.1 hmem with hold | hnote
        · exact hcommitted k changes hold
        · rcases mem_note hnote with heq | ⟨_, _, heq⟩
          · obtain ⟨-, rfl, -⟩ := Entry.committed.inj heq
            exact Nat.le_refl _
          · cases heq
      · rcases List.mem_append.1 hmem with hold | hnote
        · exact hreturned k what' result hold
        · rcases mem_note hnote with heq | ⟨_, _, heq⟩ <;> cases heq
    -- ends: the request ends well exactly when its commit is on the log
    · refine resultLogged_ofRequest ((h.result who).note hreturned c _) hflag'
        fun result hdone => ?_
      have hafter := hnext cancelled
      rw [hdone] at hafter
      exact (hafter _ (.refl hshared)).2
  -- a delivery makes no requests, so the log holds no end of it before or after
  | delivery k m c next =>
    refine h.move _ rfl (fun e he => ?_) (fun i hi => List.getElem?_set_ne hi.symm) (by simp)
      (by simpa using hlt) (fun t ht' => ?_) fun n what result hmem => ?_
    · rcases mem_note he with rfl | ⟨_, _, rfl⟩ <;> rfl
    · obtain rfl : Task.delivery _ _ _ = t := by simpa [hlt] using ht'
      intro n what result hmem
      rcases List.mem_append.1 hmem with hold | hnote
      · exact hown n what result hold
      · rcases mem_note hnote with heq | ⟨_, _, heq⟩ <;> cases heq
    · rcases List.mem_append.1 hmem with hold | hnote
      · exact absurd hold (hown n what result)
      · rcases mem_note hnote with heq | ⟨_, _, heq⟩ <;> cases heq

/-- Every event that fits the terms keeps what the log tells of requests. -/
theorem Requests.step {e : Event} (h : Requests G s) (hinv : Inv T G s) (hfits : Fits T s e) :
    Requests (standings T G s e) (s.step e) := by
  -- a new participant has no entries; requests and calls are the two cases with work in them
  cases e with
  | create store router address =>
    refine h.join rfl rfl fun hnone => ?_
    exact ⟨fun _ _ hmem => absurd rfl (hnone _ hmem), fun _ _ _ hmem => absurd rfl (hnone _ hmem)⟩
  | request who what =>
    simp only [standings]
    split
    · next staged n session ht => exact h.request hinv ht hfits
    · next hno =>
      rw [System.step, request_of_not_idle hno]
      exact h
  | edit who e => exact h.edit
  | take worker =>
    simp only [standings, System.step]
    split
    · next m transport htake =>
      rw [take_of_some htake]
      exact h.join rfl rfl fun hnone _ _ _ hmem => absurd rfl (hnone _ hmem)
    · next hnone =>
      rw [take_of_none hnone]
      exact h
  | hand p m =>
    have hjoin : Requests (G.set s.tasks.length (G s.tasks.length)) (s.start (.receiver p) m) :=
      h.join rfl rfl fun hnone _ _ _ hmem => absurd rfl (hnone _ hmem)
    rw [G.set_eq_self] at hjoin
    exact hjoin
  | call who cancelled =>
    simp only [standings]
    split
    · next turn hturn => exact h.call hinv hturn
    · next hnone =>
      rw [System.step, call_of_none hnone]
      exact h
  | disturb d => exact ⟨h.tasks, h.who_lt, h.result⟩

end System

end Outbox
