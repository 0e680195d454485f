import Outbox.Store.Basic

/-!
# What changes make of a store

A list of changes is applied exactly when the ids of its records are distinct and free, and then
every other record stays as it is. Two stores *agree* when they have the same documents and, under
every id, records with the same id and batch, whatever is marked as dispatched.

* `applyAll_eq_ok_iff`   when changes are applied, and what comes of them
* `record?_foldl_apply`  records under other ids stay
* `agrees_foldl_apply`   agreeing stores agree after the same changes
-/

namespace Outbox

/-- The record that a change adds. -/
def Change.record? : Change → Option Record
  | .record r => some r
  | .put _ _ | .delete _ => none

/-- The ids of the records that changes add. -/
def recordIds (changes : List Change) : List String :=
  (changes.filterMap Change.record?).map (·.id)

@[simp] theorem recordIds_nil : recordIds [] = [] := rfl

@[simp] theorem recordIds_put (key : String) (value : Body) (rest : List Change) :
    recordIds (.put key value :: rest) = recordIds rest := rfl

@[simp] theorem recordIds_delete (key : String) (rest : List Change) :
    recordIds (.delete key :: rest) = recordIds rest := rfl

@[simp] theorem recordIds_record (r : Record) (rest : List Change) :
    recordIds (.record r :: rest) = r.id :: recordIds rest := rfl

/-- The ids of two lists one after the other. -/
@[simp] theorem recordIds_append (a b : List Change) :
    recordIds (a ++ b) = recordIds a ++ recordIds b := by
  simp [recordIds]

/-- The id of every record among the changes is among the ids. -/
theorem mem_recordIds {changes : List Change} {r : Record} (h : Change.record r ∈ changes) :
    r.id ∈ recordIds changes :=
  List.mem_map_of_mem (List.mem_filterMap.2 ⟨_, h, rfl⟩)

namespace Store

/-- The record that is added is found under its id, and what stands under other ids stays. -/
@[simp] theorem record?_apply_record (s : Store) (r : Record) (id : String) :
    (s.apply (.record r)).record? id = if r.id = id then some r else s.record? id := by
  simp [record?, apply, Std.ExtTreeMap.getElem?_insert]

/-- An empty store has no record. -/
@[simp] theorem record?_empty (id : String) : ({} : Store).record? id = none := by
  simp [record?]

/-- Changes fit when the ids of their records are free, in the store and among themselves. -/
theorem takenId?_eq_none_iff {taken : String → Bool} {changes : List Change} :
    takenId? taken changes = none ↔
      (recordIds changes).Nodup ∧ ∀ id ∈ recordIds changes, taken id = false := by
  induction changes generalizing taken with
  | nil => simp [takenId?]
  | cons c rest ih =>
    cases c with
    -- documents have no ids, so nothing is taken that was free before
    | put key value => simpa [takenId?] using ih
    | delete key => simpa [takenId?] using ih
    | record r =>
      simp only [takenId?, recordIds_record, List.nodup_cons, List.mem_cons]
      -- the id of the record is taken for the rest of the changes
      by_cases ht : taken r.id = true
      · simp [ht]
      · rw [if_neg ht, ih]
        simp only [Bool.not_eq_true] at ht
        constructor
        · rintro ⟨hnd, hfree⟩
          have hr : r.id ∉ recordIds rest := fun hmem => by simpa using hfree r.id hmem
          refine ⟨⟨hr, hnd⟩, fun id hid => ?_⟩
          rcases hid with rfl | hid
          · exact ht
          · exact (Bool.or_eq_false_iff.1 (hfree id hid)).2
        · rintro ⟨⟨hr, hnd⟩, hfree⟩
          refine ⟨hnd, fun id hid => Bool.or_eq_false_iff.2 ⟨?_, hfree id (.inr hid)⟩⟩
          exact beq_false_of_ne fun heq => hr (heq ▸ hid)

/-- An id is free when there is no record under it. -/
theorem contains_eq_false_iff {s : Store} {id : String} :
    s.records.contains id = false ↔ s.record? id = none := by
  rw [Std.ExtTreeMap.contains_eq_isSome_getElem?, Option.isSome_eq_false_iff,
    Option.isNone_iff_eq_none, record?]

/-- When changes are applied, and what comes of them. -/
theorem applyAll_eq_ok_iff {s s' : Store} {changes : List Change} :
    s.applyAll changes = .ok s' ↔
      (recordIds changes).Nodup ∧ (∀ id ∈ recordIds changes, s.record? id = none) ∧
        s' = changes.foldl apply s := by
  unfold applyAll
  simp only [← contains_eq_false_iff, ← and_assoc, ← takenId?_eq_none_iff]
  cases takenId? s.records.contains changes with
  | none => simp [eq_comm]
  | some id => simp

/-- Records under ids that the changes do not add stay as they are. -/
theorem record?_foldl_apply {s : Store} {changes : List Change} {id : String}
    (h : id ∉ recordIds changes) : (changes.foldl apply s).record? id = s.record? id := by
  -- on the changes; a document touches no record
  induction changes generalizing s with
  | nil => rfl
  | cons c rest ih =>
    cases c with
    | put key value => exact ih h
    | delete key => exact ih h
    | record r =>
      simp only [recordIds_record, List.mem_cons, not_or] at h
      -- the first record is another one, and so are those behind it
      rw [List.foldl_cons, ih h.2, record?_apply_record, if_neg (Ne.symm h.1)]

/-- A record that the changes add is there afterwards. -/
theorem record?_foldl_apply_self {s : Store} {changes : List Change} {r : Record}
    (hnd : (recordIds changes).Nodup) (h : Change.record r ∈ changes) :
    (changes.foldl apply s).record? r.id = some r := by
  induction changes generalizing s with
  | nil => simp at h
  | cons c rest ih =>
    rcases List.mem_cons.1 h with rfl | hrest
    · rw [recordIds_record, List.nodup_cons] at hnd
      rw [List.foldl_cons, record?_foldl_apply hnd.1, record?_apply_record, if_pos rfl]
    · -- the record comes later, and nothing behind it has its id
      cases c with
      | put key value => exact ih hnd hrest
      | delete key => exact ih hnd hrest
      | record r' => exact ih (List.nodup_cons.1 hnd).2 hrest

/-- A record that is there after changes was there before, or the changes added it. -/
theorem mem_of_record?_foldl_apply {s : Store} {changes : List Change} {id : String} {r : Record}
    (h : (changes.foldl apply s).record? id = some r) :
    s.record? id = some r ∨ Change.record r ∈ changes ∧ r.id = id := by
  -- on the changes, with the store that the first one leaves
  induction changes generalizing s with
  | nil => exact .inl h
  | cons c rest ih =>
    -- what is there at the end was there after the first change, or a later one added it
    rcases ih (s := s.apply c) h with hs | ⟨hmem, hid⟩
    · cases c with
      | put key value => exact .inl hs
      | delete key => exact .inl hs
      | record r' =>
        rw [record?_apply_record] at hs
        split at hs
        · next heq =>
          obtain rfl := Option.some.inj hs
          exact .inr ⟨List.mem_cons_self, heq⟩
        · exact .inl hs
    · exact .inr ⟨List.mem_cons_of_mem _ hmem, hid⟩

/-- Changes that are applied leave every record that was there. -/
theorem record?_applyAll_of_some {s s' : Store} {changes : List Change} {id : String} {r : Record}
    (h : s.applyAll changes = .ok s') (hr : s.record? id = some r) : s'.record? id = some r := by
  obtain ⟨-, hfree, rfl⟩ := applyAll_eq_ok_iff.1 h
  rw [record?_foldl_apply, hr]
  -- the ids that the changes add were free, and this one was taken
  intro hmem
  simp [hfree id hmem] at hr

/-- To disarm a failure that is not armed changes nothing. -/
theorem disarm_of_none {s : Store} {call : StoreCall} (h : s.faults.get call = none) :
    s.disarm call = (none, s) := by
  -- the table of faults has one place for each call, so the calls are gone through
  have hset : s.faults.set call none = s.faults := by
    generalize s.faults = f at h
    cases f
    cases call <;> simp_all [StoreFaults.set, StoreFaults.get]
  rw [disarm, h, hset]

end Store

/-! ### Agreement up to marks -/

/-- The record as it was before anything of it was dispatched. -/
def Record.unmarked (r : Record) : Record := .new r.id r.batch

/-- What is marked as dispatched makes no difference to the unmarked record. -/
@[simp] theorem Record.unmarked_markDispatched (r : Record) :
    r.markDispatched.unmarked = r.unmarked := by
  simp [Record.unmarked]

/-- The stores have the same documents and, marks aside, the same records. -/
structure Store.Agrees (a b : Store) : Prop where
  documents : a.documents = b.documents
  records : ∀ id, (a.record? id).map Record.unmarked = (b.record? id).map Record.unmarked

namespace Store

/-- Stores that agree do so after the same change. -/
theorem agrees_apply {a b : Store} (h : Agrees a b) (c : Change) :
    Agrees (a.apply c) (b.apply c) := by
  cases c with
  -- both stores make the change at the same key, so neither gains on the other
  | put key value => exact ⟨by simp [apply, h.documents], h.records⟩
  | delete key => exact ⟨by simp [apply, h.documents], h.records⟩
  | record r =>
    refine ⟨h.documents, fun id => ?_⟩
    simp only [record?_apply_record]
    split
    · rfl
    · exact h.records id

/-- And after the same changes one after the other. -/
theorem agrees_foldl_apply {a b : Store} (h : Agrees a b) (changes : List Change) :
    Agrees (changes.foldl apply a) (changes.foldl apply b) := by
  induction changes generalizing a b with
  | nil => exact h
  | cons c rest ih => exact ih (agrees_apply h c)

/-- A mark is what agreement leaves aside. -/
theorem agrees_setDispatched {a b : Store} (h : Agrees a b) (id : String) :
    Agrees (a.setDispatched id) b := by
  refine ⟨h.documents, fun other => ?_⟩
  -- only the record under the id changes, and that one in nothing but its mark
  rw [← h.records other, record?_setDispatched]
  split
  · next heq => simp [← heq, Function.comp_def]
  · rfl

end Store

end Outbox
