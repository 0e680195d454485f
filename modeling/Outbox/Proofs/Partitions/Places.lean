import Outbox.Proofs.Actions

/-!
# Places of documents

A caller keeps a document at a place: under a key, in a partition or in none. The store knows keys
only, and keeps a document of a partition under the names of both with a slash between them. Names
may hold slashes themselves, so that two places can have one stored key: the places *collide*, and
whatever is written for one of them is read for the other.

* `Place.storedKey_eq_iff`             two places have one stored key when they are equal or collide
* `Place.not_collides_of_keys`         keys without a slash do not collide
* `Place.not_collides_of_partitions`   nor do partitions without a slash
* `Database.write?`                    what an action writes, and for which place
-/

namespace Outbox

/-- Where a caller keeps a document. -/
structure Place where
  partition : Option String
  key : String
deriving DecidableEq

namespace Place

/-- The key under which the store keeps the document. -/
def storedKey (p : Place) : String := Store.keyWithin p.partition p.key

/-- A slash in the key of the first place can be taken for the one behind a partition: what stands
before it, within the first partition, is the second partition, and what follows is the second
key. -/
def RunsInto (a b : Place) : Prop :=
  ∃ piece, b.partition = some (Store.keyWithin a.partition piece) ∧
    a.key = Store.keyWithin (some piece) b.key

/-- Where the partition of one of the places ends cannot be seen in its stored key. -/
def Collides (a b : Place) : Prop := a.RunsInto b ∨ b.RunsInto a

end Place

/-- What is read for a place. -/
def Store.read? (s : Store) : Place → Option Body
  | ⟨some partition, key⟩ => s.documentIn? partition key
  | ⟨none, key⟩ => s.document? key

/-- A document is read under the stored key of its place. -/
theorem Store.read?_eq (s : Store) (p : Place) : s.read? p = s.document? p.storedKey := by
  obtain ⟨_ | partition, key⟩ := p <;> rfl

/-! ### Names with a slash between them -/

/-- Two names with a slash between them can be told apart, unless a piece can go to either name. -/
theorem append_slash_eq_iff {p k q l : List Char} :
    p ++ '/' :: k = q ++ '/' :: l ↔ p = q ∧ k = l ∨
      (∃ piece, q = p ++ '/' :: piece ∧ k = piece ++ '/' :: l) ∨
      ∃ piece, p = q ++ '/' :: piece ∧ l = piece ++ '/' :: k := by
  constructor
  · intro h
    -- one of the first names begins with the other, and what is left of it lies in between
    obtain ⟨rest, hq, hk⟩ | ⟨rest, hp, hl⟩ := List.append_eq_append_iff.1 h
    -- nothing in between is equality; else the slash comes first, and then the piece
    · cases rest with
      | nil =>
        simp only [List.nil_append, List.cons.injEq, true_and] at hk
        exact .inl ⟨by simpa using hq.symm, hk⟩
      | cons c piece =>
        simp only [List.cons_append, List.cons.injEq] at hk
        obtain ⟨rfl, hk⟩ := hk
        exact .inr (.inl ⟨piece, hq, hk⟩)
    · cases rest with
      | nil =>
        simp only [List.nil_append, List.cons.injEq, true_and] at hl
        exact .inl ⟨by simpa using hp, hl.symm⟩
      | cons c piece =>
        simp only [List.cons_append, List.cons.injEq] at hl
        obtain ⟨rfl, hl⟩ := hl
        exact .inr (.inr ⟨piece, hp, hl⟩)
  · rintro (⟨rfl, rfl⟩ | ⟨piece, rfl, rfl⟩ | ⟨piece, rfl, rfl⟩) <;> simp

namespace Store

variable {p k q l : String}

/-- Without a partition the key is stored as it is. -/
theorem keyWithin_none : keyWithin none k = k := rfl

/-- With a partition the key is stored behind it and a slash. -/
theorem toList_keyWithin :
    (keyWithin (some p) k).toList = p.toList ++ '/' :: k.toList := by
  simp [keyWithin]

/-- Stored keys with partitions are equal when the places are, or when one runs into the other. -/
theorem keyWithin_some_inj :
    keyWithin (some p) k = keyWithin (some q) l ↔ p = q ∧ k = l ∨
      (∃ piece, q = keyWithin (some p) piece ∧ k = keyWithin (some piece) l) ∨
      ∃ piece, p = keyWithin (some q) piece ∧ l = keyWithin (some piece) k := by
  -- a piece of the texts as lists of characters is a text, and the other way round
  have hpiece : ∀ {p k q l : String},
      (∃ piece : List Char, q.toList = p.toList ++ '/' :: piece ∧
        k.toList = piece ++ '/' :: l.toList) ↔
      ∃ piece, q = keyWithin (some p) piece ∧ k = keyWithin (some piece) l := by
    intro p k q l
    constructor
    · rintro ⟨piece, hq, hk⟩
      refine ⟨.ofList piece, String.toList_inj.1 ?_, String.toList_inj.1 ?_⟩
      · rw [toList_keyWithin, String.toList_ofList, hq]
      · rw [toList_keyWithin, String.toList_ofList, hk]
    · rintro ⟨piece, rfl, rfl⟩
      exact ⟨piece.toList, toList_keyWithin, toList_keyWithin⟩
  rw [← String.toList_inj, toList_keyWithin, toList_keyWithin, append_slash_eq_iff, hpiece, hpiece,
    String.toList_inj, String.toList_inj]

end Store

/-! ### Places with one stored key -/

namespace Place

variable {a b : Place}

/-- Two places have one stored key exactly when they are equal or collide. -/
theorem storedKey_eq_iff : a.storedKey = b.storedKey ↔ a = b ∨ a.Collides b := by
  obtain ⟨p, k⟩ := a
  obtain ⟨q, l⟩ := b
  -- by the partitions; without one the key is stored as it is, and may look like another place
  cases p with
  | none =>
    cases q with
    | none => simp [storedKey, Collides, RunsInto, Store.keyWithin_none]
    | some q => simp [storedKey, Collides, RunsInto, Store.keyWithin_none]
  | some p =>
    cases q with
    | none => simp [storedKey, Collides, RunsInto, Store.keyWithin_none, eq_comm]
    | some q => simp [storedKey, Collides, RunsInto, Store.keyWithin_some_inj]

/-- The key b/c of the partition a and the key c of the partition a/b. -/
example : Collides ⟨some "a", "b/c"⟩ ⟨some "a/b", "c"⟩ :=
  .inl ⟨"b", by decide +kernel, by decide +kernel⟩

/-- A place that runs into another has a slash in its key. -/
theorem RunsInto.slash_mem_key (h : a.RunsInto b) : '/' ∈ a.key.toList := by
  obtain ⟨piece, -, hkey⟩ := h
  simp [hkey, Store.toList_keyWithin]

/-- A partition that a place of another partition runs into holds a slash. -/
theorem RunsInto.slash_mem_partition {p : String} (h : a.RunsInto b) (ha : a.partition = some p) :
    ∃ q, b.partition = some q ∧ '/' ∈ q.toList := by
  obtain ⟨piece, hpartition, -⟩ := h
  rw [ha] at hpartition
  exact ⟨_, hpartition, by simp [Store.toList_keyWithin]⟩

/-- Places whose keys hold no slash do not collide, whatever their partitions. -/
theorem not_collides_of_keys (ha : '/' ∉ a.key.toList) (hb : '/' ∉ b.key.toList) :
    ¬ a.Collides b
  | .inl h => ha h.slash_mem_key
  | .inr h => hb h.slash_mem_key

/-- Places in partitions whose names hold no slash do not collide, whatever their keys. -/
theorem not_collides_of_partitions {p q : String} (ha : a.partition = some p)
    (hb : b.partition = some q) (hp : '/' ∉ p.toList) (hq : '/' ∉ q.toList) : ¬ a.Collides b := by
  -- a collision needs a slash in the name of one of the partitions
  rintro (h | h)
  · obtain ⟨q', hq', hslash⟩ := h.slash_mem_partition ha
    obtain rfl := Option.some.inj (hb.symm.trans hq')
    exact hq hslash
  · obtain ⟨p', hp', hslash⟩ := h.slash_mem_partition hb
    obtain rfl := Option.some.inj (ha.symm.trans hp')
    exact hp hslash

end Place

/-! ### What an action writes -/

namespace Database

variable {d : Database} {id : StagingId}

/-- The partition of a staging that is open. -/
def openPartition? (d : Database) (id : StagingId) : Option (Option String) :=
  match d.stagings[id]? with
  | some s => if s.mode = .closed then none else some s.partition
  | none => none

/-- What an action writes, if it is a put or a delete that is staged: the place, and what is to be
read there. -/
def write? (d : Database) : Action → Option (Place × Option Body)
  | .put id key value => (d.openPartition? id).map fun partition => (⟨partition, key⟩, some value)
  | .delete id key => (d.openPartition? id).map fun partition => (⟨partition, key⟩, none)
  | _ => none

/-- An open staging takes a change under the stored key of its place. -/
theorem stage_of_open {partition : Option String}
    (h : d.openPartition? id = some partition) (key : String) (change : String → Change) :
    ∃ s, d.stagings[id]? = some s ∧ (d.stage id key change).2 = d.setStaging id
      { s with staged := s.staged ++ [change (Place.storedKey ⟨partition, key⟩)] } := by
  rw [openPartition?] at h
  -- a staging that is not there and one that is closed give no partition
  split at h
  · next s hs =>
    split at h
    · exact nomatch h
    · next hmode =>
      obtain rfl := Option.some.inj h
      exact ⟨s, hs, by simp [stage, hs, hmode, Place.storedKey]⟩
  · exact nomatch h

/-- A staging that is not open takes none. -/
theorem stage_of_not_open (h : d.openPartition? id = none) (key : String)
    (change : String → Change) : (d.stage id key change).2 = d := by
  rw [openPartition?] at h
  rw [stage]
  cases hs : d.stagings[id]? with
  | none => rfl
  | some s =>
    simp only [hs, ite_eq_left_iff, reduceCtorEq, imp_false, Decidable.not_not] at h
    simp [h]

end Database

/-- What the action of the moment writes. -/
def Moment.write? (m : Moment) : Option (Place × Option Body) := m.database.write? m.action

end Outbox
