import Outbox.Proofs.Direct.Stored
import Outbox.Proofs.Partitions.Origins
import Outbox.Proofs.Partitions.Unseen

/-!
# Partitions

A put or a delete shows at its own place only, in whatever way it is applied, except for the places
that collide with it. No other condition is needed, and this one cannot be dropped: a document that
is put for a place is read for every place that collides with it.

* `Database.exists_write_shown`       a write is seen at every place with its stored key
* `Database.partitions_isolated`      which writes show at a place, and when
* `Database.seen_in_other_partition`  a write that shows in another partition
-/

namespace Outbox

namespace Database

/-- A database with nothing but one staging, which stands alone. -/
def alone (partition : Option String) (staged : List Change) : Database :=
  { stagings := [⟨"db", .standalone, partition, staged⟩] }

/-- A staging that stands alone hands to its store what was staged on it. -/
theorem store_complete_alone {partition : Option String} {staged : List Change}
    (hplain : recordIds staged = []) :
    ((alone partition staged).complete 0).2.store "db" = staged.foldl Store.apply {} := by
  have hstore : (alone partition staged).store "db" = {} := store_empty "db"
  have hstaging : (alone partition staged).stagings[0]? =
      some ⟨"db", .standalone, partition, staged⟩ := rfl
  obtain ⟨reason, hfault, -⟩ | ⟨-, heq⟩ := complete_standalone hplain hstaging
  · simp [hstore] at hfault
  · rw [heq, store_setStore, if_pos rfl, hstore]

/-- A document that is put for one place is read for every place with its stored key. -/
theorem exists_write_shown {a b : Place} (h : a.storedKey = b.storedKey) :
    ∃ (before later : List Action) (write : Action) (value : Option Body) (name : String),
      let d := ({} : Database).after before
      d.write? write = some (a, value) ∧
        (((d.perform write).2.after later).store name).read? b ≠
          ((d.after later).store name).read? b := by
  -- one staging, one document put, one completion: the shortest course in which a write shows
  refine ⟨[.newStaging "db", .openStaging 0 { partitionKey := a.partition }], [.complete 0],
    .put 0 a.key [], some [], "db", rfl, ?_⟩
  -- the staging stands alone in both runs, and has staged the document in one of them
  show (((alone a.partition [.put a.storedKey []]).complete 0).2.store "db").read? b ≠
    (((alone a.partition []).complete 0).2.store "db").read? b
  rw [store_complete_alone rfl, store_complete_alone rfl, Store.read?_eq, Store.read?_eq, h]
  simp [Store.document?, Store.apply]

/-- A write shows at one place only, in whatever way it is applied: over all runs, what is read for
a place is the same with a write for another place and without it exactly when the two do not
collide. What is read for a place changes only when a transaction is committed or a staging is
completed, to what an earlier put or delete has written for this place or one that collides with
it. The records are never concerned. -/
theorem partitions_isolated (b : Place) :
    (∀ a : Place,
      (∀ (before later : List Action) (write : Action) (value : Option Body) (name : String),
        let d := ({} : Database).after before
        d.write? write = some (a, value) →
          (((d.perform write).2.after later).store name).read? b =
            ((d.after later).store name).read? b) ↔
      a ≠ b ∧ ¬ a.Collides b) ∧
    (∀ (before : List Action) (action : Action) (name : String),
      let past := ({} : Database).moments before
      let now : Moment := ⟨({} : Database).after before, action⟩
      (now.next.store name).read? b ≠ (now.database.store name).read? b →
        ((∃ tx, action = .commit tx) ∨ ∃ id, action = .complete id) ∧
        ∃ m ∈ past, ∃ a, m.write? = some (a, (now.next.store name).read? b) ∧
          (a = b ∨ a.Collides b)) ∧
    ∀ (before later : List Action) (write : Action) (a : Place) (value : Option Body)
      (name : String),
      let d := ({} : Database).after before
      d.write? write = some (a, value) →
        (((d.perform write).2.after later).store name).records =
          ((d.after later).store name).records := by
  refine ⟨fun a => ⟨fun h => ?_, ?_⟩, ?_, ?_⟩
  -- places that are the same or collide share a stored key, and a write to one shows in the other
  · rw [← not_or, ← Place.storedKey_eq_iff]
    intro hkey
    obtain ⟨before, later, write, value, name, hwrite, hshown⟩ := exists_write_shown hkey
    exact hshown (h before later write value name hwrite)
  · rintro ⟨hne, hclear⟩ before later write value name d hwrite
    -- places with different stored keys do not disturb each other
    have hkey : b.storedKey ≠ a.storedKey := by
      rw [ne_comm, ne_eq, Place.storedKey_eq_iff]
      exact not_or.2 ⟨hne, hclear⟩
    exact read?_after_write hwrite hkey later name
  · intro before action name past now hchanged
    rw [Store.read?_eq, Store.read?_eq] at hchanged
    -- a document changes when a change to its stored key is applied
    obtain hkept | ⟨hwhen, c, hc, hwritten⟩ :=
      document?_perform now.database action name b.storedKey
    · exact absurd hkept hchanged
    · -- the change that has been applied has waited, so it has been asked for
      obtain ⟨m, hm, a, hwrite, hkey⟩ := traced_after before c hc _ _ hwritten
      refine ⟨hwhen, m, hm, a, ?_, Place.storedKey_eq_iff.1 hkey⟩
      rw [hwrite, Store.read?_eq]
      rfl
  · intro before later write a value name d hwrite
    exact records_after_write hwrite later name

/-- A write in one partition does not always leave another one alone: the key b/c of the partition a
is the key c of the partition a/b. -/
theorem seen_in_other_partition :
    ¬ ∀ (before later : List Action) (write : Action) (a b : Place) (value : Option Body)
        (name : String),
      let d := ({} : Database).after before
      d.write? write = some (a, value) → a ≠ b →
        (((d.perform write).2.after later).store name).read? b =
          ((d.after later).store name).read? b := by
  -- the key is split at the first slash in one place and at the second in the other
  intro h
  have hsame := h [.newStaging "db", .openStaging 0 { partitionKey := some "a" }] [.complete 0]
    (.put 0 "b/c" [1]) ⟨some "a", "b/c"⟩ ⟨some "a/b", "c"⟩ (some [1]) "db" (by decide +kernel)
    (by decide +kernel)
  revert hsame
  decide +kernel

end Database

end Outbox
