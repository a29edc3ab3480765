import Roster.Proofs.Store.Merging

/-!
Translation as a normal form. A node that stores the fleet-wide pool under one of its names keeps
of an entry what is left when both names are read alike, so it does not show which copy of an entry
arrived.
-/

namespace Roster

namespace Migration

variable {migration : Migration}

/-- Outside phase two, the name under which a pool is stored depends on how both names are read. -/
theorem translatePool_unifyPool (settled : migration.phase ≠ .two) (pool : String) :
    migration.translatePool (unifyPool migration.mapTarget pool) =
      migration.translatePool pool := by
  unfold unifyPool
  split
  · -- The new name is read as the old one, and the node stores both under one name.
    rename_i new
    subst new
    unfold translatePool
    cases named : migration.phase with
    | one => simp
    | two => exact absurd named settled
    | three => simp
  · rfl

/-- Outside phase two, a copy is stored as any other copy that is spelled alike. -/
theorem translate_unify (settled : migration.phase ≠ .two) (entry : Entry) :
    migration.translate (entry.unify migration.mapTarget) = migration.translate entry := by
  -- The services are translated one by one, and only in their pools.
  have same : ∀ service : Service,
      migration.translateService (service.unify migration.mapTarget) =
        migration.translateService service := by
    intro service
    simp only [Service.unify, translateService, translatePool_unifyPool settled]
  simp only [translate, Entry.unify, Option.map_map, Function.comp_def, List.map_map, same]

end Migration

namespace Store

/-- Offers by a peer are offers of the entries that are not malformed, each translated. -/
theorem mergeAll_eq (store : Store) (migration : Migration) (entries : List Entry) :
    store.mergeAll migration entries =
      ((entries.filter Entry.isWellFormed).map migration.translate).foldl put store := by
  -- Induction on the entries: an ill-formed one is filtered out on one side and passed by on the
  -- other.
  unfold mergeAll
  induction entries generalizing store with
  | nil => rfl
  | cons entry rest ih =>
    rw [List.foldl_cons, ih, merge, List.filter_cons]
    split <;> rfl

/-- Outside phase two, the copies that arrive leave what their one spelling would have left. -/
theorem mergeAll_unify {migration : Migration} (settled : migration.phase ≠ .two) (store : Store)
    (entries : List Entry) :
    store.mergeAll migration (entries.map (Entry.unify migration.mapTarget)) =
      store.mergeAll migration entries := by
  -- Outside the second phase translating settles the spelling, so it does not matter what it was.
  simp only [mergeAll_eq, List.filter_map, List.map_map, Function.comp_def,
    Entry.isWellFormed_unify, Migration.translate_unify settled]

end Store

namespace Node

/--
An empty node outside phase two ends in the same state whichever copies of entries reach it.

The copies may come in any order, with any repetitions and with each service under either name of
the fleet-wide pool, as long as entries of one version differ in no more than that.
-/
theorem mergeAll_either_spelling {node : Node} (empty : node.store = ∅)
    (settled : node.profile.migration.phase ≠ .two) {first second : List Entry}
    (same : ∀ entry, entry ∈ second.map (Entry.unify node.profile.migration.mapTarget) ↔
      entry ∈ first.map (Entry.unify node.profile.migration.mapTarget))
    (distinct : Entry.OnePerVersion
      (first.map (Entry.unify node.profile.migration.mapTarget))) :
    (node.mergeAll first).node.store = (node.mergeAll second).node.store := by
  -- The copies leave what their one spelling would have left, and that is the same set of entries.
  rw [store_mergeAll, store_mergeAll, empty, ← Store.mergeAll_unify settled,
    ← Store.mergeAll_unify settled _ second]
  exact (Store.mergeAll_congr distinct same _).symm

/-- Copies in mixed spellings, in two orders and one of them twice, are stored alike. -/
theorem mergeAll_either_spelling_mixed :
    let node := Node.start { (default : Profile) with migration := ⟨"fleet", .three⟩ }
    let copy (first second : String) : Entry :=
      .live "a" [⟨"1", "a", "api", first, "x", ∅⟩, ⟨"2", "a", "api", second, "x", ∅⟩] 1 10 none
    let gone := Entry.tombstone "b" 5 none
    (node.mergeAll [copy "general" "fleet", gone]).node.store =
      (node.mergeAll [gone, copy "fleet" "general", copy "fleet" "fleet"]).node.store := by
  intro node copy gone
  refine mergeAll_either_spelling (by decide) (by decide) (fun entry => ?_) (by decide)
  -- Read alike, the copies are one entry.
  show entry ∈ [gone, copy "general" "general", copy "general" "general"] ↔
    entry ∈ [copy "general" "general", gone]
  simp only [List.mem_cons, List.not_mem_nil, or_false, or_self]
  exact or_comm

-- In phase two a node keeps the copy that came first.
example :
    let migration : Migration := ⟨"fleet", .two⟩
    let copy (pool : String) : Entry := .live "a" [⟨"1", "a", "api", pool, "x", ∅⟩] 1 10 none
    (∅ : Store).mergeAll migration [copy "general", copy "fleet"] ≠
      (∅ : Store).mergeAll migration [copy "fleet", copy "general"] := by
  decide

end Node

end Roster
