import Roster.Node
import Roster.Proofs.Store.Version

/-!
Entries, stores and answers up to the two names of the fleet-wide pool. Reading the new name as the
old one undoes every translation, and it commutes with filtered readings and queries.
-/

namespace Roster

/-- The name of a pool, where the new name of the fleet-wide pool is read as the old one. -/
def unifyPool (mapTarget pool : String) : String := if pool = mapTarget then generalPool else pool

/-- A service with one name for the fleet-wide pool. -/
def Service.unify (mapTarget : String) (service : Service) : Service :=
  { service with pool := unifyPool mapTarget service.pool }

/-- An entry with one name for the fleet-wide pool in all its services. -/
def Entry.unify (mapTarget : String) (entry : Entry) : Entry :=
  { entry with services := entry.services.map (·.map (Service.unify mapTarget)) }

/-- A store with one name for the fleet-wide pool in all its entries. -/
def Store.unify (mapTarget : String) (store : Store) : Store :=
  store.map (Entry.unify mapTarget) fun _ => rfl

/-- Translation moves a pool only between the two names, which are read alike. -/
theorem unifyPool_translatePool (migration : Migration) (pool : String) :
    unifyPool migration.mapTarget (migration.translatePool pool) =
      unifyPool migration.mapTarget pool := by
  unfold Migration.translatePool
  cases migration.phase with
  | one =>
    by_cases named : pool = migration.mapTarget
    · -- The new name becomes the old one, which it is read as.
      simp [unifyPool, named]
    · simp [named]
  | two =>
    -- No name is changed.
    rfl
  | three =>
    by_cases named : pool = generalPool
    · -- The old name becomes the new one, which is read as the old one.
      simp [unifyPool, named]
    · simp [named]

namespace Entry

@[simp] theorem unify_nodeId (mapTarget : String) (entry : Entry) :
    (entry.unify mapTarget).nodeId = entry.nodeId := rfl

@[simp] theorem unify_maxAge (mapTarget : String) (entry : Entry) :
    (entry.unify mapTarget).maxAge = entry.maxAge := rfl

@[simp] theorem unify_services (mapTarget : String) (entry : Entry) :
    (entry.unify mapTarget).services = entry.services.map (·.map (Service.unify mapTarget)) := rfl

@[simp] theorem isWellFormed_unify (mapTarget : String) (entry : Entry) :
    (entry.unify mapTarget).isWellFormed = entry.isWellFormed := by
  simp [isWellFormed]

@[simp] theorem isExpired_unify (mapTarget : String) (entry : Entry) (now : Millis) :
    (entry.unify mapTarget).isExpired now = entry.isExpired now := by
  -- The pools play no part in the expiry.
  unfold isExpired
  rw [unify_services, unify_maxAge]
  cases entry.services with
  | none => rfl
  | some services => cases entry.maxAge <;> rfl

/-- A translated entry is spelled alike. -/
@[simp] theorem unify_translate (migration : Migration) (entry : Entry) :
    (migration.translate entry).unify migration.mapTarget = entry.unify migration.mapTarget := by
  -- The services are translated one by one, and only in their pools.
  have same : ∀ service : Service,
      (migration.translateService service).unify migration.mapTarget =
        service.unify migration.mapTarget := by
    intro service
    simp only [Service.unify, Migration.translateService, unifyPool_translatePool]
  simp only [unify, Migration.translate, Option.map_map, Function.comp_def, List.map_map, same]

@[simp] theorem allServices_unify (mapTarget : String) (entry : Entry) :
    (entry.unify mapTarget).allServices = entry.allServices.map (Service.unify mapTarget) := by
  -- A tombstone has no services under either name.
  unfold allServices
  rw [unify_services]
  cases entry.services <;> rfl

end Entry

/-- The names of the fleet-wide pool are wanted together or not at all. -/
theorem unifyPool_mem_aliases (migration : Migration) (pool named : String) :
    unifyPool migration.mapTarget named ∈ migration.aliases pool ↔
      named ∈ migration.aliases pool := by
  unfold Migration.aliases unifyPool
  split
  · -- An ordinary pool is asked for, which has one name.
    rename_i ordinary
    by_cases new : named = migration.mapTarget
    · simp [new, ordinary.1.symm, ordinary.2.symm]
    · simp [new]
  · split
    · -- The pool keeps its name, so there is nothing to read as something else.
      rename_i kept
      by_cases new : named = migration.mapTarget
      · simp [new, kept]
      · simp [new]
    · -- Both names are asked for.
      by_cases new : named = migration.mapTarget
      · simp [new]
      · simp [new]

namespace Store

/-- Pools that are asked for by both names of the fleet-wide pool or by none. -/
def PoolsClosed (mapTarget : String) (pools : List String) : Prop :=
  ∀ named, unifyPool mapTarget named ∈ pools ↔ named ∈ pools

@[simp] theorem get?_unify (mapTarget : String) (store : Store) (nodeId : String) :
    (store.unify mapTarget).get? nodeId = (store.get? nodeId).map (Entry.unify mapTarget) :=
  Index.find?_map store _ _ nodeId

/-- Stores whose entries are spelled alike node by node are alike. -/
theorem unify_eq_of_get? {mapTarget : String} {a b : Store}
    (same : ∀ nodeId, (a.get? nodeId).map (Entry.unify mapTarget) =
      (b.get? nodeId).map (Entry.unify mapTarget)) : a.unify mapTarget = b.unify mapTarget := by
  -- A store is settled by its look-ups.
  apply Index.ext_find?
  intro nodeId
  have sides := same nodeId
  rwa [← get?_unify, ← get?_unify] at sides

/-- An entry is taken in under one spelling exactly if it is under the other. -/
@[simp] theorem admits_unify (mapTarget : String) (store : Store) (entry : Entry) :
    (store.unify mapTarget).admits (entry.unify mapTarget) = store.admits entry := by
  -- Only node ids and timestamps are compared.
  simp only [admits, Entry.unify_nodeId, get?_unify, Option.all_map]
  rfl

/-- An offer to a store spelled alike leaves what the offer leaves, spelled alike. -/
theorem put_unify (mapTarget : String) (store : Store) (entry : Entry) :
    (store.put entry).unify mapTarget =
      (store.unify mapTarget).put (entry.unify mapTarget) := by
  -- Node id and timestamp decide about an offer, and neither is a matter of spelling.
  apply Index.ext_find?
  intro nodeId
  change ((store.put entry).unify mapTarget).get? nodeId =
    ((store.unify mapTarget).put (entry.unify mapTarget)).get? nodeId
  simp only [get?_unify, get?_put, admits_unify, Entry.unify_nodeId]
  split <;> rfl

/-- An eviction leaves the same entries under either spelling. -/
theorem evict_unify (mapTarget : String) (store : Store) (now : Millis) :
    (store.evict now).unify mapTarget = (store.unify mapTarget).evict now := by
  -- An age is no matter of spelling.
  apply Index.ext
  simp only [unify, evict, Index.map, Index.filter, List.filter_map, Function.comp_def,
    Entry.isExpired_unify]

/-- Under either spelling an eviction removes the same number of entries. -/
@[simp] theorem expiredCount_unify (mapTarget : String) (store : Store) (now : Millis) :
    (store.unify mapTarget).expiredCount now = store.expiredCount now := by
  -- Counted is what an eviction leaves, and renaming leaves as many.
  rw [expiredCount, ← evict_unify, expiredCount]
  simp only [Index.size, unify, Index.map, List.length_map]

/-- A service is wanted under one spelling exactly if it is under the other. -/
theorem wants_unify {mapTarget : String} {pools : List String}
    (closed : PoolsClosed mapTarget pools) (kind : Option String) (service : Service) :
    wants kind pools (service.unify mapTarget) = wants kind pools service := by
  -- Of all that is compared, only the pool is renamed.
  have contained : pools.contains (unifyPool mapTarget service.pool) =
      pools.contains service.pool := by
    rw [Bool.eq_iff_iff, List.contains_iff_mem, List.contains_iff_mem]
    exact closed service.pool
  simp only [wants, Service.unify, contained]

/-- A reading shows an entry spelled alike as what it shows of the entry. -/
theorem visible?_unify {mapTarget : String} {pools : List String}
    (closed : PoolsClosed mapTarget pools) (now : Millis) (kind : Option String) (entry : Entry) :
    visible? now kind pools (entry.unify mapTarget) =
      (visible? now kind pools entry).map (Entry.unify mapTarget) := by
  unfold visible?
  rw [Entry.isExpired_unify]
  split
  · -- Nothing is shown of an expired entry under either spelling.
    rfl
  · rw [Entry.unify_services]
    cases entry.services with
    | none => rfl
    | some services =>
      -- The same services pass the filter, each under its own spelling.
      have passed : (services.map (Service.unify mapTarget)).filter (wants kind pools) =
          (services.filter (wants kind pools)).map (Service.unify mapTarget) := by
        rw [List.filter_map]
        congr 1
        exact List.filter_congr fun service _ => wants_unify closed kind service
      simp only [Option.map_some, passed, List.isEmpty_map]
      split <;> rfl

/-- A filtered reading of a store spelled alike is the reading spelled alike. -/
theorem filtered_unify {mapTarget : String} {pools : List String}
    (closed : PoolsClosed mapTarget pools) (store : Store) (now : Millis) (kind : Option String) :
    (store.unify mapTarget).filtered now kind pools =
      (store.filtered now kind pools).map (Entry.unify mapTarget) := by
  -- Each entry is shown under either name or not at all.
  simp only [filtered, unify, Index.map, List.filterMap_map, List.map_filterMap]
  congr 1
  funext entry
  exact visible?_unify closed now kind entry

/-- The services that a reading shows of a store spelled alike are those it shows, spelled alike. -/
theorem shown_unify {mapTarget : String} {pools : List String}
    (closed : PoolsClosed mapTarget pools) (store : Store) (now : Millis) (kind : Option String) :
    ((store.filtered now kind pools).flatMap Entry.allServices).map (Service.unify mapTarget) =
      ((store.unify mapTarget).filtered now kind pools).flatMap Entry.allServices := by
  -- Renaming the services of what is shown is the same as renaming what is shown.
  rw [filtered_unify closed]
  simp only [List.map_flatMap, List.flatMap_map, Entry.allServices_unify]

end Store

namespace Node

/-- The pools of a query include both names of the fleet-wide pool or neither. -/
theorem poolsClosed_query (migration : Migration) (pool : Option String) :
    Store.PoolsClosed migration.mapTarget ((pool.map migration.aliases).getD []) := by
  intro named
  cases pool with
  | none =>
    -- Without a pool every service is asked for.
    simp
  | some pool => exact unifyPool_mem_aliases migration pool named

/-- The answer of an active node, spelled alike, is read off its store spelled alike. -/
theorem query_unify {node : Node} (active : node.profile.dynamic = true) (now : Millis)
    (kind pool : Option String) :
    (node.query now kind pool).map (Service.unify node.profile.migration.mapTarget) =
      ((node.store.unify node.profile.migration.mapTarget).filtered now kind
        ((pool.map node.profile.migration.aliases).getD [])).flatMap Entry.allServices := by
  -- An active node answers with the services of a filtered reading.
  rw [← Store.shown_unify (poolsClosed_query _ pool), query, active]
  rfl

/-- Active nodes with one map target and stores spelled alike answer every query alike. -/
theorem query_unify_congr {a b : Node} {mapTarget : String}
    (activeA : a.profile.dynamic = true) (activeB : b.profile.dynamic = true)
    (targetA : a.profile.migration.mapTarget = mapTarget)
    (targetB : b.profile.migration.mapTarget = mapTarget)
    (alike : a.store.unify mapTarget = b.store.unify mapTarget) (now : Millis)
    (kind pool : Option String) :
    (a.query now kind pool).map (Service.unify mapTarget) =
      (b.query now kind pool).map (Service.unify mapTarget) := by
  have aliases : a.profile.migration.aliases = b.profile.migration.aliases := by
    -- The phase of a node has no part in what a query matches.
    funext name
    simp only [Migration.aliases, targetA, targetB]
  have answerA := query_unify activeA now kind pool
  have answerB := query_unify activeB now kind pool
  rw [targetA] at answerA
  rw [targetB] at answerB
  rw [answerA, answerB, alike, aliases]

end Node

end Roster
