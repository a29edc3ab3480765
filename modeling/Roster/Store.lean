import Roster.Digest
import Roster.Migration

/-! The store of one node: at most one entry for each node id, of which the latest stands. -/

namespace Roster

/-- Entries by the id of the node they describe. -/
abbrev Store := Index Entry.nodeId

namespace Store

/-- The entry of a node, be it expired or a tombstone. -/
def get? (store : Store) (nodeId : String) : Option Entry := store.find? nodeId

/-- Whether an entry would be taken in: only a strictly later one replaces the resident. -/
def admits (store : Store) (entry : Entry) : Bool :=
  (store.get? entry.nodeId).all fun resident => resident.timestamp < entry.timestamp

/-- The store after an entry has been offered to it. -/
def put (store : Store) (entry : Entry) : Store :=
  if store.admits entry then store.insert entry else store

/-- Whether an entry from a peer would be taken in. -/
def admitsFromPeer (store : Store) (migration : Migration) (entry : Entry) : Bool :=
  entry.isWellFormed && store.admits (migration.translate entry)

/-- The store after an entry from a peer, with its pools translated; malformed ones are dropped. -/
def merge (store : Store) (migration : Migration) (entry : Entry) : Store :=
  if entry.isWellFormed then store.put (migration.translate entry) else store

/-- Whether a service is of the wanted kind, if any, and in one of the wanted pools, if any. -/
def wants (kind : Option String) (pools : List String) (service : Service) : Bool :=
  kind.all (fun wanted => service.kind == wanted) &&
    (pools.isEmpty || pools.contains service.pool)

/-- What a filtered reading shows of an entry at an instant. -/
def visible? (now : Millis) (kind : Option String) (pools : List String) (entry : Entry) :
    Option Entry :=
  if entry.isExpired now then none
  else match entry.services with
    | none => none
    | some services =>
      let wanted := services.filter (wants kind pools)
      -- An entry without services shows only where everything is asked for.
      if wanted.isEmpty && (kind.isSome || !pools.isEmpty) then none
      else some { entry with services := some wanted }

/-- The live entries that are not expired at an instant, with the wanted services only. -/
def filtered (store : Store) (now : Millis) (kind : Option String) (pools : List String) :
    List Entry :=
  store.items.filterMap (visible? now kind pools)

/-- The store without the live entries that are expired at an instant; tombstones stay. -/
def evict (store : Store) (now : Millis) : Store :=
  store.filter fun entry => !entry.isExpired now

/-- How many entries an eviction would remove. -/
def expiredCount (store : Store) (now : Millis) : Nat :=
  store.size - (store.evict now).size

/-- What a node id leads to after an entry has been offered. -/
theorem get?_put (store : Store) (entry : Entry) (nodeId : String) :
    (store.put entry).get? nodeId =
      if store.admits entry ∧ entry.nodeId = nodeId then some entry else store.get? nodeId := by
  -- An offer that is turned down leaves the index alone.
  unfold put get?
  by_cases admitted : store.admits entry
  · simp only [admitted, ↓reduceIte, true_and]
    exact Index.find?_insert store entry nodeId
  · simp [admitted]

/-- What a node id leads to after an eviction. -/
theorem get?_evict (store : Store) (now : Millis) (nodeId : String) :
    (store.evict now).get? nodeId = (store.get? nodeId).filter (!·.isExpired now) :=
  -- Eviction keeps an entry or drops it by what it is, not by what stands beside it.
  Index.find?_filter store _ nodeId

/-- The digest of all entries. -/
def digest (store : Store) : String := Digest.ofEntries store.items

end Store

end Roster
