import Roster.Proofs.Millis
import Roster.Store

/-! What a store holds of a node after an offer, and that offers never take a version back. -/

namespace Roster

namespace Migration

@[simp] theorem translate_nodeId (migration : Migration) (entry : Entry) :
    (migration.translate entry).nodeId = entry.nodeId := rfl

@[simp] theorem translate_timestamp (migration : Migration) (entry : Entry) :
    (migration.translate entry).timestamp = entry.timestamp := rfl

end Migration

namespace Entry

/-- Whether entries for one node with one timestamp are always the same entry. -/
def OnePerVersion (entries : List Entry) : Prop :=
  ∀ a ∈ entries, ∀ b ∈ entries, a.nodeId = b.nodeId → a.timestamp = b.timestamp → a = b

instance (entries : List Entry) : Decidable (OnePerVersion entries) :=
  inferInstanceAs (Decidable (∀ a ∈ entries, ∀ b ∈ entries, _))

end Entry

namespace Store

/-- The version of the entry that a store holds of a node. -/
def version? (store : Store) (nodeId : String) : Option Millis :=
  (store.get? nodeId).map Entry.timestamp

/-- Whether a store holds some version of a node or a later one. -/
def Reaches (store : Store) (nodeId : String) (version : Millis) : Prop :=
  -- The resident may be a tombstone and may be expired.
  ∃ resident, store.get? nodeId = some resident ∧ version ≤ resident.timestamp

/-- A version is reached exactly if the version held is at least as late. -/
theorem reaches_iff_version? {store : Store} {nodeId : String} {version : Millis} :
    store.Reaches nodeId version ↔
      ∃ held, store.version? nodeId = some held ∧ version ≤ held := by
  -- Both speak of the resident's timestamp, if there is a resident.
  unfold Reaches version?
  cases store.get? nodeId with
  | none => simp
  | some resident => simp

/-- A version earlier than one that is reached is reached too. -/
theorem Reaches.of_le {store : Store} {nodeId : String} {version earlier : Millis}
    (reached : store.Reaches nodeId version) (below : earlier ≤ version) :
    store.Reaches nodeId earlier := by
  -- The same resident reaches the earlier version.
  obtain ⟨resident, found, late⟩ := reached
  exact ⟨resident, found, le_trans below late⟩

/-- Stores that reach the same versions of a node hold the same version of it. -/
theorem version?_eq_of_reaches_iff {store other : Store} {nodeId : String}
    (same : ∀ version, store.Reaches nodeId version ↔ other.Reaches nodeId version) :
    store.version? nodeId = other.version? nodeId := by
  simp only [reaches_iff_version?] at same
  cases first : store.version? nodeId with
  | none =>
    cases second : other.version? nodeId with
    | none => rfl
    | some version =>
      -- The version that the other one holds would be reached.
      obtain ⟨_, held, -⟩ := (same version).2 ⟨version, second, le_refl _⟩
      rw [first] at held
      cases held
  | some version =>
    obtain ⟨held, second, below⟩ := (same version).1 ⟨version, first, le_refl _⟩
    obtain ⟨again, held', above⟩ := (same held).2 ⟨held, second, le_refl _⟩
    rw [first] at held'
    cases held'
    rw [second, le_antisymm below above]

/-- A store holds its entries under their own node ids. -/
theorem nodeId_of_get? {store : Store} {nodeId : String} {entry : Entry}
    (found : store.get? nodeId = some entry) : entry.nodeId = nodeId :=
  (Index.find?_eq_some found).2

/-- An entry is listed exactly if it is held under its own node id. -/
theorem mem_items_iff_get? {store : Store} {entry : Entry} :
    entry ∈ store.items ↔ store.get? entry.nodeId = some entry :=
  Index.mem_items_iff

/-- An entry is taken in exactly if every resident for its node is strictly earlier. -/
theorem admits_iff {store : Store} {entry : Entry} :
    store.admits entry ↔
      ∀ resident, store.get? entry.nodeId = some resident →
        resident.timestamp < entry.timestamp := by
  -- There is at most one resident, so the test on the option is a test on all residents.
  cases found : store.get? entry.nodeId with
  | none => simp [admits, found]
  | some resident => simp [admits, found]

/-- An entry is turned away exactly if its version is already reached. -/
theorem not_admits_iff {store : Store} {entry : Entry} :
    ¬ store.admits entry ↔ store.Reaches entry.nodeId entry.timestamp := by
  -- A resident that is not strictly earlier is one at least as late.
  simp only [admits_iff, Classical.not_forall, not_lt, exists_prop, Reaches]

/-- Whatever is held after an offer is the offered entry or was held before. -/
theorem get?_put_cases {store : Store} {entry found : Entry} {nodeId : String}
    (held : (store.put entry).get? nodeId = some found) :
    found = entry ∨ store.get? nodeId = some found := by
  rw [get?_put] at held
  split at held
  · -- The entry was taken in under this node id.
    exact .inl (Option.some.inj held).symm
  · exact .inr held

/-- Whatever is new after an offer is the offered entry, later than what was held before. -/
theorem get?_put_later {store : Store} {entry found : Entry} {nodeId : String}
    (held : (store.put entry).get? nodeId = some found) :
    store.get? nodeId = some found ∨
      (found = entry ∧ ∀ resident, store.get? nodeId = some resident →
        resident.timestamp < found.timestamp) := by
  -- A put takes the place under its own node id if admitted, and changes nothing else.
  rw [get?_put] at held
  split at held
  · rename_i taken
    obtain ⟨admitted, rfl⟩ := taken
    cases held
    exact .inr ⟨rfl, admits_iff.1 admitted⟩
  · exact .inl held

/-- An offer leaves a store as it was exactly if its version is reached. -/
theorem put_eq_self_iff {store : Store} {entry : Entry} :
    store.put entry = store ↔ store.Reaches entry.nodeId entry.timestamp := by
  rw [← not_admits_iff]
  constructor
  · intro same admitted
    -- The entry would be held already, and not be later than itself.
    have held := get?_put store entry entry.nodeId
    rw [same, if_pos ⟨admitted, rfl⟩] at held
    exact lt_irrefl _ (admits_iff.1 admitted entry held)
  · intro refused
    rw [put, if_neg refused]

/-- An offer brings the store to the version of the offered entry. -/
theorem reaches_put (store : Store) (entry : Entry) :
    (store.put entry).Reaches entry.nodeId entry.timestamp := by
  by_cases admitted : store.admits entry
  · -- An entry that is taken in is the resident afterwards.
    exact ⟨entry, by rw [get?_put, if_pos ⟨admitted, rfl⟩], le_refl _⟩
  · -- An entry that is turned away meets a resident at least as late.
    obtain ⟨resident, found, late⟩ := not_admits_iff.1 admitted
    exact ⟨resident, by rw [get?_put, if_neg fun both => admitted both.1, found], late⟩

/-- A version that is reached stays reached when an entry is offered. -/
theorem Reaches.put {store : Store} {nodeId : String} {version : Millis}
    (reached : store.Reaches nodeId version) (entry : Entry) :
    (store.put entry).Reaches nodeId version := by
  obtain ⟨resident, found, late⟩ := reached
  by_cases taken : store.admits entry ∧ entry.nodeId = nodeId
  · -- The entry took the place of the resident, so it is later.
    obtain ⟨admitted, rfl⟩ := taken
    refine ⟨entry, by rw [get?_put, if_pos ⟨admitted, rfl⟩], ?_⟩
    exact le_trans late (le_of_lt (admits_iff.1 admitted resident found))
  · -- The resident stayed.
    exact ⟨resident, by rw [get?_put, if_neg taken, found], late⟩

/-- Whatever is held after an offer by a peer is that entry translated or was held before. -/
theorem get?_merge_cases {store : Store} {migration : Migration} {entry found : Entry}
    {nodeId : String} (held : (store.merge migration entry).get? nodeId = some found) :
    (entry.isWellFormed ∧ found = migration.translate entry) ∨ store.get? nodeId = some found := by
  unfold merge at held
  split at held
  · -- An entry that is not malformed is put.
    rename_i wellFormed
    exact (get?_put_cases held).imp_left fun same => ⟨wellFormed, same⟩
  · exact .inr held

/-- An offer by a peer brings the store to the version of an entry that is not malformed. -/
theorem reaches_merge (store : Store) (migration : Migration) {entry : Entry}
    (wellFormed : entry.isWellFormed) :
    (store.merge migration entry).Reaches entry.nodeId entry.timestamp := by
  -- Translation keeps node id and timestamp.
  rw [merge, if_pos wellFormed]
  exact reaches_put store (migration.translate entry)

/-- A version that is reached stays reached when a peer offers an entry. -/
theorem Reaches.merge {store : Store} {nodeId : String} {version : Millis}
    (reached : store.Reaches nodeId version) (migration : Migration) (entry : Entry) :
    (store.merge migration entry).Reaches nodeId version := by
  unfold Store.merge
  -- A malformed entry is dropped, any other is put.
  split
  · exact reached.put (migration.translate entry)
  · exact reached

/-- Whatever is held after an eviction was held before and is not expired. -/
theorem get?_evict_eq_some {store : Store} {now : Millis} {nodeId : String} {found : Entry} :
    (store.evict now).get? nodeId = some found ↔
      store.get? nodeId = some found ∧ found.isExpired now = false := by
  rw [get?_evict, Option.filter_eq_some_iff, Bool.not_eq_true']

/-- A version that is reached no longer after an eviction was that of an expired resident. -/
theorem Reaches.evict {store : Store} {nodeId : String} {version : Millis}
    (reached : store.Reaches nodeId version) (now : Millis) :
    (store.evict now).Reaches nodeId version ∨
      ∃ resident, store.get? nodeId = some resident ∧ version ≤ resident.timestamp ∧
        resident.isExpired now = true := by
  obtain ⟨resident, found, late⟩ := reached
  by_cases expired : resident.isExpired now
  · exact .inr ⟨resident, found, late, expired⟩
  · -- A tombstone never expires, so it is among what stays.
    exact .inl ⟨resident, get?_evict_eq_some.2 ⟨found, by simpa using expired⟩, late⟩

end Store

end Roster
