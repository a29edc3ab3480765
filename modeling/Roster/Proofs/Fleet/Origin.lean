import Roster.Proofs.Fleet.Run

/-!
Whatever is held in a fleet stems from an accepted request to write: it is the entry that was
written, up to the spelling of the fleet-wide pool, through any pulls, deliveries and evictions.
-/

namespace Roster.Fleet

variable {Place : Type}

/-- Whether an entry is one that was written, up to the spelling of the fleet-wide pool. -/
def Stems (fleet : Fleet Place) (mapTarget : String) (entry : Entry) : Prop :=
  ∃ original ∈ fleet.entries, entry.unify mapTarget = original.unify mapTarget

/-- What holds of a fleet of a plan at all times. -/
structure Sound (plan : Plan Place) (fleet : Fleet Place) : Prop where
  profiles : ∀ place, (fleet.nodes place).profile = plan.profile place
  stems : ∀ place nodeId entry, (fleet.store place).get? nodeId = some entry →
    fleet.Stems plan.mapTarget entry
  wellFormed : ∀ entry ∈ fleet.entries, entry.isWellFormed
  -- An offer that was superseded where it was made has still been written.
  offers : ∀ offer ∈ fleet.offered, offer.2 ∈ fleet.entries

namespace Sound

variable {plan : Plan Place} {fleet : Fleet Place}

/-- All nodes of a plan have its map target. -/
theorem mapTarget (sound : Sound plan fleet) (place : Place) :
    (fleet.nodes place).profile.migration.mapTarget = plan.mapTarget := by
  -- All nodes keep the profiles that the plan gives them.
  rw [sound.profiles, plan.shared]

/-- What is held by a node or has been offered to one stems from a write. -/
theorem stems_of_around (sound : Sound plan fleet) {entry : Entry} (around : fleet.Around entry) :
    fleet.Stems plan.mapTarget entry := by
  rcases around with ⟨place, listed⟩ | ⟨offer, offered, rfl⟩
  · -- What is listed is held under its own node id.
    exact sound.stems place entry.nodeId entry (Store.mem_items_iff_get?.1 listed)
  · -- An offer is itself what was written.
    exact ⟨offer.2, sound.offers offer offered, rfl⟩

/-- What stems from a write is not malformed. -/
theorem wellFormed_of_stems (sound : Sound plan fleet) {entry : Entry}
    (stems : fleet.Stems plan.mapTarget entry) : entry.isWellFormed = true := by
  -- Being malformed is not a matter of spelling.
  obtain ⟨original, written, alike⟩ := stems
  rw [← Entry.isWellFormed_unify plan.mapTarget entry, alike, Entry.isWellFormed_unify]
  exact sound.wellFormed original written

end Sound

/-- Whether two writes gave one version of a node id different contents. -/
def Rival (mapTarget : String) (a b : Place × Entry) : Prop :=
  a.2.nodeId = b.2.nodeId ∧ a.2.timestamp = b.2.timestamp ∧
    a.2.unify mapTarget ≠ b.2.unify mapTarget

/-- Whether a node holds an entry, up to the spelling of the fleet-wide pool. -/
def Holds (fleet : Fleet Place) (mapTarget : String) (place : Place) (entry : Entry) : Prop :=
  ∃ held, (fleet.store place).get? entry.nodeId = some held ∧
    held.unify mapTarget = entry.unify mapTarget

/-- Whether two nodes hold what rival writes wrote. -/
def Clash (fleet : Fleet Place) (mapTarget : String) (place other : Place) : Prop :=
  ∃ a ∈ fleet.written, ∃ b ∈ fleet.written, Rival mapTarget a b ∧
    fleet.Holds mapTarget place a.2 ∧ fleet.Holds mapTarget other b.2

/-- Where each version was written once, no nodes clash. -/
theorem not_clash_of_onePerVersion {fleet : Fleet Place}
    (distinct : Entry.OnePerVersion fleet.entries) {mapTarget : String} {place other : Place} :
    ¬fleet.Clash mapTarget place other := by
  -- Rivals would be two entries of one version.
  rintro ⟨a, writtenA, b, writtenB, ⟨node, time, differs⟩, -, -⟩
  have same : a.2 = b.2 :=
    distinct a.2 (List.mem_map_of_mem writtenA) b.2 (List.mem_map_of_mem writtenB) node time
  exact differs (congrArg (Entry.unify mapTarget) same)

/-- What stems from a write and is held under its node id is held as what was written. -/
theorem Stems.exists_write {fleet : Fleet Place} {mapTarget : String} {place : Place}
    {nodeId : String} {entry : Entry} (stems : fleet.Stems mapTarget entry)
    (found : (fleet.store place).get? nodeId = some entry) :
    ∃ write ∈ fleet.written, entry.unify mapTarget = write.2.unify mapTarget ∧
      write.2.nodeId = nodeId ∧ write.2.timestamp = entry.timestamp ∧
      fleet.Holds mapTarget place write.2 := by
  obtain ⟨original, written, alike⟩ := stems
  obtain ⟨write, member, rfl⟩ := List.mem_map.1 written
  -- Node id and timestamp are not a matter of spelling.
  have node : write.2.nodeId = nodeId := by
    have nodes := congrArg Entry.nodeId alike
    rw [Entry.unify_nodeId, Entry.unify_nodeId, Store.nodeId_of_get? found] at nodes
    exact nodes.symm
  have time : write.2.timestamp = entry.timestamp := (congrArg Entry.timestamp alike).symm
  exact ⟨write, member, alike, node, time, entry, node.symm ▸ found, alike⟩

/-- Nodes that hold the same versions hold entries spelled alike exactly if they do not clash. -/
theorem Sound.unify_eq_iff {plan : Plan Place} {fleet : Fleet Place} (sound : Sound plan fleet)
    {place other : Place}
    (same : ∀ nodeId, (fleet.store place).version? nodeId = (fleet.store other).version? nodeId) :
    (fleet.store place).unify plan.mapTarget = (fleet.store other).unify plan.mapTarget ↔
      ¬fleet.Clash plan.mapTarget place other := by
  constructor
  · -- Stores spelled alike do not hold two contents of one node id.
    rintro alike ⟨a, -, b, -, ⟨node, -, differs⟩, ⟨heldA, foundA, isA⟩, heldB, foundB, isB⟩
    have entries := congrArg (Store.get? · a.2.nodeId) alike
    simp only [Store.get?_unify] at entries
    rw [foundA, node, foundB, Option.map_some, Option.map_some, Option.some.injEq, isA, isB]
      at entries
    exact differs entries
  · -- Node by node, the two residents stem from writes of one version.
    intro apart
    apply Store.unify_eq_of_get?
    intro nodeId
    have version := same nodeId
    unfold Store.version? at version
    cases foundA : (fleet.store place).get? nodeId with
    | none =>
      -- A node id without a version in one store has none in the other.
      rw [foundA, Option.map_none, eq_comm, Option.map_eq_none_iff] at version
      rw [version]
    | some a =>
      rw [foundA, Option.map_some, eq_comm, Option.map_eq_some_iff] at version
      obtain ⟨b, foundB, time⟩ := version
      obtain ⟨first, writtenA, alikeA, nodeA, timeA, holdsA⟩ :=
        (sound.stems place nodeId a foundA).exists_write foundA
      obtain ⟨second, writtenB, alikeB, nodeB, timeB, holdsB⟩ :=
        (sound.stems other nodeId b foundB).exists_write foundB
      rw [foundB, Option.map_some, Option.map_some, Option.some.injEq]
      -- If the two entries differed, the writes they stem from would be rivals.
      by_contra differs
      rw [alikeA, alikeB] at differs
      refine apart ⟨first, writtenA, second, writtenB, ⟨?_, ?_, differs⟩, holdsA, holdsB⟩
      · rw [nodeA, nodeB]
      · rw [timeA, timeB, time]

variable {plan : Plan Place}

/-- Nothing is held, written or offered at the start. -/
theorem sound_start (plan : Plan Place) : Sound plan (start plan) where
  -- Nothing is held, written or offered yet.
  profiles _ := rfl
  stems _ _ _ found := by cases found
  wellFormed _ written := by cases written
  offers _ offered := by cases offered

variable [DecidableEq Place]

/-- A written entry stems from itself. -/
theorem sound_writeEntry {fleet : Fleet Place} (sound : Sound plan fleet) (place : Place)
    (now : Millis) {entry : Entry} (wellFormed : entry.isWellFormed = true) :
    Sound plan (fleet.writeEntry place now entry) where
  profiles other := (profile_writeEntry fleet place now entry other).trans (sound.profiles other)
  stems other nodeId found held := by
    -- What was written before the event is still on record.
    have kept : fleet.Stems plan.mapTarget found →
        (fleet.writeEntry place now entry).Stems plan.mapTarget found :=
      fun ⟨original, written, alike⟩ => ⟨original, by simp [written], alike⟩
    rw [store_writeEntry] at held
    split at held
    · rcases Store.get?_put_cases held with rfl | before
      · -- The entry is the one just written.
        exact ⟨found, by simp, rfl⟩
      · exact kept (sound.stems place nodeId found before)
    · exact kept (sound.stems other nodeId found held)
  wellFormed other written := by
    rw [entries_writeEntry] at written
    rcases List.mem_append.1 written with before | new
    · exact sound.wellFormed other before
    · rwa [List.mem_singleton.1 new]
  offers offer offered := by
    rw [entries_writeEntry]
    rcases List.mem_append.1 offered with before | new
    · exact List.mem_append_left _ (sound.offers offer before)
    · -- The offers of a write are all of its entry.
      exact List.mem_append_right _ (by simp [Node.offers_write new])

/-- Merged entries stem from what they stemmed from before their translation. -/
theorem sound_merge {fleet : Fleet Place} (sound : Sound plan fleet) (place : Place)
    {entries : List Entry} (stems : ∀ entry ∈ entries, fleet.Stems plan.mapTarget entry) :
    Sound plan (fleet.merge place entries) where
  profiles other := (profile_merge fleet place entries other).trans (sound.profiles other)
  stems other nodeId found held := by
    rw [store_merge] at held
    split at held
    · rcases Store.get?_mergeAll_cases held with before | ⟨entry, member, rfl⟩
      · exact sound.stems place nodeId found before
      · -- The entry is one of those merged, under the spelling of this node.
        obtain ⟨original, written, alike⟩ := stems entry member
        refine ⟨original, written, ?_⟩
        rw [← sound.mapTarget place] at alike ⊢
        rw [Entry.unify_translate, alike]
    · exact sound.stems other nodeId found held
  wellFormed := sound.wellFormed
  offers := sound.offers

/-- An eviction leaves nothing that was not held before. -/
theorem sound_evict {fleet : Fleet Place} (sound : Sound plan fleet) (place : Place)
    (now : Millis) : Sound plan (fleet.step (.evict place now)) where
  profiles other := (profile_step fleet (.evict place now) other).trans (sound.profiles other)
  stems other nodeId found held := by
    -- What an eviction leaves was held before it.
    rw [store_step_evict] at held
    split at held
    · exact sound.stems place nodeId found (Store.get?_evict_eq_some.1 held).1
    · exact sound.stems other nodeId found held
  wellFormed := sound.wellFormed
  offers := sound.offers

/-- A node that keeps its profile and its store keeps a fleet sound. -/
theorem sound_setNode {fleet : Fleet Place} (sound : Sound plan fleet) {place : Place} {node : Node}
    (profile : node.profile = (fleet.nodes place).profile)
    (store : node.store = fleet.store place) : Sound plan (fleet.setNode place node) where
  profiles other := (profile_setNode profile other).trans (sound.profiles other)
  stems other nodeId found held := by
    -- Whatever is held afterwards was held before.
    rw [store_setNode_of_same store] at held
    exact sound.stems other nodeId found held
  wellFormed := sound.wellFormed
  offers := sound.offers

/-- Every event keeps a fleet sound. -/
theorem sound_step {fleet : Fleet Place} (sound : Sound plan fleet) (event : Event Place) :
    Sound plan (fleet.step event) := by
  -- The cases are what an event can come to; what is merged was around and so stems from a write.
  rcases fleet.step_cases event with same | ⟨place, now, entry, -, issues, same⟩ |
    ⟨place, entries, around, same⟩ | ⟨place, now, rfl⟩
  · rwa [same]
  · rw [same]
    exact sound_writeEntry sound place now issues.wellFormed
  · rw [same]
    exact sound_merge sound place fun entry member => sound.stems_of_around (around entry member)
  · exact sound_evict sound place now

/-- Every run keeps a fleet sound. -/
theorem sound_run {fleet : Fleet Place} (sound : Sound plan fleet) (events : List (Event Place)) :
    Sound plan (fleet.run events) := by
  -- The induction is on the events, and the fleet goes along.
  induction events generalizing fleet with
  | nil => exact sound
  | cons event rest ih => exact ih (sound_step sound event)

end Roster.Fleet
