import Roster.Proofs.Store.Run

/-!
When a store can come to show an older version of a node than it has held: only after the later
version has expired and been evicted, and an older one has been offered again.
-/

namespace Roster

namespace Entry

/-- Only live entries expire. -/
theorem isTombstone_of_isExpired {entry : Entry} {now : Millis}
    (expired : entry.isExpired now = true) : entry.isTombstone = false := by
  unfold isExpired at expired
  unfold isTombstone
  split at expired
  · -- There are services, which a tombstone has not.
    rename_i found _
    rw [found]
    rfl
  · exact absurd expired (by simp)

/-- An expired entry stays expired. -/
theorem isExpired_of_le {entry : Entry} {now later : Millis} (expired : entry.isExpired now = true)
    (ordered : now ≤ later) : entry.isExpired later = true := by
  unfold isExpired at *
  split at expired
  · rename_i age _ _
    -- The end of the age lies before the first instant, and so before the second.
    have past : entry.timestamp.later age < now := by simpa using expired
    simpa using lt_of_lt_of_le past ordered
  · exact absurd expired (by simp)

end Entry

namespace Store

/-- What a reading shows of an entry has the node id and the timestamp of the entry. -/
theorem visible?_version {now : Millis} {kind : Option String} {pools : List String}
    {entry shown : Entry} (visible : visible? now kind pools entry = some shown) :
    shown.nodeId = entry.nodeId ∧ shown.timestamp = entry.timestamp := by
  unfold visible? at visible
  split at visible
  · -- Nothing is shown of an expired entry.
    simp at visible
  · split at visible
    · -- Nothing is shown of a tombstone.
      simp at visible
    · simp only at visible
      split at visible
      · -- Nothing is shown where no service is wanted.
        simp at visible
      · -- Only the list of services is cut down.
        cases visible
        exact ⟨rfl, rfl⟩

/-- A filtered reading shows parts of the entries that are held. -/
theorem mem_filtered {store : Store} {now : Millis} {kind : Option String} {pools : List String}
    {shown : Entry} :
    shown ∈ store.filtered now kind pools ↔
      ∃ entry, store.get? shown.nodeId = some entry ∧
        visible? now kind pools entry = some shown := by
  -- What is shown has the node id of its entry, under which the entry is held.
  rw [filtered, List.mem_filterMap]
  constructor
  · rintro ⟨entry, listed, visible⟩
    refine ⟨entry, ?_, visible⟩
    rw [(visible?_version visible).1]
    exact mem_items_iff_get?.1 listed
  · rintro ⟨entry, found, visible⟩
    refine ⟨entry, mem_items_iff_get?.2 ?_, visible⟩
    rw [← (visible?_version visible).1]
    exact found

/-- A reading shows a service of an entry exactly if the entry is not expired and the service is
wanted. -/
theorem mem_visible?_iff {now : Millis} {kind : Option String} {pools : List String}
    {entry : Entry} {service : Service} :
    (∃ shown, visible? now kind pools entry = some shown ∧ service ∈ shown.allServices) ↔
      entry.isExpired now = false ∧ service ∈ entry.allServices ∧ wants kind pools service := by
  unfold visible? Entry.allServices
  cases expired : entry.isExpired now with
  | true => simp
  | false =>
    cases entry.services with
    | none => simp
    | some services =>
      simp only [Bool.false_eq_true, if_false, true_and, Option.getD_some, ← List.mem_filter]
      split
      · -- Nothing is shown because no service is wanted.
        rename_i empty
        have none : services.filter (wants kind pools) = [] := by
          simpa using (Bool.and_eq_true_iff.1 empty).1
        simp [none]
      · simp

/-- The services that a filtered reading shows are the wanted ones of entries that have not
expired. -/
theorem mem_filtered_services {store : Store} {now : Millis} {kind : Option String}
    {pools : List String} {service : Service} :
    service ∈ (store.filtered now kind pools).flatMap Entry.allServices ↔
      ∃ entry, store.get? entry.nodeId = some entry ∧ entry.isExpired now = false ∧
        service ∈ entry.allServices ∧ wants kind pools service := by
  -- An entry is shown with the services wanted, so the two ways to say it differ in where the
  -- services are picked.
  simp only [filtered, List.mem_flatMap, List.mem_filterMap, ← mem_items_iff_get?,
    ← mem_visible?_iff]
  constructor
  · rintro ⟨shown, ⟨entry, listed, visible⟩, member⟩
    exact ⟨entry, listed, shown, visible, member⟩
  · rintro ⟨entry, listed, shown, visible, member⟩
    exact ⟨shown, ⟨entry, listed, visible⟩, member⟩

end Store

namespace Ledger

/--
A version older than one that was held is shown only after the later one has been evicted.

Of the turns in between one is an eviction that found a live and expired entry of the node, at
least as late as the version that was held, and expired at the reading too. A turn after that one
offers the older entry.
-/
theorem superseded_shown_after_eviction {ledger : Ledger} {before after : List Turn}
    {now : Millis} {kind : Option String} {pools : List String} {version shown : Entry}
    (ordered : InOrder (before ++ after ++ [⟨now, .read kind pools⟩]))
    (held : (ledger.run before).store.get? shown.nodeId = some version)
    (visible : shown ∈ (ledger.run (before ++ after)).store.filtered now kind pools)
    (older : shown.timestamp < version.timestamp) :
    ∃ earlier evicted later resident, after = earlier ++ ⟨evicted, .evict⟩ :: later ∧
      (ledger.run (before ++ earlier)).store.get? shown.nodeId = some resident ∧
      version.timestamp ≤ resident.timestamp ∧
      resident.isTombstone = false ∧ resident.isExpired evicted ∧ resident.isExpired now ∧
      ∃ turn ∈ later, ∃ offer, turn.Offers offer ∧
        Store.visible? now kind pools offer = some shown := by
  obtain ⟨found, stored, shows⟩ := Store.mem_filtered.1 visible
  have reached : (ledger.run before).store.Reaches shown.nodeId version.timestamp :=
    ⟨version, held, le_refl _⟩
  rcases reaches_run reached after with still | lost
  · -- The version cannot still be reached, since what is held is older.
    obtain ⟨resident, resides, late⟩ := still
    rw [run_append, resides] at stored
    cases stored
    rw [← (Store.visible?_version shows).2] at late
    exact absurd late (not_le.2 older)
  · obtain ⟨earlier, evicted, later, resident, rfl, resides, late, expired⟩ := lost
    -- The reading is the last of all turns, so the eviction was not later.
    have ordered : evicted ≤ now := by
      have last := (List.pairwise_append.1 ordered).2.2
      exact last ⟨evicted, .evict⟩ (by simp) _ List.mem_cons_self
    refine ⟨earlier, evicted, later, resident, rfl, by rwa [run_append], late,
      Entry.isTombstone_of_isExpired expired, expired, Entry.isExpired_of_le expired ordered, ?_⟩
    -- Right after the eviction nothing is held of the node, so a later turn offers what is shown.
    rw [run_append, run_append, run_cons] at stored
    rcases get?_run_cases stored with survives | ⟨turn, member, offers⟩
    · obtain ⟨same, current⟩ := Store.get?_evict_eq_some.1 survives
      rw [resides, Option.some.injEq] at same
      rw [← same, expired] at current
      cases current
    · exact ⟨turn, member, found, offers, shows⟩

/-- An older version can be shown, if it is put after a later one has been evicted. -/
theorem superseded_can_be_shown :
    ¬ ∀ (ledger : Ledger) (before after : List Turn) (now : Millis) (kind : Option String)
      (pools : List String) (version shown : Entry),
      InOrder (before ++ after ++ [⟨now, .read kind pools⟩]) →
      (ledger.run before).store.get? shown.nodeId = some version →
      shown ∈ (ledger.run (before ++ after)).store.filtered now kind pools →
      version.timestamp ≤ shown.timestamp := by
  intro never
  -- The later version lasts a millisecond, and the older one is still current at the reading.
  have kept := never ∅ [⟨2, .put (.live "a" [] 2 1 none)⟩]
    [⟨4, .evict⟩, ⟨4, .put (.live "a" [] 1 100 none)⟩] 5 none []
    (.live "a" [] 2 1 none) (.live "a" [] 1 100 none) (by decide) (by decide) (by decide)
  exact absurd kept (by decide)

/-- The eviction that lets an older version be shown, in a run in which that happens. -/
theorem superseded_shown_after_eviction_at_four :
    let newer := Entry.live "a" [] 2 1 none
    let older := Entry.live "a" [] 1 100 none
    let before : List Turn := [⟨2, .put newer⟩]
    let after : List Turn := [⟨4, .evict⟩, ⟨4, .put older⟩]
    InOrder (before ++ after ++ [⟨5, .read none []⟩]) ∧
      ((∅ : Ledger).run before).store.get? older.nodeId = some newer ∧
      older ∈ ((∅ : Ledger).run (before ++ after)).store.filtered 5 none [] ∧
      older.timestamp < newer.timestamp ∧
      ∃ earlier evicted later resident, after = earlier ++ ⟨evicted, .evict⟩ :: later ∧
        ((∅ : Ledger).run (before ++ earlier)).store.get? older.nodeId = some resident ∧
        newer.timestamp ≤ resident.timestamp ∧
        resident.isTombstone = false ∧ resident.isExpired evicted ∧ resident.isExpired 5 ∧
        ∃ turn ∈ later, ∃ offer, turn.Offers offer ∧
          Store.visible? 5 none [] offer = some older := by
  -- The run is short enough to be evaluated.
  dsimp only
  exact ⟨by decide, by decide, by decide, by decide,
    superseded_shown_after_eviction (by decide) (by decide) (by decide) (by decide)⟩

end Ledger

end Roster
