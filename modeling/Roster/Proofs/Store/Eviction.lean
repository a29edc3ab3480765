import Roster.Proofs.Store.Outdated

/-!
Evictions take nothing away that is current. A store that evicts and one that never does show the
same entries, except that the first may show an older entry where the second holds an expired one.
-/

namespace Roster

namespace Store

/-- Whether a store differs from another only where that one holds an entry expired at an instant,
and holds nothing later there. -/
def Trails (store full : Store) (now : Millis) : Prop :=
  ∀ nodeId, store.get? nodeId = full.get? nodeId ∨
    ∃ resident, full.get? nodeId = some resident ∧ resident.isExpired now = true ∧
      ∀ other, store.get? nodeId = some other → other.timestamp ≤ resident.timestamp

variable {store full : Store} {now : Millis}

/-- Every store trails itself. -/
theorem Trails.refl (store : Store) (now : Millis) : store.Trails store now :=
  -- A store lacks nothing of its own.
  fun _ => .inl rfl

/-- A store that trails another still does after both have been offered an entry. -/
theorem Trails.put (trails : store.Trails full now) (entry : Entry) :
    (store.put entry).Trails (full.put entry) now := by
  intro nodeId
  by_cases target : entry.nodeId = nodeId
  · subst target
    rcases trails entry.nodeId with same | ⟨resident, found, expired, below⟩
    · -- Whether an entry is taken in depends on the resident alone.
      have alike : store.admits entry = full.admits entry := by simp only [admits, same]
      left
      rw [get?_put, get?_put, alike, same]
    · by_cases later : resident.timestamp < entry.timestamp
      · -- What is later than the expired resident is later than all that may stand in its place.
        have taken : full.admits entry := by simpa [admits, found] using later
        have alsoTaken : store.admits entry :=
          admits_iff.2 fun other held => lt_of_le_of_lt (below other held) later
        left
        rw [get?_put, get?_put, if_pos ⟨alsoTaken, rfl⟩, if_pos ⟨taken, rfl⟩]
      · -- The expired resident stays, and the entry is not later than it.
        have refused : ¬full.admits entry := by simpa [admits, found] using later
        right
        refine ⟨resident, by rw [get?_put, if_neg fun both => refused both.1, found], expired, ?_⟩
        intro other held
        rcases get?_put_cases held with rfl | before
        · exact not_lt.1 later
        · exact below other before
  · -- The offer is for another node.
    rw [get?_put, get?_put, if_neg fun both => target both.2, if_neg fun both => target both.2]
    exact trails nodeId

/-- A store that trails another still does after both have been offered an entry by a peer. -/
theorem Trails.merge (trails : store.Trails full now) (migration : Migration) (entry : Entry) :
    (store.merge migration entry).Trails (full.merge migration entry) now := by
  unfold Store.merge
  -- Whether an entry is well-formed is no matter of the store.
  split
  · exact trails.put (migration.translate entry)
  · exact trails

/-- A store that trails another still does after an eviction that is not later than the instant. -/
theorem Trails.evict (trails : store.Trails full now) {evicted : Millis} (past : evicted ≤ now) :
    (store.evict evicted).Trails full now := by
  intro nodeId
  rw [get?_evict]
  rcases trails nodeId with same | ⟨resident, found, expired, below⟩
  · cases held : store.get? nodeId with
    | none =>
      -- Where nothing is held nothing is evicted.
      rw [held] at same
      exact .inl same
    | some resident =>
      cases expired : resident.isExpired evicted with
      | false =>
        -- The resident stays.
        left
        rw [Option.filter_some, expired, ← same, held]
        rfl
      | true =>
        -- The resident is evicted, and what is expired by then stays so until the instant.
        right
        refine ⟨resident, same.symm.trans held, Entry.isExpired_of_le expired past, ?_⟩
        intro other stays
        rw [Option.filter_some, expired] at stays
        cases stays
  · -- Whatever is left there was there before.
    refine .inr ⟨resident, found, expired, fun other stays => ?_⟩
    exact below other (Option.filter_eq_some_iff.1 stays).1

/-- What the other store shows at the instant is shown by the store that trails it. -/
theorem Trails.shows (trails : store.Trails full now) {kind : Option String} {pools : List String}
    {shown : Entry} (visible : shown ∈ full.filtered now kind pools) :
    shown ∈ store.filtered now kind pools := by
  obtain ⟨entry, found, shows⟩ := mem_filtered.1 visible
  refine mem_filtered.2 ⟨entry, ?_, shows⟩
  rcases trails shown.nodeId with same | ⟨resident, resides, expired, -⟩
  · exact same.trans found
  · -- Nothing is shown of an expired entry.
    rw [found, Option.some.injEq] at resides
    rw [← resides] at expired
    simp [visible?, expired] at shows

/-- What the store that trails shows beyond the other is at most as late as an expired entry. -/
theorem Trails.shows_beyond (trails : store.Trails full now) {kind : Option String}
    {pools : List String} {shown : Entry} (visible : shown ∈ store.filtered now kind pools)
    (beyond : shown ∉ full.filtered now kind pools) :
    ∃ resident, full.get? shown.nodeId = some resident ∧ resident.isTombstone = false ∧
      resident.isExpired now = true ∧ shown.timestamp ≤ resident.timestamp := by
  obtain ⟨entry, found, shows⟩ := mem_filtered.1 visible
  rcases trails shown.nodeId with same | ⟨resident, resides, expired, below⟩
  · -- With the same resident the other store would show it too.
    exact absurd (mem_filtered.2 ⟨entry, same.symm.trans found, shows⟩) beyond
  · refine ⟨resident, resides, Entry.isTombstone_of_isExpired expired, expired, ?_⟩
    rw [(visible?_version shows).2]
    exact below entry found

end Store

namespace Ledger

/-- Whether a turn is an eviction. -/
def Turn.evicts (turn : Turn) : Bool :=
  match turn.use with
  | .evict => true
  | _ => false

/-- A run with all evictions left out. -/
def sparing (turns : List Turn) : List Turn := turns.filter fun turn => !turn.evicts

/-- An eviction left out or any other turn taken on both sides keeps one store trailing another. -/
theorem trails_turn {ledger full : Ledger} {now : Millis}
    (trails : ledger.store.Trails full.store now) {turn : Turn} (past : turn.now ≤ now) :
    (ledger.turn turn).store.Trails (full.run (sparing [turn])).store now := by
  obtain ⟨time, use⟩ := turn
  cases use with
  -- Writes and merges are taken on both sides.
  | put entry =>
    have offered := trails.put entry
    rwa [← store_put, ← store_put] at offered
  | merge migration entry =>
    have offered := trails.merge migration entry
    rwa [← store_merge, ← store_merge] at offered
  -- The other side does nothing here.
  | evict => exact trails.evict past
  | digest =>
    -- Remembering a digest is no matter of the store.
    have same : (ledger.turn ⟨time, .digest⟩).store = ledger.store := ledger.store_digest
    have alsoSame : (full.run (sparing [⟨time, .digest⟩])).store = full.store := full.store_digest
    rwa [same, alsoSame]
  | read kind pools => exact trails

/-- A run trails the run with all evictions left out, at any instant that no turn is later than. -/
theorem trails_run {ledger full : Ledger} {now : Millis}
    (trails : ledger.store.Trails full.store now) {turns : List Turn}
    (past : ∀ turn ∈ turns, turn.now ≤ now) :
    (ledger.run turns).store.Trails (full.run (sparing turns)).store now := by
  induction turns generalizing ledger full with
  | nil => exact trails
  | cons turn rest ih =>
    have first := trails_turn trails (past turn List.mem_cons_self)
    -- The turn is left out of the other run or stands at its front.
    have split : sparing (turn :: rest) = sparing [turn] ++ sparing rest := by
      rw [sparing, ← List.singleton_append, List.filter_append]
      rfl
    rw [run_cons, split, run_append]
    exact ih first fun later member => past later (List.mem_cons_of_mem _ member)

/--
Evictions hide nothing that is current, and let nothing come up but what is older than something
expired.

Take a run and the same run without its evictions, and a reading at an instant that no turn is later
than. Every entry that the second store shows is shown by the first. An entry that the first shows
beyond those is of a node of which the second holds a live entry that is expired by then, and it is
at most as late as that one.
-/
theorem evictions_hide_nothing_current (ledger : Ledger) {turns : List Turn} {now : Millis}
    (past : ∀ turn ∈ turns, turn.now ≤ now) (kind : Option String) (pools : List String) :
    let evicting := (ledger.run turns).store
    let full := (ledger.run (sparing turns)).store
    (∀ shown ∈ full.filtered now kind pools, shown ∈ evicting.filtered now kind pools) ∧
    ∀ shown ∈ evicting.filtered now kind pools, shown ∉ full.filtered now kind pools →
      ∃ resident, full.get? shown.nodeId = some resident ∧ resident.isTombstone = false ∧
        resident.isExpired now = true ∧ shown.timestamp ≤ resident.timestamp := by
  intro evicting full
  -- What the evicting store lacks or holds behind has expired in the full one, and no turn changes
  -- that.
  have trails : evicting.Trails full now := trails_run (Store.Trails.refl ledger.store now) past
  exact ⟨fun shown visible => trails.shows visible,
    fun shown visible beyond => trails.shows_beyond visible beyond⟩

/-- An older entry comes up after an eviction, beside one that is current all the time. -/
theorem evictions_hide_nothing_current_at_five :
    let current := Entry.live "b" [] 3 100 none
    let older := Entry.live "a" [] 1 100 none
    let turns : List Turn :=
      -- The newer version of one node id is evicted and an older one comes after it; the other node
      -- id is current throughout.
      [⟨2, .put (.live "a" [] 2 1 none)⟩, ⟨3, .put current⟩, ⟨4, .evict⟩, ⟨4, .put older⟩]
    let evicting := ((∅ : Ledger).run turns).store
    let full := ((∅ : Ledger).run (sparing turns)).store
    full.filtered 5 none [] = [current] ∧ current ∈ evicting.filtered 5 none [] ∧
      older ∈ evicting.filtered 5 none [] ∧
      ∃ resident, full.get? "a" = some resident ∧ resident.isTombstone = false ∧
        resident.isExpired 5 = true ∧ older.timestamp ≤ resident.timestamp := by
  intro current older turns evicting full
  have past : ∀ turn ∈ turns, turn.now ≤ 5 := by decide
  obtain ⟨hides, beyond⟩ := evictions_hide_nothing_current ∅ past none []
  exact ⟨by decide, hides current (by decide), by decide,
    beyond older (by decide) (by decide)⟩

end Ledger

end Roster
