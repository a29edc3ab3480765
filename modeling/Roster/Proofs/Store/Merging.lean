import Roster.Proofs.Node

/-!
Entries that a peer offers one after the other. They change a store exactly if one of them is not
reached yet, and afterwards all are. Where no two of them share a version, their order is no matter.
-/

namespace Roster.Store

variable {store : Store} {migration : Migration} {entries : List Entry} {nodeId : String}

/-- How many of the offers of a peer change the store, each as the offers before it leave it. -/
def changes (store : Store) (migration : Migration) : List Entry → Nat
  | [] => 0
  | entry :: rest =>
    (if store.merge migration entry = store then 0 else 1) +
      (store.merge migration entry).changes migration rest

/-- Whether a store reaches the version of every offer that is not malformed. -/
def Covers (store : Store) (entries : List Entry) : Prop :=
  ∀ entry ∈ entries, entry.isWellFormed = true → store.Reaches entry.nodeId entry.timestamp

/-- Offers of several peers are those of one peer after the other. -/
theorem mergeAll_flatten (store : Store) (migration : Migration) (lists : List (List Entry)) :
    store.mergeAll migration lists.flatten =
      lists.foldl (fun store entries => store.mergeAll migration entries) store :=
  List.foldl_flatten

/-- The changes by offers in two parts are those by the first part and then by the second. -/
theorem changes_append (store : Store) (migration : Migration) (first second : List Entry) :
    store.changes migration (first ++ second) =
      store.changes migration first +
        (store.mergeAll migration first).changes migration second := by
  -- The second list is counted from the store that merging the first leaves.
  induction first generalizing store with
  | nil => exact (Nat.zero_add _).symm
  | cons entry rest ih =>
    rw [List.cons_append, changes, ih, changes, Nat.add_assoc]
    rfl

/-- An offer of a peer leaves a store as it was exactly if it is malformed or reached. -/
theorem merge_eq_self_iff {entry : Entry} :
    store.merge migration entry = store ↔
      (entry.isWellFormed = true → store.Reaches entry.nodeId entry.timestamp) := by
  -- An ill-formed entry never changes anything; any other changes nothing where its version is
  -- reached.
  unfold merge
  split
  · rename_i wellFormed
    rw [put_eq_self_iff]
    exact ⟨fun reached _ => reached, fun reached => reached wellFormed⟩
  · rename_i malformed
    exact ⟨fun _ wellFormed => absurd wellFormed malformed, fun _ => rfl⟩

/-- An offer of a peer is taken in exactly if it changes the store. -/
theorem admitsFromPeer_eq_false_iff {entry : Entry} :
    store.admitsFromPeer migration entry = false ↔ store.merge migration entry = store := by
  -- An entry is refused for its form or for its version, the two ways in which a merge changes
  -- nothing.
  rw [merge_eq_self_iff, admitsFromPeer]
  cases entry.isWellFormed with
  | false => simp
  | true =>
    rw [Bool.true_and, ← Bool.not_eq_true, not_admits_iff]
    exact ⟨fun reached _ => reached, fun reached => reached rfl⟩

/-- The first of the offers that a store covers changes nothing. -/
theorem Covers.merge_eq_self {entry : Entry} (covers : store.Covers (entry :: entries)) :
    store.merge migration entry = store :=
  merge_eq_self_iff.2 (covers entry List.mem_cons_self)

/-- After offers all of them are reached. -/
theorem covers_mergeAll (store : Store) (migration : Migration) (entries : List Entry) :
    (store.mergeAll migration entries).Covers entries :=
  -- A merged entry of good form is reached, whatever is merged after it.
  fun _ member wellFormed => reaches_mergeAll store migration member wellFormed

/-- Offers leave a store as it was exactly if all are reached. -/
theorem mergeAll_eq_self_iff : store.mergeAll migration entries = store ↔ store.Covers entries := by
  -- Left to right, a merged store covers what was merged. Right to left by induction: each merge
  -- leaves the store as it is, so the next finds it covering.
  constructor
  · intro same
    have covers := covers_mergeAll store migration entries
    rwa [same] at covers
  · intro covers
    induction entries with
    | nil => rfl
    | cons entry rest ih =>
      show (store.merge migration entry).mergeAll migration rest = store
      rw [covers.merge_eq_self]
      exact ih fun other member => covers other (List.mem_cons_of_mem _ member)

/-- No offer changes a store exactly if all are reached. -/
theorem changes_eq_zero_iff : store.changes migration entries = 0 ↔ store.Covers entries := by
  induction entries with
  | nil => simp [changes, Covers]
  | cons entry rest ih =>
    -- As long as nothing has changed, the rest is offered to the same store.
    have each : store.Covers (entry :: rest) ↔
        store.merge migration entry = store ∧ store.Covers rest := by
      rw [merge_eq_self_iff, Covers, List.forall_mem_cons, Covers]
    rw [each, ← ih, changes]
    by_cases first : store.merge migration entry = store
    · simp [first]
    · simp [first]

/-- Whatever is new after an offer of a peer is that entry translated, later than what was held. -/
theorem get?_merge_later {entry found : Entry}
    (held : (store.merge migration entry).get? nodeId = some found) :
    store.get? nodeId = some found ∨
      (entry.isWellFormed = true ∧ found = migration.translate entry ∧
        ∀ resident, store.get? nodeId = some resident → resident.timestamp < found.timestamp) := by
  -- A merge is a put of the translated entry, or nothing.
  unfold merge at held
  split at held
  · rename_i wellFormed
    exact (get?_put_later held).imp_right fun new => ⟨wellFormed, new⟩
  · exact .inl held

/-- Whatever is new after offers is one of them translated, later than what was held before. -/
theorem get?_mergeAll_later {found : Entry}
    (held : (store.mergeAll migration entries).get? nodeId = some found) :
    store.get? nodeId = some found ∨
      ∃ entry ∈ entries, entry.isWellFormed = true ∧ found = migration.translate entry ∧
        ∀ resident, store.get? nodeId = some resident →
          resident.timestamp < found.timestamp := by
  -- The induction goes along the offers, each of which meets the store left by those before.
  induction entries generalizing store with
  | nil => exact .inl held
  | cons entry rest ih =>
    rcases ih held with first | ⟨other, member, wellFormed, same, later⟩
    · rcases get?_merge_later first with before | ⟨wellFormed, same, later⟩
      · exact .inl before
      · exact .inr ⟨entry, List.mem_cons_self, wellFormed, same, later⟩
    · refine .inr ⟨other, List.mem_cons_of_mem _ member, wellFormed, same, ?_⟩
      -- What the first offer leaves is at least as late as what was held.
      intro resident resides
      obtain ⟨middle, meets, late⟩ :=
        Reaches.merge ⟨resident, resides, le_refl _⟩ migration entry
      exact lt_of_le_of_lt late (later middle meets)

/-- The versions reached after offers are those reached before and those of the offers. -/
theorem reaches_mergeAll_iff {version : Millis} :
    (store.mergeAll migration entries).Reaches nodeId version ↔
      store.Reaches nodeId version ∨
        ∃ entry ∈ entries, entry.isWellFormed = true ∧ entry.nodeId = nodeId ∧
          version ≤ entry.timestamp := by
  constructor
  · rintro ⟨resident, left, late⟩
    rcases get?_mergeAll_later left with before | ⟨entry, member, wellFormed, rfl, -⟩
    · exact .inl ⟨resident, before, late⟩
    · -- The entry is left under the node id that it keeps in its translation.
      have node := (migration.translate_nodeId entry).symm.trans (nodeId_of_get? left)
      exact .inr ⟨entry, member, wellFormed, node, late⟩
  · rintro (before | ⟨entry, member, wellFormed, rfl, late⟩)
    · exact before.mergeAll migration entries
    · exact (reaches_mergeAll store migration member wellFormed).of_le late

/-- The versions held after offers do not depend on the order and number of the offers. -/
theorem version?_mergeAll_congr {others : List Entry}
    (same : ∀ entry, entry ∈ others ↔ entry ∈ entries) :
    (store.mergeAll migration others).version? nodeId =
      (store.mergeAll migration entries).version? nodeId := by
  -- Which versions are reached depends on the entries as a set, and the version held is the
  -- greatest reached.
  apply version?_eq_of_reaches_iff
  intro version
  simp only [reaches_mergeAll_iff, same]

/-- Where no two offers share a version, what one order of them leaves is left by any other. -/
theorem get?_mergeAll_of_same {others : List Entry} (distinct : Entry.OnePerVersion entries)
    (same : ∀ entry, entry ∈ others ↔ entry ∈ entries) {found : Entry}
    (held : (store.mergeAll migration others).get? nodeId = some found) :
    (store.mergeAll migration entries).get? nodeId = some found := by
  -- Something of the same version is left.
  have version := congrArg (Option.map Entry.timestamp) held
  rw [← version?, version?_mergeAll_congr same, version?, Option.map_some,
    Option.map_eq_some_iff] at version
  obtain ⟨other, left, version⟩ := version
  rw [left]
  rcases get?_mergeAll_later left with first | ⟨first, offered, -, rfl, late⟩
  · rcases get?_mergeAll_later held with second | ⟨second, -, -, -, late⟩
    · rw [← first, second]
    · -- What is new is later than what was held before.
      exact absurd (late other first) (version ▸ lt_irrefl _)
  · rcases get?_mergeAll_later held with second | ⟨second, again, -, rfl, -⟩
    · exact absurd (late found second) (version ▸ lt_irrefl _)
    · have node := (nodeId_of_get? left).trans (nodeId_of_get? held).symm
      rw [distinct first offered second ((same second).1 again) node version]

/-- Where no two offers share a version, their order and number do not show. -/
theorem mergeAll_congr {others : List Entry} (distinct : Entry.OnePerVersion entries)
    (same : ∀ entry, entry ∈ others ↔ entry ∈ entries) (migration : Migration) :
    store.mergeAll migration others = store.mergeAll migration entries := by
  -- With one entry for each version, equal versions mean equal entries, so the same argument serves
  -- both ways.
  have distinct' : Entry.OnePerVersion others := fun a memberA b memberB =>
    distinct a ((same a).1 memberA) b ((same b).1 memberB)
  refine Index.ext_find? fun nodeId => Option.ext fun found => ?_
  exact ⟨get?_mergeAll_of_same distinct same,
    get?_mergeAll_of_same distinct' fun entry => (same entry).symm⟩

end Roster.Store
