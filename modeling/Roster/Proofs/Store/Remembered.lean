import Roster.Proofs.Digest
import Roster.Proofs.Store.LastWrite
import Roster.Proofs.Store.Run

/-!
The remembered digest against the store it was computed for. No use of a ledger leaves a digest
that is not the one of the entries at hand, and a use changes the hashed text exactly if it answers
that it changed something.
-/

namespace Roster

namespace Store

/-- Whether a list holds the entries of a store, in whichever order. -/
def Lists (store : Store) (entries : List Entry) : Prop := entries.Perm store.items

instance (store : Store) (entries : List Entry) : Decidable (store.Lists entries) :=
  inferInstanceAs (Decidable (entries.Perm store.items))

/-- The text of a store's entries does not tell in which order they are listed. -/
theorem Lists.text_eq {store : Store} {entries : List Entry} (lists : store.Lists entries) :
    Digest.text entries = Digest.text store.items :=
  -- The text is sorted by node id, so the order in which the entries come is lost.
  Digest.text_eq_of_perm lists (nodup_nodeIds store)

/-- An offer leaves the text as it was exactly if the entry is turned away. -/
theorem text_put_eq_iff {store : Store} {entry : Entry} :
    Digest.text (store.put entry).items = Digest.text store.items ↔ ¬ store.admits entry := by
  constructor
  · intro same admitted
    -- With the same text, the resident would have the version of the entry it gives way to.
    have versions := version_eq_of_text_eq same entry.nodeId
    rw [get?_put, if_pos ⟨admitted, rfl⟩, Option.map_some, eq_comm,
      Option.map_eq_some_iff] at versions
    obtain ⟨resident, found, version⟩ := versions
    have earlier : resident.timestamp < entry.timestamp := admits_iff.1 admitted resident found
    exact absurd (congrArg Digest.Version.timestamp version) (ne_of_lt earlier)
  · intro refused
    rw [put, if_neg refused]

/-- An eviction leaves the text as it was exactly if it removes nothing. -/
theorem text_evict_eq_iff {store : Store} {now : Millis} :
    Digest.text (store.evict now).items = Digest.text store.items ↔
      store.expiredCount now = 0 := by
  -- What is removed is what is missing from the list of those that stay.
  have kept : (store.evict now).items.Sublist store.items := List.filter_sublist
  have count : store.expiredCount now = 0 ↔ (store.evict now).items = store.items := by
    have fewer := kept.length_le
    rw [← kept.length_eq, expiredCount, Index.size, Index.size]
    omega
  rw [count]
  refine ⟨fun same => List.filter_eq_self.2 fun entry listed => ?_, fun same => by rw [same]⟩
  -- With the same text, something is left under the node id of each entry, so it was not expired.
  have versions := version_eq_of_text_eq same entry.nodeId
  rw [get?_evict, mem_items_iff_get?.1 listed, Option.map_some, Option.map_eq_some_iff] at versions
  obtain ⟨resident, found, -⟩ := versions
  obtain ⟨stays, current⟩ := Option.filter_eq_some_iff.1 found
  exact (Option.some.inj stays).symm ▸ current

end Store

namespace Ledger

variable {ledger : Ledger}

/-- Whether a digest that is remembered is the one of the entries at hand. -/
def IsCurrent (ledger : Ledger) : Prop :=
  ∀ digest, ledger.remembered = some digest → digest = ledger.store.digest

/-- A ledger that remembers nothing is current. -/
theorem isCurrent_of_forgotten (forgotten : ledger.remembered = none) : ledger.IsCurrent := by
  -- Nothing remembered can be out of date.
  intro digest remembered
  rw [forgotten] at remembered
  cases remembered

/-- The digest of a current ledger is the one of the entries at hand. -/
theorem IsCurrent.digest_eq (current : ledger.IsCurrent) :
    ledger.digest.1 = ledger.store.digest := by
  -- Either the digest remembered is given, which is current, or a new one is made.
  unfold digest
  split
  · rename_i digest remembered
    exact current digest remembered
  · rfl

/-- An offer leaves a current ledger current. -/
theorem IsCurrent.put (current : ledger.IsCurrent) (entry : Entry) :
    (ledger.put entry).2.IsCurrent := by
  unfold Ledger.put
  -- An entry that is taken in drops the digest, and any other leaves the ledger as it is.
  split
  · exact isCurrent_of_forgotten rfl
  · exact current

/-- An eviction leaves a current ledger current. -/
theorem IsCurrent.evict (current : ledger.IsCurrent) (now : Millis) :
    (ledger.evict now).2.IsCurrent := by
  by_cases nothing : ledger.store.expiredCount now = 0
  · -- The digest is kept, and so is every entry that it tells of.
    intro digest remembered
    have before : ledger.remembered = some digest := by
      simpa only [Ledger.evict, if_pos nothing] using remembered
    rw [current digest before, Store.digest, store_evict, Store.digest, Digest.ofEntries,
      Digest.ofEntries, Store.text_evict_eq_iff.2 nothing]
  · exact isCurrent_of_forgotten (if_neg nothing)

/-- A digest that is computed is remembered with the entries it was computed for. -/
theorem IsCurrent.digest (current : ledger.IsCurrent) : ledger.digest.2.IsCurrent := by
  intro digest remembered
  rw [store_digest, ← current.digest_eq]
  unfold Ledger.digest at remembered ⊢
  -- What is remembered afterwards is what was answered.
  split at remembered
  · rename_i held
    simpa only [held, Option.some.injEq, eq_comm] using remembered
  · rename_i none
    simpa only [none, Option.some.injEq, eq_comm] using remembered

/-- No turn leaves a digest behind that is not the one of the entries at hand. -/
theorem IsCurrent.turn (current : ledger.IsCurrent) (turn : Turn) :
    (ledger.turn turn).IsCurrent := by
  obtain ⟨now, use⟩ := turn
  cases use with
  | put entry => exact current.put entry
  | merge migration entry =>
    show (ledger.merge migration entry).2.IsCurrent
    unfold Ledger.merge
    -- A malformed entry is dropped, and any other is offered in its translation.
    split
    · exact current.put _
    · exact current
  | evict => exact current.evict now
  | digest => exact current.digest
  | read kind pools => exact current

/-- No run leaves a digest behind that is not the one of the entries at hand. -/
theorem IsCurrent.run (current : ledger.IsCurrent) (turns : List Turn) :
    (ledger.run turns).IsCurrent := by
  -- Induction on the turns, each of which keeps the remembered digest current.
  induction turns generalizing ledger with
  | nil => exact current
  | cons turn rest ih => exact ih (current.turn turn)

/-- An offer of a peer is answered by whether it is well-formed and the store takes it in. -/
theorem merge_answer (ledger : Ledger) (migration : Migration) (entry : Entry) :
    (ledger.merge migration entry).1 = ledger.store.admitsFromPeer migration entry := by
  -- An ill-formed entry is refused by both before the store is asked.
  unfold merge Store.admitsFromPeer
  split
  · rename_i wellFormed
    rw [put_answer, wellFormed, Bool.true_and]
  · rename_i malformed
    rw [Bool.not_eq_true] at malformed
    rw [malformed, Bool.false_and]

/-- An offer of a peer leaves the text as it was exactly if the entry is turned away. -/
theorem text_merge_eq_iff {migration : Migration} {entry : Entry} :
    Digest.text (ledger.store.merge migration entry).items = Digest.text ledger.store.items ↔
      ¬ ledger.store.admitsFromPeer migration entry := by
  -- An ill-formed entry changes nothing and is not admitted; any other is put.
  unfold Store.merge Store.admitsFromPeer
  split
  · rename_i wellFormed
    rw [Store.text_put_eq_iff, wellFormed, Bool.true_and]
  · rename_i malformed
    simp [malformed]

/--
After any run, the digest is that of the entries at hand in whichever order they are listed.

An offer, an offer of a peer or an eviction changes the text that is hashed exactly if it answers
that the entry was taken in or that some were removed.
-/
theorem digest_follows_store (turns : List Turn) :
    let ledger := (∅ : Ledger).run turns
    (∀ entries, ledger.store.Lists entries → ledger.digest.1 = Digest.ofEntries entries) ∧
    ∀ before, ledger.store.Lists before →
      (∀ entry after, (ledger.put entry).2.store.Lists after →
        (Digest.text before ≠ Digest.text after ↔ (ledger.put entry).1 = true)) ∧
      (∀ migration entry after, (ledger.merge migration entry).2.store.Lists after →
        (Digest.text before ≠ Digest.text after ↔ (ledger.merge migration entry).1 = true)) ∧
      ∀ now after, (ledger.evict now).2.store.Lists after →
        (Digest.text before ≠ Digest.text after ↔ 0 < (ledger.evict now).1) := by
  intro ledger
  have current : ledger.IsCurrent := IsCurrent.run (isCurrent_of_forgotten rfl) turns
  refine ⟨fun entries lists => ?_, fun before lists => ⟨?_, ?_, ?_⟩⟩
  · -- Both digests are the hash of one text.
    rw [current.digest_eq, Store.digest, Digest.ofEntries, Digest.ofEntries, lists.text_eq]
  · -- The answer to an offer says whether the store takes the entry in.
    intro entry after listsAfter
    rw [lists.text_eq, listsAfter.text_eq, store_put, ne_comm, ne_eq, Store.text_put_eq_iff,
      not_not, put_answer]
  · intro migration entry after listsAfter
    rw [lists.text_eq, listsAfter.text_eq, store_merge, ne_comm, ne_eq, text_merge_eq_iff,
      not_not, merge_answer]
  · -- The answer to an eviction is the number of entries that it removes.
    intro now after listsAfter
    rw [lists.text_eq, listsAfter.text_eq, store_evict, ne_comm, ne_eq, Store.text_evict_eq_iff]
    exact Nat.pos_iff_ne_zero.symm

/-- Two entries listed backwards: a later one and an eviction show, and a copy changes nothing. -/
theorem digest_follows_store_backwards :
    let first := Entry.live "a" [] 1 10 none
    let second := Entry.live "a" [] 2 10 none
    let gone := Entry.tombstone "b" 5 none
    let ledger := (∅ : Ledger).run
      [⟨1, .put first⟩, ⟨2, .merge ⟨"fleet", .three⟩ gone⟩, ⟨3, .digest⟩]
    ledger.digest.1 = Digest.ofEntries [gone, first] ∧
      ((ledger.put second).1 = true ∧ Digest.text [gone, first] ≠ Digest.text [gone, second]) ∧
      ((ledger.merge ⟨"fleet", .three⟩ gone).1 = false ∧
        Digest.text [gone, first] = Digest.text [first, gone]) ∧
      ((ledger.evict 12).1 = 1 ∧ Digest.text [gone, first] ≠ Digest.text [gone]) := by
  intro first second gone ledger
  -- The store lists its entries by node id, and the text is the same when they come backwards.
  have backwards : ledger.store.Lists [gone, first] := by decide
  obtain ⟨digest, changes⟩ := digest_follows_store
    [⟨1, .put first⟩, ⟨2, .merge ⟨"fleet", .three⟩ gone⟩, ⟨3, .digest⟩]
  obtain ⟨puts, merges, evicts⟩ := changes _ backwards
  have taken : (ledger.put second).1 = true := by decide
  have refused : (ledger.merge ⟨"fleet", .three⟩ gone).1 = false := by decide
  have removed : (ledger.evict 12).1 = 1 := by decide
  refine ⟨digest _ backwards, ⟨taken, ?_⟩, ⟨refused, ?_⟩, removed, ?_⟩
  · exact (puts second [gone, second] (by decide)).2 taken
  · have unchanged := merges ⟨"fleet", .three⟩ gone [first, gone] (by decide)
    rw [refused] at unchanged
    simpa using unchanged
  · exact (evicts 12 [gone] (by decide)).2 (by rw [removed]; decide)

end Ledger

end Roster
