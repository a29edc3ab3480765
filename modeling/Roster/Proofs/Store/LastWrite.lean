import Roster.Ledger
import Roster.Proofs.Store.Version
import Mathlib.Data.List.Induction

/-!
What a store holds after any run of offers: for each node the earliest offer with the greatest
timestamp. Where versions are distinct, neither order nor repetition of the offers counts.
-/

namespace Roster

namespace Entry

/-- Whether an entry is strictly later than all offers for its node. -/
def IsLater (offers : List Entry) (entry : Entry) : Prop :=
  ∀ other ∈ offers, other.nodeId = entry.nodeId → other.timestamp < entry.timestamp

instance (offers : List Entry) (entry : Entry) : Decidable (IsLater offers entry) :=
  inferInstanceAs (Decidable (∀ other ∈ offers, _))

/-- Whether an entry is, of the offers for its node, the earliest with the greatest timestamp. -/
def Stands (offers : List Entry) (entry : Entry) : Prop :=
  -- Later offers may tie with the entry, but earlier ones may not.
  ∃ before after, offers = before ++ entry :: after ∧ IsLater before entry ∧
    ∀ other ∈ after, other.nodeId = entry.nodeId → other.timestamp ≤ entry.timestamp

/-- An entry that stands is one of the offers. -/
theorem Stands.mem {offers : List Entry} {entry : Entry} (stands : Stands offers entry) :
    entry ∈ offers := by
  -- Where an entry stands is a place in the list.
  obtain ⟨before, after, rfl, -, -⟩ := stands
  simp

/-- An entry that stands is at least as late as every offer for its node. -/
theorem Stands.latest {offers : List Entry} {entry other : Entry} (stands : Stands offers entry)
    (offered : other ∈ offers) (same : other.nodeId = entry.nodeId) :
    other.timestamp ≤ entry.timestamp := by
  obtain ⟨before, after, rfl, later, notEarlier⟩ := stands
  rcases List.mem_append.1 offered with front | back
  · -- Nothing in front ties with the entry.
    exact le_of_lt (later other front same)
  · rcases List.mem_cons.1 back with rfl | back
    · exact le_refl _
    · exact notEarlier other back same

/-- After one more offer an entry stands if it did and is not outdone, or if it is that offer. -/
theorem stands_concat {offers : List Entry} {last entry : Entry} :
    Stands (offers ++ [last]) entry ↔
      (Stands offers entry ∧ (last.nodeId = entry.nodeId → last.timestamp ≤ entry.timestamp)) ∨
        (entry = last ∧ IsLater offers last) := by
  constructor
  · rintro ⟨before, after, split, later, notEarlier⟩
    -- The last offer is the entry itself or the last of those behind it.
    rcases List.eq_nil_or_concat after with rfl | ⟨inner, final, rfl⟩
    · obtain ⟨rfl, same⟩ := List.append_inj' split rfl
      cases same
      exact .inr ⟨rfl, later⟩
    · -- The rest behind the entry witnesses that it stood before.
      rw [List.concat_eq_append, ← List.cons_append, ← List.append_assoc] at split
      obtain ⟨rfl, same⟩ := List.append_inj' split rfl
      cases same
      refine .inl ⟨⟨before, inner, rfl, later, fun other member => ?_⟩, fun same => ?_⟩
      · exact notEarlier other (by simp [member])
      · exact notEarlier last (by simp) same
  · rintro (⟨⟨before, after, rfl, later, notEarlier⟩, outdone⟩ | ⟨rfl, later⟩)
    · -- The last offer joins those behind the entry.
      refine ⟨before, after ++ [last], by simp, later, fun other member same => ?_⟩
      rcases List.mem_append.1 member with inner | final
      · exact notEarlier other inner same
      · cases List.mem_singleton.1 final
        exact outdone same
    · -- All other offers are in front of the last.
      exact ⟨offers, [], rfl, later, by simp⟩

/-- Where versions are distinct, an entry stands exactly if it is an offer that none outdoes. -/
theorem OnePerVersion.stands_iff {offers : List Entry} (distinct : OnePerVersion offers)
    {entry : Entry} :
    Stands offers entry ↔ entry ∈ offers ∧
      ∀ other ∈ offers, other.nodeId = entry.nodeId → other.timestamp ≤ entry.timestamp := by
  constructor
  · intro stands
    exact ⟨stands.mem, fun other offered => stands.latest offered⟩
  · rintro ⟨offered, latest⟩
    -- In front of its first occurrence a tie would be the entry itself.
    obtain ⟨before, after, rfl, first⟩ := List.eq_append_cons_of_mem offered
    refine ⟨before, after, rfl, fun other front same => ?_, fun other back => ?_⟩
    · refine lt_of_le_of_ne (latest other (by simp [front]) same) fun tie => first ?_
      exact distinct other (by simp [front]) entry offered same tie ▸ front
    · exact latest other (by simp [back])

end Entry

namespace Store

/-- Every offer of a run is reached at its end. -/
theorem reaches_foldl_put {offers : List Entry} {entry : Entry} (offered : entry ∈ offers)
    (store : Store) : (offers.foldl put store).Reaches entry.nodeId entry.timestamp := by
  -- An offer is reached when it is made, and stays so.
  induction offers using List.reverseRecOn with
  | nil => simp at offered
  | append_singleton offers last ih =>
    rw [List.foldl_append, List.foldl_cons, List.foldl_nil]
    rcases List.mem_append.1 offered with earlier | final
    · exact (ih earlier).put last
    · rw [List.mem_singleton.1 final]
      exact reaches_put _ last

/-- A run of offers leads an empty store to take an entry in exactly if it is later than all. -/
theorem admits_foldl_put {offers : List Entry} {entry : Entry}
    (stored : ∀ resident, (offers.foldl put (∅ : Store)).get? entry.nodeId = some resident →
      resident ∈ offers) :
    (offers.foldl put (∅ : Store)).admits entry ↔ Entry.IsLater offers entry := by
  rw [admits_iff]
  constructor
  · intro later other offered same
    -- The resident is at least as late as the offer.
    obtain ⟨resident, found, late⟩ := reaches_foldl_put offered (∅ : Store)
    rw [same] at found
    exact lt_of_le_of_lt late (later resident found)
  · -- The resident is one of the offers.
    intro later resident found
    exact later resident (stored resident found) (nodeId_of_get? found)

/-- After a run of offers a node id leads to the entry of that id that stands. -/
theorem get?_foldl_put {offers : List Entry} {nodeId : String} {entry : Entry} :
    (offers.foldl put (∅ : Store)).get? nodeId = some entry ↔
      entry.nodeId = nodeId ∧ Entry.Stands offers entry := by
  -- The induction is on the last offer, which meets the store that the others leave.
  induction offers using List.reverseRecOn generalizing nodeId entry with
  | nil =>
    constructor
    · intro found
      exact absurd found (by simp [get?, EmptyCollection.emptyCollection])
    · rintro ⟨-, stands⟩
      exact absurd stands.mem List.not_mem_nil
  | append_singleton offers last ih =>
    have admitted : (offers.foldl put (∅ : Store)).admits last ↔ Entry.IsLater offers last :=
      admits_foldl_put fun resident found => (ih.1 found).2.mem
    rw [List.foldl_append, List.foldl_cons, List.foldl_nil, get?_put, Entry.stands_concat]
    by_cases taken : (offers.foldl put (∅ : Store)).admits last ∧ last.nodeId = nodeId
    · -- The last offer took the place of whatever stood before.
      rw [if_pos taken, Option.some.injEq]
      obtain ⟨later, rfl⟩ := taken
      constructor
      · rintro rfl
        exact ⟨rfl, .inr ⟨rfl, admitted.1 later⟩⟩
      · rintro ⟨same, ⟨stands, outdone⟩ | ⟨rfl, -⟩⟩
        · -- An entry that stood before is strictly earlier than the last offer.
          have before := admitted.1 later entry stands.mem same
          exact absurd (outdone same.symm) (not_le.2 before)
        · rfl
    · -- The last offer was turned away or is for another node.
      rw [if_neg taken, ih]
      apply and_congr_right
      intro same
      constructor
      · intro stands
        refine .inl ⟨stands, fun sameNode => ?_⟩
        -- The last offer was turned away by a resident, which is the entry that stands.
        have refused : ¬ (offers.foldl put (∅ : Store)).admits last := fun admitted =>
          taken ⟨admitted, sameNode.trans same⟩
        obtain ⟨resident, found, late⟩ := not_admits_iff.1 refused
        rw [sameNode, ih.2 ⟨rfl, stands⟩] at found
        cases found
        exact late
      · rintro (⟨stands, -⟩ | ⟨rfl, later⟩)
        · exact stands
        · exact absurd ⟨admitted.2 later, same⟩ taken

/-- The node ids of a store are listed once each. -/
theorem nodup_nodeIds (store : Store) : (store.items.map Entry.nodeId).Nodup :=
  store.nodup_keys

/-- After a run of offers exactly the node ids of the offers are listed. -/
theorem mem_nodeIds_foldl_put {offers : List Entry} {nodeId : String} :
    nodeId ∈ (offers.foldl put (∅ : Store)).items.map Entry.nodeId ↔
      nodeId ∈ offers.map Entry.nodeId := by
  simp only [List.mem_map]
  constructor
  · -- What is held stands, and what stands is an offer.
    rintro ⟨entry, listed, rfl⟩
    exact ⟨entry, (get?_foldl_put.1 (mem_items_iff_get?.1 listed)).2.mem, rfl⟩
  · -- Every offer is reached, so its node has a resident.
    rintro ⟨offer, offered, rfl⟩
    obtain ⟨resident, found, -⟩ := reaches_foldl_put offered (∅ : Store)
    have same := nodeId_of_get? found
    exact ⟨resident, mem_items_iff_get?.2 (same ▸ found), same⟩

/-- Runs of the same offers with distinct versions end alike, in any order and repetition. -/
theorem foldl_put_congr {offers others : List Entry} (distinct : Entry.OnePerVersion offers)
    (same : ∀ entry, entry ∈ others ↔ entry ∈ offers) :
    others.foldl put (∅ : Store) = offers.foldl put ∅ := by
  have alike : Entry.OnePerVersion others := fun a offeredA b offeredB =>
    distinct a ((same a).1 offeredA) b ((same b).1 offeredB)
  refine Index.ext_find? fun nodeId => Option.ext fun entry => ?_
  -- What stands depends on the members of a run alone.
  have stands : Entry.Stands others entry ↔ Entry.Stands offers entry := by
    rw [alike.stands_iff, distinct.stands_iff]
    simp only [same]
  exact get?_foldl_put.trans ((and_congr_right fun _ => stands).trans get?_foldl_put.symm)

end Store

namespace Ledger

/-- Offers entries one after the other; the answers are whether each was taken in. -/
def putAll (ledger : Ledger) : List Entry → List Bool × Ledger
  | [] => ([], ledger)
  | entry :: rest =>
    let first := ledger.put entry
    let others := first.2.putAll rest
    (first.1 :: others.1, others.2)

@[ext] theorem ext {a b : Ledger} (stores : a.store = b.store)
    (digests : a.remembered = b.remembered) : a = b := by
  cases a; cases b; cases stores; cases digests; rfl

/-- An offer is answered by whether the store takes it in. -/
theorem put_answer (ledger : Ledger) (entry : Entry) :
    (ledger.put entry).1 = ledger.store.admits entry := by
  unfold put
  -- Only what is taken in is answered with yes.
  split
  · rename_i admitted
    exact admitted.symm
  · rename_i refused
    simpa using refused

/-- The store after offers is that of the offers alone. -/
theorem store_putAll (ledger : Ledger) (offers : List Entry) :
    (ledger.putAll offers).2.store = offers.foldl Store.put ledger.store := by
  -- Induction on the offers, from any ledger.
  induction offers generalizing ledger with
  | nil => rfl
  | cons entry rest ih => rw [putAll, List.foldl_cons, ← store_put]; exact ih _

/-- Offers leave no digest remembered where none was. -/
theorem remembered_putAll {ledger : Ledger} (forgotten : ledger.remembered = none)
    (offers : List Entry) : (ledger.putAll offers).2.remembered = none := by
  induction offers generalizing ledger with
  | nil => exact forgotten
  | cons entry rest ih =>
    apply ih
    -- A change forgets the digest, and without a change it stays forgotten.
    unfold put
    split
    · rfl
    · exact forgotten

/-- The answers to offers after others are those of the ledger that the others leave. -/
theorem putAll_append (ledger : Ledger) (before after : List Entry) :
    (ledger.putAll (before ++ after)).1 =
      (ledger.putAll before).1 ++ ((ledger.putAll before).2.putAll after).1 := by
  -- The later offers start from the ledger the earlier ones leave.
  induction before generalizing ledger with
  | nil => rfl
  | cons entry rest ih => exact congrArg (List.cons _) (ih _)

/-- Every offer is answered. -/
theorem length_putAll (ledger : Ledger) (offers : List Entry) :
    (ledger.putAll offers).1.length = offers.length := by
  -- One result for each offer.
  induction offers generalizing ledger with
  | nil => rfl
  | cons entry rest ih => exact congrArg (· + 1) (ih _)

/-- An offer to an empty ledger is taken in exactly if it is later than all before it. -/
theorem putAll_answer (before after : List Entry) (entry : Entry) :
    ((∅ : Ledger).putAll (before ++ entry :: after)).1[before.length]? =
      some (decide (Entry.IsLater before entry)) := by
  have admitted : (before.foldl Store.put (∅ : Store)).admits entry ↔ Entry.IsLater before entry :=
    Store.admits_foldl_put fun resident found => (Store.get?_foldl_put.1 found).2.mem
  -- The answer is the first of those that the ledger gives after the offers in front.
  rw [putAll_append, List.getElem?_append_right (Nat.le_of_eq (length_putAll ∅ before)),
    length_putAll, Nat.sub_self]
  show some (((∅ : Ledger).putAll before).2.put entry).1 = _
  rw [put_answer, store_putAll]
  exact congrArg some (Bool.eq_iff_iff.2 (admitted.trans decide_eq_true_iff.symm))

/--
Offers to an empty ledger are settled by the last write.

Each node id of the offers is listed once and leads to the earliest offer with the greatest
timestamp, and an offer is taken in exactly if it is later than all before it. Where versions are
distinct, the same offers in any order and repetition lead to the same ledger.
-/
theorem putAll_last_write_wins (offers : List Entry) :
    let result := (∅ : Ledger).putAll offers
    (∀ nodeId entry, result.2.store.get? nodeId = some entry ↔
      entry.nodeId = nodeId ∧ Entry.Stands offers entry) ∧
    (result.2.store.items.map Entry.nodeId).Nodup ∧
    (∀ nodeId, nodeId ∈ result.2.store.items.map Entry.nodeId ↔
      nodeId ∈ offers.map Entry.nodeId) ∧
    result.1.length = offers.length ∧
    (∀ before entry after, offers = before ++ entry :: after →
      result.1[before.length]? = some (decide (Entry.IsLater before entry))) ∧
    (Entry.OnePerVersion offers → ∀ others, (∀ entry, entry ∈ others ↔ entry ∈ offers) →
      ((∅ : Ledger).putAll others).2 = result.2) := by
  have stored := store_putAll ∅ offers
  refine ⟨fun nodeId entry => ?_, Store.nodup_nodeIds _, fun nodeId => ?_,
    length_putAll ∅ offers, fun before entry after split => ?_, fun distinct others same => ?_⟩
  · -- What a node id leads to is what stands.
    rw [stored]
    exact Store.get?_foldl_put
  · rw [stored]
    exact Store.mem_nodeIds_foldl_put
  · -- The answer at a place depends on the offers in front of it alone.
    subst split
    exact putAll_answer before after entry
  · have stores : ((∅ : Ledger).putAll others).2.store = ((∅ : Ledger).putAll offers).2.store := by
      rw [stored, store_putAll]
      exact Store.foldl_put_congr distinct same
    -- Neither run leaves a digest remembered, so the ledgers are their stores.
    have forgotten : (∅ : Ledger).remembered = none := rfl
    have digests := (remembered_putAll forgotten others).trans
      (remembered_putAll forgotten offers).symm
    exact ext stores digests

/-- Three offers, of which one is outdone, lead to the same ledger backwards and with repeats. -/
theorem putAll_backwards_repeated :
    let first := Entry.live "a" [] 1 10 none
    let gone := Entry.tombstone "b" 5 none
    let second := Entry.live "a" [] 3 10 (some "10.0.0.1")
    Entry.OnePerVersion [first, gone, second] ∧
      ((∅ : Ledger).putAll [second, gone, first, second, first]).2 =
        ((∅ : Ledger).putAll [first, gone, second]).2 := by
  intro first gone second
  have distinct : Entry.OnePerVersion [first, gone, second] := by decide
  have settled := putAll_last_write_wins [first, gone, second]
  refine ⟨distinct, settled.2.2.2.2.2 distinct _ fun entry => ?_⟩
  -- Both lists have the same three members.
  simp only [List.mem_cons, List.not_mem_nil, or_false]
  grind

end Ledger

end Roster
