import Roster.Store

/-! A store that remembers its digest until the next change. -/

namespace Roster

/-- A store and the digest last computed for it, if it has not changed since. -/
structure Ledger where
  store : Store
  remembered : Option String
  deriving DecidableEq

namespace Ledger

/-- The ledger of an empty store. -/
def empty : Ledger := ⟨∅, none⟩

instance : EmptyCollection Ledger := ⟨empty⟩
instance : Inhabited Ledger := ⟨empty⟩

/-- Offers an entry; the answer is whether it was taken in. -/
def put (ledger : Ledger) (entry : Entry) : Bool × Ledger :=
  if ledger.store.admits entry then (true, ⟨ledger.store.insert entry, none⟩)
  else (false, ledger)

/-- Offers an entry from a peer; the answer is whether it was taken in. -/
def merge (ledger : Ledger) (migration : Migration) (entry : Entry) : Bool × Ledger :=
  if entry.isWellFormed then ledger.put (migration.translate entry) else (false, ledger)

/-- Removes the expired entries and counts them. -/
def evict (ledger : Ledger) (now : Millis) : Nat × Ledger :=
  let removed := ledger.store.expiredCount now
  -- The remembered digest is given up only for a change.
  (removed, ⟨ledger.store.evict now, if removed = 0 then ledger.remembered else none⟩)

/-- The digest, computed only if it is not remembered. -/
def digest (ledger : Ledger) : String × Ledger :=
  match ledger.remembered with
  | some digest => (digest, ledger)
  | none => (ledger.store.digest, { ledger with remembered := some ledger.store.digest })

@[simp] theorem store_put (ledger : Ledger) (entry : Entry) :
    (ledger.put entry).2.store = ledger.store.put entry := by
  -- Whether the remembered digest is forgotten or kept shows in the ledger alone.
  unfold put Store.put
  split <;> rfl

@[simp] theorem store_merge (ledger : Ledger) (migration : Migration) (entry : Entry) :
    (ledger.merge migration entry).2.store = ledger.store.merge migration entry := by
  -- An entry that a peer may not bring never gets as far as the store.
  unfold merge Store.merge
  split
  · exact store_put _ _
  · rfl

@[simp] theorem store_evict (ledger : Ledger) (now : Millis) :
    (ledger.evict now).2.store = ledger.store.evict now := rfl

@[simp] theorem store_digest (ledger : Ledger) : ledger.digest.2.store = ledger.store := by
  -- The digest is remembered or computed; the store is only read.
  unfold digest
  split <;> rfl

end Ledger

end Roster
