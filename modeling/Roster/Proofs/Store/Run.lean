import Roster.Ledger
import Roster.Proofs.Store.Version

/-! Runs of uses of a ledger, and what one use and a whole run can do to what a store holds. -/

namespace Roster.Ledger

/-- A use of a ledger. -/
inductive Use
  | put (entry : Entry)
  | merge (migration : Migration) (entry : Entry)
  | evict
  | digest
  -- A filtered reading, which leaves the ledger as it is.
  | read (kind : Option String) (pools : List String)

/-- A use of a ledger and the clock reading at which it happens. -/
structure Turn where
  now : Millis
  use : Use

/-- The ledger after a turn. -/
def turn (ledger : Ledger) (turn : Turn) : Ledger :=
  match turn.use with
  | .put entry => (ledger.put entry).2
  | .merge migration entry => (ledger.merge migration entry).2
  | .evict => (ledger.evict turn.now).2
  | .digest => ledger.digest.2
  | .read _ _ => ledger

/-- The ledger after a run of turns. -/
def run (ledger : Ledger) (turns : List Turn) : Ledger := turns.foldl Ledger.turn ledger

/-- Whether the clock never goes back in a run. -/
def InOrder (turns : List Turn) : Prop :=
  turns.Pairwise fun earlier later => earlier.now ≤ later.now

instance (turns : List Turn) : Decidable (InOrder turns) :=
  inferInstanceAs (Decidable (turns.Pairwise _))

/-- Whether a turn offers an entry, which is the one that would be stored. -/
def Turn.Offers (turn : Turn) (entry : Entry) : Prop :=
  match turn.use with
  | .put offer => entry = offer
  -- Malformed entries of peers are no offers, and others are stored translated.
  | .merge migration offer => offer.isWellFormed ∧ entry = migration.translate offer
  | _ => False

@[simp] theorem run_nil (ledger : Ledger) : ledger.run [] = ledger := rfl

@[simp] theorem run_cons (ledger : Ledger) (turn : Turn) (turns : List Turn) :
    ledger.run (turn :: turns) = (ledger.turn turn).run turns := rfl

@[simp] theorem run_append (ledger : Ledger) (before after : List Turn) :
    ledger.run (before ++ after) = (ledger.run before).run after :=
  List.foldl_append

/-- Whatever is held after a turn was held before or is offered by the turn. -/
theorem get?_turn_cases {ledger : Ledger} {turn : Turn} {nodeId : String} {found : Entry}
    (held : (ledger.turn turn).store.get? nodeId = some found) :
    ledger.store.get? nodeId = some found ∨ turn.Offers found := by
  obtain ⟨now, use⟩ := turn
  cases use with
  | put entry =>
    rw [Ledger.turn, store_put] at held
    exact (Store.get?_put_cases held).symm
  | merge migration entry =>
    rw [Ledger.turn, store_merge] at held
    exact (Store.get?_merge_cases held).symm
  | evict =>
    -- An eviction adds nothing.
    exact .inl (Store.get?_evict_eq_some.1 held).1
  | digest =>
    -- A digest may be remembered, but the store is the same.
    rw [Ledger.turn, store_digest] at held
    exact .inl held
  | read kind pools => exact .inl held

/-- A version reached before a turn and not after it was that of an expired entry now evicted. -/
theorem reaches_turn {ledger : Ledger} {nodeId : String} {version : Millis}
    (reached : ledger.store.Reaches nodeId version) (turn : Turn) :
    (ledger.turn turn).store.Reaches nodeId version ∨
      turn.use = .evict ∧ ∃ resident, ledger.store.get? nodeId = some resident ∧
        version ≤ resident.timestamp ∧ resident.isExpired turn.now = true := by
  obtain ⟨now, use⟩ := turn
  cases use with
  | put entry =>
    rw [Ledger.turn, store_put]
    exact .inl (reached.put entry)
  | merge migration entry =>
    rw [Ledger.turn, store_merge]
    exact .inl (reached.merge migration entry)
  | evict =>
    -- Only here can the version be lost.
    exact (reached.evict now).imp_right fun gone => ⟨rfl, gone⟩
  | digest =>
    rw [Ledger.turn, store_digest]
    exact .inl reached
  | read kind pools => exact .inl reached

/-- Whatever is held after a run was held before or is offered by one of the turns. -/
theorem get?_run_cases {ledger : Ledger} {turns : List Turn} {nodeId : String} {found : Entry}
    (held : (ledger.run turns).store.get? nodeId = some found) :
    ledger.store.get? nodeId = some found ∨ ∃ turn ∈ turns, turn.Offers found := by
  induction turns generalizing ledger with
  | nil => exact .inl held
  | cons turn rest ih =>
    -- What the rest does not offer was left by the first turn.
    rcases ih held with before | ⟨later, member, offers⟩
    · rcases get?_turn_cases before with first | offers
      · exact .inl first
      · exact .inr ⟨turn, List.mem_cons_self, offers⟩
    · exact .inr ⟨later, List.mem_cons_of_mem _ member, offers⟩

/-- A version reached before a run and not after it was lost to an eviction during the run. -/
theorem reaches_run {ledger : Ledger} {nodeId : String} {version : Millis}
    (reached : ledger.store.Reaches nodeId version) (turns : List Turn) :
    (ledger.run turns).store.Reaches nodeId version ∨
      ∃ earlier now later resident, turns = earlier ++ ⟨now, .evict⟩ :: later ∧
        (ledger.run earlier).store.get? nodeId = some resident ∧
        version ≤ resident.timestamp ∧ resident.isExpired now = true := by
  -- Either the first turn loses the version, or it is still reached for the rest.
  induction turns generalizing ledger with
  | nil => exact .inl reached
  | cons turn rest ih =>
    rcases reaches_turn reached turn with still | ⟨evicts, resident, found, late, expired⟩
    · rcases ih still with final | ⟨earlier, now, later, resident, rfl, found, late, expired⟩
      · exact .inl final
      · exact .inr ⟨turn :: earlier, now, later, resident, rfl, found, late, expired⟩
    · -- The first turn is the eviction in question, with nothing before it.
      refine .inr ⟨[], turn.now, rest, resident, ?_, found, late, expired⟩
      rw [← evicts]
      rfl

end Roster.Ledger
