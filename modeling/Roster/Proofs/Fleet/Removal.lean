import Roster.Proofs.Fleet.Run
import Roster.Proofs.Store.Outdated
import Mathlib.Data.List.Basic
import Mathlib.Data.List.Infix

/-!
Removals spread and last. A tombstone gets to other nodes by offers and pulls, and no eviction,
stale offer or stale pull takes it away again as long as nobody writes a later entry of its node.
-/

namespace Roster

/-- A tombstone is well-formed, for it has no services. -/
theorem Entry.isWellFormed_of_isTombstone {entry : Entry} (gone : entry.isTombstone = true) :
    entry.isWellFormed = true := by
  -- Only a live entry needs an age.
  simp only [isTombstone] at gone
  simp [isWellFormed, gone]

namespace Store

/-- Whether a store holds a tombstone of a node, of some version or a later one. -/
def Removed (store : Store) (nodeId : String) (version : Millis) : Prop :=
  ∃ resident, store.get? nodeId = some resident ∧ resident.isTombstone = true ∧
    version ≤ resident.timestamp

/-- Whether a store holds a live entry of a node, of some version or a later one. -/
def Alive (store : Store) (nodeId : String) (version : Millis) : Prop :=
  ∃ resident, store.get? nodeId = some resident ∧ resident.isTombstone = false ∧
    version ≤ resident.timestamp

instance (store : Store) (nodeId : String) (version : Millis) :
    Decidable (store.Alive nodeId version) :=
  decidable_of_iff
    ((store.get? nodeId).any fun resident =>
      !resident.isTombstone && decide (version ≤ resident.timestamp)) <| by
    unfold Alive
    cases store.get? nodeId <;> simp

/-- A removed node is one whose version is reached. -/
theorem Removed.reaches {store : Store} {nodeId : String} {version : Millis}
    (removed : store.Removed nodeId version) : store.Reaches nodeId version := by
  -- The tombstone itself is the resident that is late enough.
  obtain ⟨resident, found, -, late⟩ := removed
  exact ⟨resident, found, late⟩

/-- A version that is reached, but not by a live entry, is reached by a tombstone. -/
theorem Reaches.removed {store : Store} {nodeId : String} {version : Millis}
    (reached : store.Reaches nodeId version) (dead : ¬store.Alive nodeId version) :
    store.Removed nodeId version := by
  -- A resident that is late enough and no tombstone would be alive.
  obtain ⟨resident, found, late⟩ := reached
  refine ⟨resident, found, ?_, late⟩
  cases kind : resident.isTombstone with
  | true => rfl
  | false => exact absurd ⟨resident, found, kind, late⟩ dead

/-- An eviction leaves tombstones alone. -/
theorem Removed.evict {store : Store} {nodeId : String} {version : Millis}
    (removed : store.Removed nodeId version) (now : Millis) :
    (store.evict now).Removed nodeId version := by
  obtain ⟨resident, found, gone, late⟩ := removed
  have current : resident.isExpired now = false := by
    -- Only live entries expire.
    refine Bool.eq_false_iff.2 fun expired => ?_
    have live := Entry.isTombstone_of_isExpired expired
    rw [gone] at live
    cases live
  exact ⟨resident, get?_evict_eq_some.2 ⟨found, current⟩, gone, late⟩

/-- A filtered reading is the same without the tombstone of a node. -/
theorem Removed.filtered_eq {store : Store} {nodeId : String} {version : Millis}
    (removed : store.Removed nodeId version) (now : Millis) (kind : Option String)
    (pools : List String) :
    store.filtered now kind pools =
      Store.filtered (store.filter (·.nodeId != nodeId)) now kind pools := by
  obtain ⟨resident, found, gone, -⟩ := removed
  simp only [filtered, Index.filter, List.filterMap_filter]
  apply List.filterMap_congr
  intro entry listed
  by_cases same : entry.nodeId = nodeId
  · -- The only entry of the node is the tombstone, of which nothing is shown.
    have stored := mem_items_iff_get?.1 listed
    rw [same, found, Option.some.injEq] at stored
    have none : entry.services = none := Option.isNone_iff_eq_none.1 (stored ▸ gone)
    simp [visible?, same, none]
  · simp [same]

end Store

/-- Whether a request deletes the entry of a node. -/
def Write.Deletes (nodeId : String) : Write → Prop
  | .delete _ target _ => target = nodeId
  | .deleteTrusted target => target = nodeId
  | _ => False

namespace Node

/-- A node that holds nothing of some node id. -/
def without (node : Node) (nodeId : String) : Node :=
  { node with ledger := ⟨node.store.filter (·.nodeId != nodeId), none⟩ }

/-- A node that holds a tombstone answers queries as if it held nothing of that node id. -/
theorem query_without {node : Node} {nodeId : String} {version : Millis}
    (removed : node.store.Removed nodeId version) (now : Millis) (kind pool : Option String) :
    node.query now kind pool = (node.without nodeId).query now kind pool := by
  -- A tombstone has nothing to show.
  simp only [query, removed.filtered_eq]
  rfl

/-- A node that accepts a deletion writes the tombstone it makes. -/
theorem perform_of_deletes {node : Node} {now : Millis} {write : Write} {nodeId : String}
    (deletes : write.Deletes nodeId) (accepted : (node.perform now write).answer = .ok ()) :
    node.perform now write = (node.write now (node.tombstoneFor now nodeId)).map .ok := by
  have made : node.entryOf now write = node.tombstoneFor now nodeId := by
    -- Only the two deletions delete a node id; an announcement would name none.
    cases write with
    | delete _ target _ =>
      cases (deletes : target = nodeId)
      rfl
    | deleteTrusted target =>
      cases (deletes : target = nodeId)
      rfl
    | announce => exact deletes.elim
    | announceTrusted => exact deletes.elim
  rw [perform_of_accepted accepted, made]

end Node

namespace Fleet

variable {Place : Type} [DecidableEq Place]

/-- The nodes that an entry gets to in a run: the first one, those that it is offered to with
success, and those that pull from a node that it has got to. -/
inductive Informed (fleet : Fleet Place) (entry : Entry) (first : Place) :
    List (Event Place) → Place → Prop
  | first : Informed fleet entry first [] first
  | still {events : List (Event Place)} {place : Place} (event : Event Place)
    (informed : Informed fleet entry first events place) :
    Informed fleet entry first (events ++ [event]) place
  | offer {events : List (Event Place)} {offer : Nat} {peer : String}
    (made : (fleet.run events).offered[offer]? = some (peer, entry)) (receiver : Place) :
    Informed fleet entry first (events ++ [.deliver receiver offer]) receiver
  | pull {events : List (Event Place)} {source : Place} (puller : Place)
    (informed : Informed fleet entry first events source) :
    Informed fleet entry first (events ++ [.pull puller source]) puller

/-- Whether no node ever holds a live entry of some version or a later one in a run. -/
def Dead (fleet : Fleet Place) (nodeId : String) (version : Millis)
    (events : List (Event Place)) : Prop :=
  ∀ earlier, earlier <+: events →
    ∀ place, ¬((fleet.run earlier).store place).Alive nodeId version

variable {fleet : Fleet Place} {place : Place} {nodeId : String} {version : Millis}

/-- A removal outlasts every event after which no later entry is alive. -/
theorem removed_step (removed : (fleet.store place).Removed nodeId version) {event : Event Place}
    (dead : ¬((fleet.step event).store place).Alive nodeId version) :
    ((fleet.step event).store place).Removed nodeId version := by
  cases kind : event.isEviction with
  | false =>
    -- Timestamps only grow, and by assumption what is there is no live entry.
    exact (reaches_step removed.reaches kind).removed dead
  | true =>
    cases event with
    | evict evicter now =>
      rw [store_step_evict]
      split
      · -- The tombstone is not among what expires.
        rename_i here
        exact (here ▸ removed).evict now
      · exact removed
    | _ => cases kind

/-- A removal outlasts every run in which no later entry is ever alive. -/
theorem removed_run (removed : (fleet.store place).Removed nodeId version)
    {events : List (Event Place)} (dead : fleet.Dead nodeId version events) :
    ((fleet.run events).store place).Removed nodeId version := by
  -- Induction from the front, because the step lemma needs every front of the events to leave the
  -- store dead, the one-event front included.
  induction events generalizing fleet with
  | nil => exact removed
  | cons event rest ih =>
    have first : ¬((fleet.step event).store place).Alive nodeId version :=
      dead [event] (List.prefix_append [event] rest) place
    refine ih (removed_step removed first) fun earlier front => ?_
    exact dead (event :: earlier) (List.cons_prefix_cons.2 ⟨rfl, front⟩)

/-- Every node that a tombstone has got to holds it or a later one. -/
theorem removed_of_informed {tombstone : Entry} (gone : tombstone.isTombstone = true)
    {first : Place} (stored : (fleet.store first).get? tombstone.nodeId = some tombstone)
    {events : List (Event Place)} (informed : Informed fleet tombstone first events place)
    (dead : fleet.Dead tombstone.nodeId tombstone.timestamp events) :
    ((fleet.run events).store place).Removed tombstone.nodeId tombstone.timestamp := by
  -- The induction goes along the way that the tombstone took.
  induction informed with
  | first => exact ⟨tombstone, stored, gone, le_refl _⟩
  | @still events place event informed ih =>
    have before := ih fun earlier front => dead earlier (front.trans (List.prefix_append _ _))
    have after := dead _ (List.prefix_refl _) place
    rw [run_append, run_cons, run_nil] at after ⊢
    exact removed_step before after
  | @offer events offer peer made receiver =>
    have after := dead _ (List.prefix_refl _) receiver
    rw [run_append, run_cons, run_nil] at after ⊢
    have wellFormed := Entry.isWellFormed_of_isTombstone gone
    exact (reaches_step_deliver made wellFormed receiver).removed after
  | @pull events source puller informed ih =>
    have before := ih fun earlier front => dead earlier (front.trans (List.prefix_append _ _))
    have after := dead _ (List.prefix_refl _) puller
    rw [run_append, run_cons, run_nil] at after ⊢
    obtain ⟨resident, found, tomb, late⟩ := before
    -- What the source holds by now may be later than the tombstone that got there.
    have wellFormed := Entry.isWellFormed_of_isTombstone tomb
    obtain ⟨taken, holds, later⟩ := reaches_step_pull_of_wellFormed found wellFormed puller
    exact Store.Reaches.removed ⟨taken, holds, le_trans late later⟩ after

/--
Removals spread and last.

Let a node accept the deletion of a node id whose resident is short of the last instant. It stores a
tombstone. As long as no node ever holds a live entry of the version of the tombstone or a later
one, every node that the tombstone has got to holds it or a later one whatever follows, and answers
queries as if it held nothing of the node id.
-/
theorem removal_spreads {fleet : Fleet Place} {origin : Place} {now : Millis} {write : Write}
    {nodeId : String} (deletes : write.Deletes nodeId)
    (accepted : ((fleet.nodes origin).perform now write).answer = .ok ())
    (early : ∀ resident, (fleet.store origin).get? nodeId = some resident →
      resident.timestamp < .latest)
    {informing following : List (Event Place)} :
    let tombstone := (fleet.nodes origin).tombstoneFor now nodeId
    let deleted := fleet.step (.write origin now write)
    deleted.Dead nodeId tombstone.timestamp (informing ++ following) →
    (deleted.store origin).get? nodeId = some tombstone ∧
    ∀ place, Informed deleted tombstone origin informing place →
      let final := deleted.run (informing ++ following)
      (final.store place).Removed nodeId tombstone.timestamp ∧
      ∀ asked kind pool, (final.nodes place).query asked kind pool =
        ((final.nodes place).without nodeId).query asked kind pool := by
  intro tombstone deleted dead
  have stored : (deleted.store origin).get? nodeId = some tombstone := by
    have done := Node.perform_of_deletes deletes accepted
    have kept : deleted.store origin = (fleet.store origin).put tombstone := by
      simp only [deleted, step, store, done, Function.update_self]
      exact Node.store_write (fleet.nodes origin) now tombstone
    rw [kept]
    exact ((fleet.nodes origin).issues_entryOf now (.deleteTrusted nodeId)).get?_put early
  refine ⟨stored, fun place informed => ?_⟩
  intro final
  have removed : (final.store place).Removed nodeId tombstone.timestamp := by
    have informedDead : deleted.Dead nodeId tombstone.timestamp informing :=
      fun earlier front => dead earlier (front.trans (List.prefix_append _ _))
    have got := removed_of_informed rfl stored informed informedDead
    -- What follows starts from where the tombstone has got to the node.
    have rest : (deleted.run informing).Dead nodeId tombstone.timestamp following := by
      intro earlier front
      rw [← run_append]
      exact dead _ ((List.prefix_append_right_inj informing).2 front)
    simp only [final, run_append]
    exact removed_run got rest
  exact ⟨removed, fun asked kind pool => Node.query_without removed asked kind pool⟩

/-- A tombstone outlives an eviction on the way back to the node that it was written by. -/
theorem removal_spreads_pair :
    let announcement : Announcement :=
      ⟨"test", "general", "here", [⟨some "s", some "web", some ∅⟩], none⟩
    let fleet := (start Plan.pair).run
      [.write true 3 (.announceTrusted "a" announcement), .pull false true]
    let deleted := fleet.step (.write false 2 (.deleteTrusted "a"))
    let informing : List (Event Bool) := [.pull true false]
    let following : List (Event Bool) := [.evict true 900, .pull false true]
    deleted.Dead "a" 4 (informing ++ following) ∧
      (fleet.nodes true).query 5 none none ≠ [] ∧
      ((deleted.run (informing ++ following)).store true).Removed "a" 4 := by
  intro announcement fleet deleted informing following
  have dead : deleted.Dead "a" 4 (informing ++ following) := by
    intro earlier front
    -- The fronts of three events are finitely many, so they are run one by one.
    rw [← List.mem_inits] at front
    revert earlier
    decide
  have settled := @removal_spreads Bool _ fleet false 2 (.deleteTrusted "a") "a" rfl rfl (by decide)
    informing following dead
  -- The deleting node is the first informed, and its listing carries the tombstone to the puller.
  have informed : Informed deleted ((fleet.nodes false).tombstoneFor 2 "a") false informing true :=
    .pull true .first
  exact ⟨dead, by decide, (settled.2 true informed).1⟩

end Fleet

end Roster
