import Roster.Proofs.Digest
import Roster.Proofs.Fleet.Origin

/-!
What equal digests say about two nodes of a fleet. The digest tells versions, so nodes with one
digest differ exactly in versions that were written twice, and that takes two writers.
-/

namespace Roster.Fleet

variable {Place : Type}

/-- What holds of the writes of each node as long as nothing is evicted. -/
structure Ascending (fleet : Fleet Place) : Prop where
  reached : ∀ write ∈ fleet.written,
    (fleet.store write.1).Reaches write.2.nodeId write.2.timestamp
  -- Only at the last instant does a node write a version again.
  ordered : fleet.written.Pairwise fun first second =>
    first.1 = second.1 → first.2.nodeId = second.2.nodeId →
      first.2.timestamp < second.2.timestamp ∨ second.2.timestamp = .latest

/-- Whether two writes of one version by one node are of one entry, short of the last instant. -/
def WrittenOnce (first second : Place × Entry) : Prop :=
  first.1 = second.1 → first.2.nodeId = second.2.nodeId →
    first.2.timestamp = second.2.timestamp →
      first.2.timestamp = .latest ∨ first.2 = second.2

/-- A node writes each version once, short of the last instant. -/
theorem Ascending.writtenOnce {fleet : Fleet Place} (ascending : Ascending fleet)
    {a b : Place × Entry} (writtenA : a ∈ fleet.written) (writtenB : b ∈ fleet.written) :
    WrittenOnce a b := by
  have forwards : fleet.written.Pairwise WrittenOnce := by
    refine ascending.ordered.imp fun {first second} later place node time => .inl ?_
    rcases later place node with before | last
    · -- The earlier version cannot be the later one.
      exact absurd before (time ▸ lt_irrefl _)
    · exact time.trans last
  -- Being one version is symmetric, so it does not matter which of the two came first.
  have backwards : fleet.written.Pairwise (flip WrittenOnce) := by
    refine forwards.imp fun {first second} once place node time => ?_
    rcases once place.symm node.symm time.symm with last | equal
    · exact .inl (time.trans last)
    · exact .inr equal.symm
  have itself : ∀ write ∈ fleet.written, WrittenOnce write write := by
    intro write _ _ _ _
    exact .inr rfl
  exact List.Pairwise.forall_of_forall_of_flip itself forwards backwards writtenA writtenB

/-- Rival writes are the work of two nodes, short of the last instant. -/
theorem Ascending.writers_ne {fleet : Fleet Place} (ascending : Ascending fleet)
    {mapTarget : String} {a b : Place × Entry} (writtenA : a ∈ fleet.written)
    (writtenB : b ∈ fleet.written) (rival : Rival mapTarget a b)
    (early : a.2.timestamp < .latest) : a.1 ≠ b.1 := by
  intro samePlace
  obtain ⟨sameNode, sameTime, differs⟩ := rival
  rcases ascending.writtenOnce writtenA writtenB samePlace sameNode sameTime with last | equal
  · exact absurd early (last ▸ lt_irrefl _)
  · -- One entry has one spelling.
    exact differs (congrArg (Entry.unify mapTarget) equal)

/-- Nothing is written at the start. -/
theorem ascending_start (plan : Plan Place) : Ascending (start plan) where
  -- Nothing has been written yet.
  reached _ written := by cases written
  ordered := .nil

variable [DecidableEq Place]

/-- What a node writes comes after all that it wrote before. -/
theorem Ascending.writeEntry {fleet : Fleet Place} (ascending : Ascending fleet) {place : Place}
    {now : Millis} {entry : Entry} (issues : (fleet.nodes place).Issues now entry)
    (still : ∀ {other nodeId version}, (fleet.store other).Reaches nodeId version →
      ((fleet.writeEntry place now entry).store other).Reaches nodeId version) :
    Ascending (fleet.writeEntry place now entry) where
  reached write written := by
    rcases List.mem_append.1 written with before | new
    · exact still (ascending.reached write before)
    · -- The writer has put the new entry into its own store.
      cases List.mem_singleton.1 new
      rw [store_writeEntry, if_pos rfl]
      exact Store.reaches_put (fleet.store place) entry
  ordered := by
    refine List.pairwise_append.2 ⟨ascending.ordered, List.pairwise_singleton _ _, ?_⟩
    intro first before second new samePlace sameNode
    cases List.mem_singleton.1 new
    -- The node has reached its earlier write, so its clock or the resident puts it behind.
    have reached := ascending.reached first before
    rw [samePlace, sameNode] at reached
    exact issues.later reached

/-- Every event but an eviction keeps the writes of each node ascending. -/
theorem ascending_step {fleet : Fleet Place} (ascending : Ascending fleet) {event : Event Place}
    (kept : event.isEviction = false) : Ascending (fleet.step event) := by
  have still : ∀ {other nodeId version}, (fleet.store other).Reaches nodeId version →
      ((fleet.step event).store other).Reaches nodeId version :=
    fun reached => reaches_step reached kept
  rcases fleet.step_cases event with same | ⟨place, now, entry, -, issues, same⟩ |
    ⟨place, entries, -, same⟩ | ⟨place, now, rfl⟩
  · rwa [same]
  · rw [same] at still ⊢
    exact ascending.writeEntry issues still
  · -- A merge writes nothing, and the stores still reach what they did.
    rw [same] at still ⊢
    exact ⟨fun write written => still (ascending.reached write written), ascending.ordered⟩
  · cases kept

/-- A run without evictions keeps the writes of each node ascending. -/
theorem ascending_run {fleet : Fleet Place} (ascending : Ascending fleet)
    {events : List (Event Place)} (kept : ∀ event ∈ events, event.isEviction = false) :
    Ascending (fleet.run events) := by
  -- The induction is on the events, none of which is an eviction.
  induction events generalizing fleet with
  | nil => exact ascending
  | cons event rest ih =>
    have first := ascending_step ascending (kept event List.mem_cons_self)
    exact ih first fun later member => kept later (List.mem_cons_of_mem _ member)

/--
Nodes with one digest agree exactly if they do not hold rival writes.

After any run, let the digests of two nodes hash one text. Then their stores are spelled alike
exactly if the nodes do not clash, and if so they answer every query alike. Without evictions only
writes of two different nodes can be rivals short of the last instant.
-/
theorem agree_iff_not_clash_of_digest_text (plan : Plan Place) (events : List (Event Place))
    {place other : Place} :
    let fleet := (start plan).run events
    Digest.text (fleet.store place).items = Digest.text (fleet.store other).items →
    ((fleet.store place).unify plan.mapTarget = (fleet.store other).unify plan.mapTarget ↔
      ¬fleet.Clash plan.mapTarget place other) ∧
    ((fleet.store place).unify plan.mapTarget = (fleet.store other).unify plan.mapTarget →
      ∀ now kind pool,
        ((fleet.nodes place).query now kind pool).map (Service.unify plan.mapTarget) =
          ((fleet.nodes other).query now kind pool).map (Service.unify plan.mapTarget)) ∧
    ((∀ event ∈ events, event.isEviction = false) → ∀ a ∈ fleet.written, ∀ b ∈ fleet.written,
      Rival plan.mapTarget a b → a.2.timestamp < .latest → a.1 ≠ b.1) := by
  intro fleet same
  have sound : Sound plan fleet := sound_run (sound_start plan) events
  refine ⟨sound.unify_eq_iff fun nodeId => ?_, fun alike now kind pool => ?_, ?_⟩
  · -- The digest tells the version of what each node id leads to.
    have versions := congrArg (Option.map Digest.Version.timestamp)
      (Store.version_eq_of_text_eq same nodeId)
    rw [Option.map_map, Option.map_map] at versions
    exact versions
  · -- All nodes of a plan keep a store and share the map target.
    have active : ∀ node, (fleet.nodes node).profile.dynamic = true := by
      intro node
      rw [sound.profiles, plan.active]
    exact Node.query_unify_congr (active place) (active other) (sound.mapTarget place)
      (sound.mapTarget other) alike now kind pool
  · -- The writes of one node ascend, so rivals have two writers.
    intro kept a writtenA b writtenB rival early
    have ascending : Ascending fleet := ascending_run (ascending_start plan) kept
    exact ascending.writers_ne writtenA writtenB rival early

/-- Two nodes that write at one clock reading have one digest, clash, and stay so for all pulls. -/
theorem clash_of_pair_at_five :
    let announcement (location : String) : Announcement :=
      ⟨"test", "general", location, [⟨some "s", some "web", some ∅⟩], none⟩
    let fleet := (start Plan.pair).run
      [.write false 5 (.announceTrusted "a" (announcement "here")),
        .write true 5 (.announceTrusted "a" (announcement "there")),
        .pull false true, .pull true false]
    Digest.text (fleet.store false).items = Digest.text (fleet.store true).items ∧
      fleet.Clash "fleet" false true ∧
      ((fleet.nodes false).query 5 none none).map (Service.unify "fleet") ≠
        ((fleet.nodes true).query 5 none none).map (Service.unify "fleet") := by
  intro announcement fleet
  have same : Digest.text (fleet.store false).items = Digest.text (fleet.store true).items :=
    Digest.text_congr (by decide)
  -- The two places the service was announced for cannot both stand.
  have apart : (fleet.store false).unify "fleet" ≠ (fleet.store true).unify "fleet" := by decide
  obtain ⟨agree, -, -⟩ := agree_iff_not_clash_of_digest_text Plan.pair _ same
  refine ⟨same, ?_, by decide⟩
  by_contra peaceful
  exact apart (agree.2 peaceful)

end Roster.Fleet
