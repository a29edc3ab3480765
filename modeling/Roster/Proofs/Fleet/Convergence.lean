import Roster.Proofs.Fleet.Origin

/-!
Anti-entropy converges. Once nothing is written and nothing is evicted, the latest versions get to
every node that pulls connect to all others, whatever becomes of the offers under way.
-/

namespace Roster

namespace Fleet

variable {Place : Type}

/-- How what one node holds gets to another in a run: from pull to pull, in their order. -/
inductive Carries : List (Event Place) → Place → Place → Prop
  | stay (place : Place) : Carries [] place place
  -- Any event may be passed over.
  | wait {rest : List (Event Place)} {source target : Place} (event : Event Place)
    (carried : Carries rest source target) : Carries (event :: rest) source target
  -- A node that pulls from the source takes over from there.
  | pull {rest : List (Event Place)} {source target : Place} (puller : Place)
    (carried : Carries rest puller target) : Carries (.pull puller source :: rest) source target

/-- Whether a version is the latest that any node holds of a node id, or none if none does. -/
def IsLatest (fleet : Fleet Place) (nodeId : String) : Option Millis → Prop
  | none => ∀ place, (fleet.store place).version? nodeId = none
  | some version =>
    (∃ place, (fleet.store place).version? nodeId = some version) ∧
      ∀ place other, (fleet.store place).version? nodeId = some other → other ≤ version

/-- There is at most one latest version. -/
theorem IsLatest.unique {fleet : Fleet Place} {nodeId : String} {a b : Option Millis}
    (latestA : fleet.IsLatest nodeId a) (latestB : fleet.IsLatest nodeId b) : a = b := by
  cases a with
  | none =>
    cases b with
    | none => rfl
    | some version =>
      -- The version is held somewhere, but nothing is.
      obtain ⟨⟨place, held⟩, -⟩ := latestB
      exact absurd ((latestA place).symm.trans held) (by simp)
  | some first =>
    cases b with
    | none =>
      obtain ⟨⟨place, held⟩, -⟩ := latestA
      exact absurd ((latestB place).symm.trans held) (by simp)
    | some second =>
      -- Each of the two is held somewhere, so neither is earlier than the other.
      obtain ⟨⟨placeA, heldA⟩, aboveA⟩ := latestA
      obtain ⟨⟨placeB, heldB⟩, aboveB⟩ := latestB
      exact congrArg some (le_antisymm (aboveB placeA first heldA) (aboveA placeB second heldB))

/-- Whatever has been written is reached by some node. -/
def Covered (fleet : Fleet Place) : Prop :=
  ∀ entry ∈ fleet.entries, ∃ place, (fleet.store place).Reaches entry.nodeId entry.timestamp

/-- Whatever is held in a fleet was reached by some node of an earlier one. -/
def FedBy (early fleet : Fleet Place) : Prop :=
  ∀ place nodeId entry, (fleet.store place).get? nodeId = some entry →
    ∃ source, (early.store source).Reaches nodeId entry.timestamp

/-- Passing over all events of a run, what a node holds gets to itself. -/
theorem carries_self (events : List (Event Place)) (place : Place) :
    Carries events place place := by
  -- A node needs no message to know what it knows.
  induction events with
  | nil => exact .stay place
  | cons event rest ih => exact .wait event ih

/-- A node holds the latest versions once it has got all there were and nothing beyond. -/
theorem isLatest_of_fedBy {early late : Fleet Place} {target : Place} {nodeId : String}
    (fed : FedBy early late)
    (arrived : ∀ source version, (early.store source).Reaches nodeId version →
      (late.store target).Reaches nodeId version) :
    early.IsLatest nodeId ((late.store target).version? nodeId) := by
  -- Whatever was held, the target ends with a version that is not earlier.
  have bounded : ∀ source held, (early.store source).version? nodeId = some held →
      ∃ final, (late.store target).version? nodeId = some final ∧ held ≤ final := by
    intro source held found
    have reached := Store.reaches_iff_version?.2 ⟨held, found, le_refl _⟩
    exact Store.reaches_iff_version?.1 (arrived source held reached)
  cases final : (late.store target).version? nodeId with
  | none =>
    -- Whatever had been held would have arrived.
    intro source
    cases found : (early.store source).version? nodeId with
    | none => rfl
    | some held =>
      obtain ⟨_, absent, -⟩ := bounded source held found
      rw [final] at absent
      cases absent
  | some version =>
    have above : ∀ source held, (early.store source).version? nodeId = some held →
        held ≤ version := by
      intro source held found
      obtain ⟨last, same, below⟩ := bounded source held found
      rw [final] at same
      cases same
      exact below
    refine ⟨?_, above⟩
    -- The version was reached by some node, and what that node held is not later.
    obtain ⟨resident, resides, rfl⟩ := Option.map_eq_some_iff.1 final
    obtain ⟨source, reached⟩ := fed target nodeId resident resides
    obtain ⟨held, found, below⟩ := Store.reaches_iff_version?.1 reached
    exact ⟨source, (le_antisymm (above source held found) below) ▸ found⟩

variable [DecidableEq Place]

/-- A pull brings the puller to every version that the peer holds. -/
theorem reaches_step_pull {plan : Plan Place} {fleet : Fleet Place} (sound : Sound plan fleet)
    {puller source : Place} {nodeId : String} {version : Millis}
    (reached : (fleet.store source).Reaches nodeId version) :
    ((fleet.step (.pull puller source)).store puller).Reaches nodeId version := by
  obtain ⟨resident, found, late⟩ := reached
  -- The peer's entry is not malformed, so the puller does not drop it.
  have wellFormed := sound.wellFormed_of_stems (sound.stems source nodeId resident found)
  exact (reaches_step_pull_of_wellFormed found wellFormed puller).of_le late

/-- What a node holds before a run reaches every node that the pulls of the run carry it to. -/
theorem reaches_run {plan : Plan Place} {fleet : Fleet Place} (sound : Sound plan fleet)
    {events : List (Event Place)} (kept : ∀ event ∈ events, event.isEviction = false)
    {source target : Place} (carried : Carries events source target) {nodeId : String}
    {version : Millis} (reached : (fleet.store source).Reaches nodeId version) :
    ((fleet.run events).store target).Reaches nodeId version := by
  -- The induction follows the way from the source to the target.
  induction carried generalizing fleet with
  | stay place => exact reached
  | wait event carried ih =>
    -- The event passed over is no eviction, so the source keeps the version.
    have still := reaches_step reached (kept event List.mem_cons_self)
    exact ih (sound_step sound event) (fun later member => kept later (by simp [member])) still
  | pull puller carried ih =>
    -- After the pull the version is on its way from the puller.
    refine ih (sound_step sound _) (fun later member => kept later (by simp [member])) ?_
    exact reaches_step_pull sound reached

/-- As long as nothing is evicted, whatever has been written is reached by some node. -/
theorem covered_step {fleet : Fleet Place} (covered : fleet.Covered) {event : Event Place}
    (kept : event.isEviction = false) : (fleet.step event).Covered := by
  -- No version that was reached is lost.
  have before : ∀ entry ∈ fleet.entries,
      ∃ place, ((fleet.step event).store place).Reaches entry.nodeId entry.timestamp := by
    intro entry written
    obtain ⟨place, reached⟩ := covered entry written
    exact ⟨place, reaches_step reached kept⟩
  intro entry written
  rcases fleet.step_cases event with same | ⟨writer, now, new, -, -, same⟩ |
    ⟨merger, entries, -, same⟩ | ⟨evicter, now, rfl⟩
  · rw [same] at written
    exact before entry written
  · rw [same, entries_writeEntry] at written
    rcases List.mem_append.1 written with old | latest
    · exact before entry old
    · -- The writer has put the entry into its own store, or already holds a later version.
      rw [List.mem_singleton.1 latest]
      refine ⟨writer, ?_⟩
      rw [same, store_writeEntry, if_pos rfl]
      exact Store.reaches_put (fleet.store writer) new
  · rw [same] at written
    exact before entry written
  · cases kept

/-- A run without evictions keeps whatever has been written reached by some node. -/
theorem covered_run {fleet : Fleet Place} (covered : fleet.Covered) {events : List (Event Place)}
    (kept : ∀ event ∈ events, event.isEviction = false) : (fleet.run events).Covered := by
  -- The induction is on the events, none of which is an eviction.
  induction events generalizing fleet with
  | nil => exact covered
  | cons event rest ih =>
    have first := covered_step covered (kept event List.mem_cons_self)
    exact ih first fun later member => kept later (List.mem_cons_of_mem _ member)

/-- An event that only moves entries merges entries that are around, if it does anything. -/
theorem step_exchange_cases (fleet : Fleet Place) {event : Event Place}
    (exchange : event.isExchange = true) :
    fleet.step event = fleet ∨
      ∃ place entries, (∀ entry ∈ entries, fleet.Around entry) ∧
        fleet.step event = fleet.merge place entries := by
  -- A write and an eviction are no exchanges.
  rcases fleet.step_cases event with same | ⟨_, _, _, writes, -, -⟩ | merges | ⟨_, _, rfl⟩
  · exact .inl same
  · rw [exchange] at writes
    cases writes
  · exact .inr merges
  · cases exchange

/-- An event that only moves entries writes nothing. -/
theorem entries_step_exchange (fleet : Fleet Place) {event : Event Place}
    (exchange : event.isExchange = true) : (fleet.step event).entries = fleet.entries := by
  -- What is merged has been written before.
  rcases fleet.step_exchange_cases exchange with same | ⟨place, entries, -, same⟩
  · rw [same]
  · rw [same, entries_merge]

/-- Moving entries that are around brings no node a version that no node had reached. -/
theorem fedBy_step {plan : Plan Place} {early fleet : Fleet Place} (sound : Sound plan fleet)
    (covered : early.Covered) (unwritten : fleet.entries = early.entries)
    (fed : FedBy early fleet) {event : Event Place} (exchange : event.isExchange = true) :
    FedBy early (fleet.step event) := by
  rcases fleet.step_exchange_cases exchange with same | ⟨merger, entries, around, same⟩
  · rwa [same]
  · rw [same]
    intro place nodeId found held
    rw [store_merge] at held
    split at held
    · rcases Store.get?_mergeAll_cases held with before | ⟨entry, member, rfl⟩
      · exact fed merger nodeId found before
      · -- The entry came from another node or from an offer, which was written before.
        have node := Store.nodeId_of_get? held
        rw [Migration.translate_nodeId] at node
        rw [Migration.translate_timestamp]
        rcases around entry member with ⟨peer, listed⟩ | ⟨offer, offered, rfl⟩
        · exact node ▸ fed peer entry.nodeId entry (Store.mem_items_iff_get?.1 listed)
        · exact node ▸ covered offer.2 (unwritten ▸ sound.offers offer offered)
    · exact fed place nodeId found held

/-- However entries are moved, no node comes to a version that no node had reached. -/
theorem fedBy_run {plan : Plan Place} {early fleet : Fleet Place} (sound : Sound plan fleet)
    (covered : early.Covered) (unwritten : fleet.entries = early.entries)
    (fed : FedBy early fleet) {events : List (Event Place)}
    (quiet : ∀ event ∈ events, event.isExchange = true) : FedBy early (fleet.run events) := by
  induction events generalizing fleet with
  | nil => exact fed
  | cons event rest ih =>
    -- The record of writes stays as it was early on, which the next event needs to know.
    have exchange := quiet event List.mem_cons_self
    refine ih (sound_step sound event) ?_ (fedBy_step sound covered unwritten fed exchange) ?_
    · rw [entries_step_exchange fleet exchange, unwritten]
    · exact fun later member => quiet later (List.mem_cons_of_mem _ member)

/--
A fleet converges to the latest versions once it only exchanges entries.

In a run without evictions let some point be such that afterwards nothing is written, and that the
pulls afterwards carry what any node holds to any other. At the end all nodes hold the same node
ids with the same versions, the latest that any node held at that point. If no version was written
twice with different contents, they hold the same entries up to the spelling of the pool.
-/
theorem converges (plan : Plan Place) {before after : List (Event Place)}
    (kept : ∀ event ∈ before, event.isEviction = false)
    (quiet : ∀ event ∈ after, event.isExchange = true)
    (joined : ∀ source target, source ≠ target → Carries after source target) :
    let early := (start plan).run before
    let late := early.run after
    (∀ nodeId, ∃ version, early.IsLatest nodeId version ∧
      ∀ place, (late.store place).version? nodeId = version) ∧
    (Entry.OnePerVersion late.entries → ∀ place other,
      (late.store place).unify plan.mapTarget = (late.store other).unify plan.mapTarget) := by
  intro early late
  have soundEarly : Sound plan early := sound_run (sound_start plan) before
  have soundLate : Sound plan late := sound_run soundEarly after
  have covered : early.Covered := covered_run (fun _ written => by cases written) kept
  -- Every version held at the point is at least reached afterwards, and no other comes up.
  have fed : FedBy early late := by
    refine fedBy_run soundEarly covered rfl (fun place nodeId entry found => ?_) quiet
    exact ⟨place, entry, found, le_refl _⟩
  have latest : ∀ target nodeId, early.IsLatest nodeId ((late.store target).version? nodeId) := by
    intro target nodeId
    refine isLatest_of_fedBy fed fun source version reached => ?_
    refine reaches_run soundEarly (fun event member => ?_) ?_ reached
    · cases event with
      | evict place now =>
        -- An eviction is no exchange.
        have exchange := quiet _ member
        cases exchange
      | _ => rfl
    · by_cases same : source = target
      · -- A node keeps what it has.
        exact same ▸ carries_self after source
      · exact joined source target same
  refine ⟨fun nodeId => ?_, fun distinct place other => ?_⟩
  · -- There is one latest version, so all nodes have that one.
    by_cases inhabited : Nonempty Place
    · obtain ⟨first⟩ := inhabited
      refine ⟨_, latest first nodeId, fun place => ?_⟩
      exact (latest place nodeId).unique (latest first nodeId)
    · exact ⟨none, fun place => absurd ⟨place⟩ inhabited, fun place => absurd ⟨place⟩ inhabited⟩
  · -- Nodes with the same versions could differ only in rival writes.
    refine (soundLate.unify_eq_iff fun nodeId => ?_).2 (not_clash_of_onePerVersion distinct)
    exact (latest place nodeId).unique (latest other nodeId)

/-- Two nodes that pull from each other once converge, though each has its own spelling. -/
theorem converges_pair :
    let announcement : Announcement :=
      ⟨"test", "general", "here", [⟨some "s", some "web", some ∅⟩], none⟩
    let before : List (Event Bool) :=
      [.write true 3 (.announceTrusted "a" announcement),
        .write false 5 (.announceTrusted "a" announcement), .write false 4 (.deleteTrusted "b")]
    let after : List (Event Bool) := [.pull true false, .pull false true]
    let early := (start Plan.pair).run before
    let late := early.run after
    (∀ nodeId, ∃ version, early.IsLatest nodeId version ∧
      ∀ place, (late.store place).version? nodeId = version) ∧
    (late.store false).version? "a" = some 5 ∧
    (late.store false).unify "fleet" = (late.store true).unify "fleet" ∧
    late.store false ≠ late.store true := by
  intro announcement before after early late
  have kept : ∀ event ∈ before, event.isEviction = false := by decide
  have quiet : ∀ event ∈ after, event.isExchange = true := by decide
  have joined : ∀ source target, source ≠ target → Carries after source target := by
    -- The second node pulls first, and then the first node from the second.
    intro source target apart
    cases source <;> cases target
    case false.true => exact .pull true (carries_self _ true)
    case true.false => exact .wait _ (.pull false (.stay false))
    all_goals exact absurd rfl apart
  obtain ⟨latest, alike⟩ := converges Plan.pair kept quiet joined
  have distinct : Entry.OnePerVersion late.entries := by decide
  exact ⟨latest, by decide, alike distinct false true, by decide⟩

end Fleet

end Roster
