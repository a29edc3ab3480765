import Roster.Proofs.Digest
import Roster.Proofs.Node.Run

/-!
The phase of the migration shows in the spelling of pools alone. Nodes in different phases that do
the same answer, report and trust the same, and hold the same up to the names of one pool.
-/

namespace Roster

/-- A profile in some phase of the migration. -/
def Profile.inPhase (profile : Profile) (phase : Phase) : Profile :=
  { profile with migration := { profile.migration with phase } }

namespace Store

variable {mapTarget : String} {a b : Store}

/-- Stores spelled alike hold nothing of a node id, or entries spelled alike. -/
theorem get?_cases_of_unify_eq (alike : a.unify mapTarget = b.unify mapTarget) (nodeId : String) :
    (a.get? nodeId = none ∧ b.get? nodeId = none) ∨
      ∃ x y, a.get? nodeId = some x ∧ b.get? nodeId = some y ∧
        x.unify mapTarget = y.unify mapTarget := by
  have sides : (a.get? nodeId).map (Entry.unify mapTarget) =
      (b.get? nodeId).map (Entry.unify mapTarget) := by
    rw [← get?_unify, alike, get?_unify]
  -- A respelled entry is still an entry, so both sides are nothing or both are something.
  cases foundA : a.get? nodeId with
  | none =>
    rw [foundA, Option.map_none, eq_comm, Option.map_eq_none_iff] at sides
    exact .inl ⟨rfl, sides⟩
  | some x =>
    rw [foundA, Option.map_some, eq_comm, Option.map_eq_some_iff] at sides
    obtain ⟨y, foundB, same⟩ := sides
    exact .inr ⟨x, y, rfl, foundB, same.symm⟩

/-- The digest does not tell the spelling. -/
@[simp] theorem digest_unify (mapTarget : String) (store : Store) :
    (store.unify mapTarget).digest = store.digest := by
  -- Node id, timestamp and whether there are services at all are no matter of spelling.
  have versions : (store.unify mapTarget).items.map Digest.versionOf =
      store.items.map Digest.versionOf := by
    simp only [unify, Index.map, List.map_map]
    refine List.map_congr_left fun entry _ => ?_
    simp [Digest.versionOf, Entry.unify, Entry.isTombstone]
  simp only [digest, Digest.ofEntries, Digest.text_congr versions]

end Store

namespace Ledger

/-- Whether two ledgers differ in nothing but the spelling of pools. -/
structure Alike (mapTarget : String) (a b : Ledger) : Prop where
  stores : a.store.unify mapTarget = b.store.unify mapTarget
  remembered : a.remembered = b.remembered

namespace Alike

variable {mapTarget : String} {a b : Ledger}

/-- Entries spelled alike are both taken in or both turned away. -/
theorem put (alike : Alike mapTarget a b) {x y : Entry}
    (same : x.unify mapTarget = y.unify mapTarget) :
    (a.put x).1 = (b.put y).1 ∧ Alike mapTarget (a.put x).2 (b.put y).2 := by
  have admitted : a.store.admits x = b.store.admits y := by
    rw [← Store.admits_unify mapTarget, alike.stores, same, Store.admits_unify]
  have stores : (a.put x).2.store.unify mapTarget = (b.put y).2.store.unify mapTarget := by
    rw [store_put, store_put, Store.put_unify, Store.put_unify, alike.stores, same]
  simp only [Ledger.put, admitted] at stores ⊢
  split
  · -- The entry is taken in, and both digests are forgotten.
    rename_i taken
    exact ⟨rfl, by simpa [taken] using stores, rfl⟩
  · exact ⟨rfl, alike⟩

/-- Migrations to one name make the same of an entry, up to the spelling. -/
theorem merge (alike : Alike mapTarget a b) {first second : Migration}
    (targetA : first.mapTarget = mapTarget) (targetB : second.mapTarget = mapTarget)
    (entry : Entry) :
    (a.merge first entry).1 = (b.merge second entry).1 ∧
      Alike mapTarget (a.merge first entry).2 (b.merge second entry).2 := by
  -- Whichever way the entry is translated, it is spelled like the entry itself.
  have same : (first.translate entry).unify mapTarget =
      (second.translate entry).unify mapTarget := by
    have left := Entry.unify_translate first entry
    have right := Entry.unify_translate second entry
    rw [targetA] at left
    rw [targetB] at right
    rw [left, right]
  unfold Ledger.merge
  split
  · exact alike.put same
  · exact ⟨rfl, alike⟩

/-- An eviction removes as many entries from either. -/
theorem evict (alike : Alike mapTarget a b) (now : Millis) :
    (a.evict now).1 = (b.evict now).1 ∧ Alike mapTarget (a.evict now).2 (b.evict now).2 := by
  have count : a.store.expiredCount now = b.store.expiredCount now := by
    rw [← Store.expiredCount_unify mapTarget, alike.stores, Store.expiredCount_unify]
  -- The same count decides whether the digests are forgotten.
  refine ⟨count, ?_, ?_⟩
  · rw [store_evict, store_evict, Store.evict_unify, Store.evict_unify, alike.stores]
  · simp only [Ledger.evict, count, alike.remembered]

/-- The digests are the same. -/
theorem digest (alike : Alike mapTarget a b) :
    a.digest.1 = b.digest.1 ∧ Alike mapTarget a.digest.2 b.digest.2 := by
  have same : a.store.digest = b.store.digest := by
    rw [← Store.digest_unify mapTarget, alike.stores, Store.digest_unify]
  simp only [Ledger.digest, ← alike.remembered]
  split
  · -- The remembered digest is given.
    exact ⟨rfl, alike⟩
  · -- The digest is computed and remembered from then on.
    exact ⟨same, alike.stores, by rw [same]⟩

end Alike

end Ledger

namespace Node

/-- Whether two nodes differ in nothing but the phase of the migration and the spelling of pools. -/
structure Alike (mapTarget : String) (a b : Node) : Prop where
  profiles : a.profile.inPhase .one = b.profile.inPhase .one
  target : a.profile.migration.mapTarget = mapTarget
  ledgers : a.ledger.Alike mapTarget b.ledger
  trusted : a.trusted = b.trusted

/-- A reply with one name for the fleet-wide pool in all entries and services. -/
def Reply.unify (mapTarget : String) : Reply → Reply
  | .entries answer => .entries (answer.map (·.map (Entry.unify mapTarget)))
  | .services found => .services (found.map (Service.unify mapTarget))
  | reply => reply

end Node

/-- Whether two outcomes differ in nothing but the nodes' phase and the spelling of pools, where a
function says how answers are spelled. -/
structure Outcome.Alike {α : Type} (mapTarget : String) (spelled : α → α) (a b : Outcome α) :
    Prop where
  answers : spelled a.answer = spelled b.answer
  nodes : a.node.Alike mapTarget b.node
  reports : a.reports = b.reports

/-- Outcomes that are alike stay so when their answers are wrapped. -/
theorem Outcome.Alike.map {α β : Type} {mapTarget : String} {a b : Outcome α}
    (alike : Outcome.Alike mapTarget id a b) (change : α → β) :
    Outcome.Alike mapTarget id (a.map change) (b.map change) :=
  ⟨congrArg change alike.answers, alike.nodes, alike.reports⟩

/-- Replies that are the same are spelled alike. -/
theorem Outcome.Alike.unify {mapTarget : String} {a b : Outcome Node.Reply}
    (alike : Outcome.Alike mapTarget id a b) :
    Outcome.Alike mapTarget (Node.Reply.unify mapTarget) a b :=
  ⟨congrArg _ alike.answers, alike.nodes, alike.reports⟩

namespace Node

namespace Alike

variable {mapTarget : String} {a b : Node}

/-- Whatever does not depend on the phase is the same of both profiles. -/
theorem reading {β : Type} (alike : Alike mapTarget a b) (read : Profile → β)
    (steady : ∀ profile, read (profile.inPhase .one) = read profile) :
    read a.profile = read b.profile := by
  rw [← steady, alike.profiles, steady]

/-- Both nodes have the map target. -/
theorem otherTarget (alike : Alike mapTarget a b) : b.profile.migration.mapTarget = mapTarget :=
  (alike.reading (·.migration.mapTarget) fun _ => rfl).symm.trans alike.target

/-- A query for a pool matches the same names. -/
theorem aliases (alike : Alike mapTarget a b) :
    a.profile.migration.aliases = b.profile.migration.aliases := by
  -- The phase of a node has no part in what a query matches.
  funext name
  simp only [Migration.aliases, alike.target, alike.otherTarget]

/-- Both nodes take announcements or neither does. -/
theorem dynamic (alike : Alike mapTarget a b) : a.profile.dynamic = b.profile.dynamic :=
  alike.reading Profile.dynamic fun _ => rfl

/-- Both nodes are in one pool. -/
theorem pool (alike : Alike mapTarget a b) : a.profile.pool = b.profile.pool :=
  alike.reading Profile.pool fun _ => rfl

/-- Nodes that are alike stay so with ledgers that are. -/
theorem withLedger (alike : Alike mapTarget a b) {first second : Ledger}
    (ledgers : first.Alike mapTarget second) :
    Alike mapTarget { a with ledger := first } { b with ledger := second } :=
  -- The ledger is one part of what makes nodes alike, and the others stay.
  ⟨alike.profiles, alike.target, ledgers, alike.trusted⟩

/-- A node shows the discovery services of a store under its own spelling. -/
theorem announcedDiscovery_unify (profile : Profile) (store : Store) (now : Millis) :
    (profile.announcedDiscovery store now).map (Service.unify profile.migration.mapTarget) =
      ((store.unify profile.migration.mapTarget).filtered now (some discoveryKind)
        (profile.migration.aliases profile.pool)).flatMap Entry.allServices := by
  -- The pools asked for are closed under the renaming, so unifying before or after filtering gives
  -- the same.
  have closed : Store.PoolsClosed profile.migration.mapTarget
      (profile.migration.aliases profile.pool) :=
    unifyPool_mem_aliases profile.migration profile.pool
  exact Store.shown_unify closed store now (some discoveryKind)

/-- The same discovery services are known, up to the spelling. -/
theorem discovery (alike : Alike mapTarget a b) (now : Millis) :
    (a.profile.discovery a.store now).map (Service.unify mapTarget) =
      (b.profile.discovery b.store now).map (Service.unify mapTarget) := by
  -- The services of seeds are literally the same.
  have seeds : a.profile.seeds.map a.profile.seedService =
      b.profile.seeds.map b.profile.seedService := by
    have uris : a.profile.seeds = b.profile.seeds := alike.reading Profile.seeds fun _ => rfl
    have made : a.profile.seedService = b.profile.seedService := by
      funext uri
      simp only [Profile.seedService, alike.pool]
    rw [uris, made]
  -- The announced ones are read off stores that are spelled alike.
  have announced : (a.profile.announcedDiscovery a.store now).map (Service.unify mapTarget) =
      (b.profile.announcedDiscovery b.store now).map (Service.unify mapTarget) := by
    have left := announcedDiscovery_unify a.profile a.store now
    have right := announcedDiscovery_unify b.profile b.store now
    rw [alike.target] at left
    rw [alike.otherTarget] at right
    rw [left, right, alike.aliases, alike.pool]
    exact congrArg (fun store => (Store.filtered store now _ _).flatMap _) alike.ledgers.stores
  simp only [Profile.discovery, List.map_append, seeds, announced]

/-- The same peers are known. -/
theorem peers (alike : Alike mapTarget a b) (now : Millis) :
    a.profile.peers a.store now = b.profile.peers b.store now := by
  -- Neither whose a service is nor where it can be reached is a matter of spelling.
  have spelled : ∀ services : List Service,
      (services.filter (·.nodeId != a.profile.nodeId)).filterMap Profile.contact? =
        ((services.map (Service.unify mapTarget)).filter
          (·.nodeId != a.profile.nodeId)).filterMap Profile.contact? := by
    intro services
    rw [List.filter_map, List.filterMap_map]
    rfl
  have own : a.profile.nodeId = b.profile.nodeId := alike.reading Profile.nodeId fun _ => rfl
  rw [Profile.peers, Profile.peersOtherThan, spelled, alike.discovery, ← spelled, own]
  rfl

/-- A look-up finds the same addresses. -/
theorem refresh (alike : Alike mapTarget a b) (resolver : Resolver) (now : Millis) :
    Alike mapTarget (a.refresh resolver now) (b.refresh resolver now) := by
  -- Where a service can be reached is no matter of spelling.
  have spelled : ∀ services : List Service,
      services.filterMap Profile.contact? =
        (services.map (Service.unify mapTarget)).filterMap Profile.contact? := by
    intro services
    rw [List.filterMap_map]
    rfl
  refine ⟨alike.profiles, alike.target, alike.ledgers, ?_⟩
  simp only [Node.refresh]
  rw [spelled, alike.discovery, ← spelled]

/-- The next local write has the same version. -/
theorem nextTimestamp (alike : Alike mapTarget a b) (now : Millis) (nodeId : String) :
    a.nextTimestamp now nodeId = b.nextTimestamp now nodeId := by
  -- Residents that differ in spelling have the same version.
  unfold Node.nextTimestamp
  rcases Store.get?_cases_of_unify_eq alike.ledgers.stores nodeId with
    ⟨noneA, noneB⟩ | ⟨x, y, foundA, foundB, same⟩
  · simp only [store, noneA, noneB]
  · have version : x.timestamp = y.timestamp := (congrArg Entry.timestamp same :)
    simp only [store, foundA, foundB, version]

/-- A request makes the same entry. -/
theorem entryOf (alike : Alike mapTarget a b) (now : Millis) (write : Write) :
    a.entryOf now write = b.entryOf now write := by
  -- Besides the write, an entry depends on its timestamp and the configured age.
  have age : a.profile.maxAge = b.profile.maxAge := alike.reading Profile.maxAge fun _ => rfl
  cases write <;>
    simp only [Node.entryOf, entryFor, tombstoneFor, alike.nextTimestamp, age]

/-- The same address owns an entry. -/
theorem checkOwner (alike : Alike mapTarget a b) (resolver : Resolver) (deed : Deed)
    (nodeId : String) (requester : Address) :
    Trust.checkOwner a.store resolver deed nodeId requester =
      Trust.checkOwner b.store resolver deed nodeId requester := by
  -- Residents that differ in spelling have the same announcer.
  have owner : (a.store.get? nodeId).bind Entry.announcer =
      (b.store.get? nodeId).bind Entry.announcer := by
    rcases Store.get?_cases_of_unify_eq alike.ledgers.stores nodeId with
      ⟨noneA, noneB⟩ | ⟨x, y, foundA, foundB, same⟩
    · simp only [store, noneA, noneB]
    · have announcer : x.announcer = y.announcer := (congrArg Entry.announcer same :)
      simp only [store, foundA, foundB, Option.bind_some, announcer]
  simp only [Trust.checkOwner, owner]

/-- A check turns the same requesters down. -/
theorem guard (alike : Alike mapTarget a b) (check : Except Refusal Unit) :
    a.guard check = b.guard check := by
  -- Whether a node is guarded does not depend on the phase.
  have guarded : a.profile.guarded = b.profile.guarded :=
    alike.reading Profile.guarded fun _ => rfl
  simp only [Node.guard, guarded]

/-- Announcements are found valid alike. -/
theorem checkValid (alike : Alike mapTarget a b) (announcement : Announcement) :
    a.checkValid announcement = b.checkValid announcement := by
  -- The environment does not depend on the phase.
  have environment : a.profile.environment = b.profile.environment :=
    alike.reading Profile.environment fun _ => rfl
  simp only [Node.checkValid, environment]

/-- Requests to write are turned down alike. -/
theorem verdict (alike : Alike mapTarget a b) (write : Write) :
    a.verdict write = b.verdict write := by
  -- Every check a verdict is made of gives the same on both sides.
  cases write with
  | announce resolver nodeId announcement requester =>
    simp only [Node.verdict, alike.dynamic, admitAnnounce, checkAnnounce, Trust.checkAnnounce,
      alike.checkValid, alike.checkOwner, alike.guard]
  | delete resolver nodeId requester =>
    simp only [Node.verdict, alike.dynamic, checkDelete, Trust.checkDelete, alike.checkOwner,
      alike.guard]
  | announceTrusted nodeId announcement => exact alike.checkValid announcement
  | deleteTrusted nodeId => rfl

/-- Replication is open to the same requesters. -/
theorem admitReplication (alike : Alike mapTarget a b) (requester : Address) :
    a.admitReplication requester = b.admitReplication requester := by
  -- Whether discovery is on, whom a node trusts and whether it asks are all the same.
  simp only [Node.admitReplication, checkReplicate, alike.dynamic, alike.trusted, alike.guard]

/-- An entry is written and offered alike. -/
theorem write (alike : Alike mapTarget a b) (now : Millis) (entry : Entry) :
    Outcome.Alike mapTarget id (a.write now entry) (b.write now entry) := by
  obtain ⟨taken, ledgers⟩ := alike.ledgers.put (x := entry) (y := entry) rfl
  have after := alike.withLedger ledgers
  refine ⟨rfl, after, ?_⟩
  -- The peers to offer the entry to are those known after the write.
  have peers := after.peers now
  simp only [store] at peers
  simp only [Node.write, taken, peers]

/-- A request to write comes to the same. -/
theorem perform (alike : Alike mapTarget a b) (now : Millis) (write : Write) :
    Outcome.Alike mapTarget id (a.perform now write) (b.perform now write) := by
  -- The verdict and the entry are the same, so one case analysis serves both nodes.
  rw [perform_eq, perform_eq, alike.verdict, alike.entryOf]
  split
  · exact ⟨rfl, alike, rfl⟩
  · exact (alike.write now _).map _

/-- An entry of a peer is merged alike. -/
theorem merge (alike : Alike mapTarget a b) (entry : Entry) :
    Outcome.Alike mapTarget id (a.merge entry) (b.merge entry) := by
  -- The ledgers agree on whether the entry is taken, and stay alike.
  obtain ⟨taken, ledgers⟩ := alike.ledgers.merge alike.target alike.otherTarget entry
  exact ⟨taken, alike.withLedger ledgers, rfl⟩

/-- An eviction removes alike. -/
theorem evict (alike : Alike mapTarget a b) (now : Millis) :
    Outcome.Alike mapTarget id (a.evict now) (b.evict now) := by
  -- The ledgers agree on the count, and stay alike.
  obtain ⟨count, ledgers⟩ := alike.ledgers.evict now
  exact ⟨count, alike.withLedger ledgers, rfl⟩

/-- The digest is computed alike. -/
theorem digest (alike : Alike mapTarget a b) :
    Outcome.Alike mapTarget id a.digest b.digest := by
  -- The ledgers agree on the text, and stay alike.
  obtain ⟨same, ledgers⟩ := alike.ledgers.digest
  exact ⟨same, alike.withLedger ledgers, rfl⟩

/-- Nodes that are alike are so after every action, and reply and report alike. -/
theorem act (alike : Alike mapTarget a b) (action : Action) :
    Outcome.Alike mapTarget (Reply.unify mapTarget) (a.act action) (b.act action) := by
  cases action with
  | write now write => exact ((alike.perform now write).map _).unify
  | merge entry => exact ((alike.merge entry).map _).unify
  | accept entry requester =>
    -- Both nodes turn the requester down, or both merge the entry.
    refine Outcome.Alike.unify (Outcome.Alike.map ?_ _)
    rw [acceptOffer_eq, acceptOffer_eq, alike.admitReplication]
    cases b.admitReplication requester with
    | error rejection => exact ⟨rfl, alike, rfl⟩
    | ok => exact (alike.merge entry).map _
  | snapshot requester =>
    rw [Node.act, Node.act, snapshot_eq, snapshot_eq, alike.admitReplication]
    cases b.admitReplication requester with
    | error rejection => exact ⟨rfl, alike, rfl⟩
    | ok =>
      -- The entries of the stores, spelled alike, are those of the stores spelled alike.
      refine ⟨?_, alike, rfl⟩
      exact congrArg (fun store : Store => Reply.entries (.ok store.items)) alike.ledgers.stores
  | query now kind pool =>
    refine ⟨?_, alike, rfl⟩
    by_cases active : a.profile.dynamic
    · have answers :=
        query_unify_congr active (alike.dynamic ▸ active) alike.target alike.otherTarget
          alike.ledgers.stores now kind pool
      exact congrArg Reply.services answers
    · -- Nodes that take no announcements show nothing.
      have silent := alike.dynamic ▸ active
      simp [Node.act, unchanged, Reply.unify, query, active, silent]
  | peers now => exact ⟨congrArg Reply.peers (alike.peers now), alike, rfl⟩
  | refresh resolver now =>
    have after := alike.refresh resolver now
    exact ⟨congrArg Reply.trusted after.trusted, after, rfl⟩
  | evict now => exact ((alike.evict now).map _).unify
  | digest => exact (alike.digest.map _).unify

/-- Nodes that are alike are so after every run. -/
theorem run (alike : Alike mapTarget a b) (actions : List Action) :
    Alike mapTarget (a.run actions) (b.run actions) := by
  -- Induction on the actions, each of which keeps the nodes alike.
  induction actions generalizing a b with
  | nil => exact alike
  | cons action rest ih => exact ih (alike.act action).nodes

end Alike

/-- Nodes at their start are alike in all phases. -/
theorem alike_start (profile : Profile) (first second : Phase) :
    Alike profile.migration.mapTarget (start (profile.inPhase first))
      (start (profile.inPhase second)) where
  -- At the start nothing is stored, so only the phase differs.
  profiles := rfl
  target := rfl
  ledgers := ⟨rfl, rfl⟩
  trusted := rfl

/--
The phase of the migration shows in the spelling of pools alone.

Let two nodes that differ in the phase alone go through the same run. Whatever they do next, they
report the same refusals, offers and other events, and reply the same but for the names of the
fleet-wide pool in entries and services. Afterwards they trust the same addresses, and hold the same
entries but for those names.
-/
theorem phase_shows_in_spelling_alone (profile : Profile) (first second : Phase)
    (actions : List Action) (action : Action) :
    Outcome.Alike profile.migration.mapTarget (Reply.unify profile.migration.mapTarget)
      (((start (profile.inPhase first)).run actions).act action)
      (((start (profile.inPhase second)).run actions).act action) :=
  -- Alike at the start, alike after every run, and alike in what one more action gives.
  ((alike_start profile first second).run actions).act action

end Node

end Roster
