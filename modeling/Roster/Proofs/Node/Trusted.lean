import Roster.Proofs.Net.Order
import Roster.Proofs.Node.Admission
import Roster.Proofs.Node.Query

/-!
Whom a node trusts after a look-up: the addresses of all seeds and of all discovery services of its
pool that it shows, and no others. Until the next look-up nothing changes that, so that a discovery
node that was deleted, expired or moved to another pool replicates no longer from then on.
-/

namespace Roster

/-- Whether a service is a discovery service in the pool of a node, by either name of the pool. -/
def Profile.Counts (profile : Profile) (service : Service) : Prop :=
  service.Answers profile.migration.mapTarget (some discoveryKind) (some profile.pool)

instance (profile : Profile) (service : Service) : Decidable (profile.Counts service) :=
  inferInstanceAs (Decidable (service.Answers _ _ _))

/-- Whether an entry has no discovery service in the pool of a node. -/
def Profile.Ignores (profile : Profile) (entry : Entry) : Prop :=
  ∀ service ∈ entry.allServices, ¬profile.Counts service

instance (profile : Profile) (entry : Entry) : Decidable (profile.Ignores entry) :=
  inferInstanceAs (Decidable (∀ service ∈ entry.allServices, _))

namespace Node

/-- Whether a node knows a URI through a discovery service that it holds for a node id. -/
def KnowsThrough (node : Node) (now : Millis) (nodeId uri : String) : Prop :=
  ∃ entry, node.store.get? nodeId = some entry ∧ entry.isExpired now = false ∧
    ∃ service ∈ entry.allServices,
      node.profile.Counts service ∧ service.properties.get? "http" = some uri

/-- Whether a node knows a URI through a seed or through any node id. -/
def Knows (node : Node) (now : Millis) (uri : String) : Prop :=
  uri ∈ node.profile.seeds ∨ ∃ nodeId, node.KnowsThrough now nodeId uri

/-- Whether a node knows a URI through a seed or through a node id other than the given one. -/
def KnowsBeside (node : Node) (now : Millis) (nodeId uri : String) : Prop :=
  uri ∈ node.profile.seeds ∨ ∃ other, other ≠ nodeId ∧ node.KnowsThrough now other uri

/-- Whether what a node holds for a node id, if anything, is a tombstone, has expired, or has no
discovery service in the pool of the node. -/
def Departed (node : Node) (now : Millis) (nodeId : String) : Prop :=
  ∀ entry ∈ node.store.get? nodeId,
    entry.isTombstone = true ∨ entry.isExpired now = true ∨ node.profile.Ignores entry

instance (node : Node) (now : Millis) (nodeId : String) : Decidable (node.Departed now nodeId) :=
  inferInstanceAs (Decidable (∀ entry ∈ node.store.get? nodeId, _))

/-- Whether an action brings no discovery service in the pool of the node for a node id. -/
def BringsNoService (nodeId : String) (node : Node) (action : Action) : Prop :=
  ∀ entry, node.Brings action entry → entry.nodeId = nodeId → node.profile.Ignores entry

/-- The entries that an action stores, in place of whatever is held for their node ids. -/
inductive Stores (node : Node) : Action → Entry → Prop
  | write {now : Millis} {write : Write} (accepted : node.verdict write = .ok ())
    (early : ∀ resident ∈ node.store.get? (node.entryOf now write).nodeId,
      resident.timestamp < .latest) :
    Stores node (.write now write) (node.entryOf now write)
  | merge {entry : Entry}
    (admitted : node.store.admitsFromPeer node.profile.migration entry = true) :
    Stores node (.merge entry) (node.profile.migration.translate entry)
  | accept {entry : Entry} {requester : Address}
    (passed : node.admitReplication requester = .ok ())
    (admitted : node.store.admitsFromPeer node.profile.migration entry = true) :
    Stores node (.accept entry requester) (node.profile.migration.translate entry)

variable {node : Node} {resolver : Resolver} {now : Millis} {nodeId : String}

/-- A node shows the services that count of entries that it holds and that have not expired. -/
theorem shows_iff {entry : Entry} {service : Service} :
    node.Shows now entry service ↔
      node.store.get? entry.nodeId = some entry ∧ entry.isExpired now = false ∧
        service ∈ entry.allServices ∧ node.profile.Counts service := by
  have counts : node.profile.Counts service ↔ service.kind = discoveryKind ∧
      service.pool ∈ node.profile.migration.aliases node.profile.pool := by
    -- The pool is matched by its aliases, which are its names.
    rw [Migration.mem_aliases_iff]
    constructor
    · intro answers
      exact ⟨answers.kind _ rfl, answers.pool _ rfl⟩
    · rintro ⟨kind, pool⟩
      exact ⟨by simpa using kind, by simpa using pool⟩
  rw [counts]
  constructor
  · rintro ⟨held, current, listed, kind, pool⟩
    exact ⟨held, current, listed, kind, pool⟩
  · rintro ⟨held, current, listed, kind, pool⟩
    exact ⟨held, current, listed, kind, pool⟩

/-- A look-up finds the addresses that the known URIs lead to. -/
theorem mem_trusted_refresh_iff {address : Address} :
    address ∈ (node.refresh resolver now).trusted ↔
      ∃ uri, node.Knows now uri ∧ resolver.Locates uri address := by
  simp only [mem_trusted_refresh, Resolver.mem_addressesOf_iff, Knows, or_and_right, exists_or]
  -- Seeds are reached where they say, so only the services that are held are left.
  refine or_congr Iff.rfl ?_
  simp only [Trust.Leads, List.filterMap_cons, List.filterMap_nil, shows_iff,
    Resolver.mem_addressesOf_iff]
  constructor
  · rintro ⟨entry, service, ⟨held, current, listed, counts⟩, uri, stated, located⟩
    cases reached : Profile.contact? service with
    | none => simp [reached] at stated
    | some other =>
      obtain rfl : uri = other := by simpa [reached] using stated
      exact ⟨uri, ⟨entry.nodeId, entry, held, current, service, listed, counts, reached⟩, located⟩
  · rintro ⟨uri, ⟨_, entry, held, current, service, listed, counts, reached⟩, located⟩
    obtain rfl := Store.nodeId_of_get? held
    refine ⟨entry, service, ⟨held, current, listed, counts⟩, uri, ?_, located⟩
    rw [show Profile.contact? service = some uri from reached]
    exact List.mem_singleton_self uri

/-- Nothing is known through a node id that has departed. -/
theorem Departed.not_knowsThrough (departed : node.Departed now nodeId) (uri : String) :
    ¬node.KnowsThrough now nodeId uri := by
  rintro ⟨entry, held, current, service, listed, counts, -⟩
  rcases departed entry held with tombstone | expired | ignored
  · -- A tombstone has no services.
    rw [Entry.isTombstone, Option.isNone_iff_eq_none] at tombstone
    simp [Entry.allServices, tombstone] at listed
  · -- An expired entry is not current.
    rw [current] at expired
    cases expired
  · exact ignored service listed counts

/-- What is known when a node id has departed is known through a seed or another one. -/
theorem Departed.knowsBeside (departed : node.Departed now nodeId) {uri : String}
    (known : node.Knows now uri) : node.KnowsBeside now nodeId uri := by
  -- A seed counts in any case, and what is known through an entry is known through another node's.
  refine known.imp_right fun ⟨other, through⟩ => ⟨other, ?_, through⟩
  rintro rfl
  exact departed.not_knowsThrough uri through

/-- A node id that has departed stays away as time passes. -/
theorem Departed.of_le (departed : node.Departed now nodeId) {later : Millis}
    (ordered : now ≤ later) : node.Departed later nodeId := by
  -- What has expired stays expired.
  intro entry held
  exact (departed entry held).imp_right
    (.imp_left fun expired => Entry.isExpired_of_le expired ordered)

/-- A node id that has departed stays away when no service is brought for it. -/
theorem Departed.act (departed : node.Departed now nodeId) {action : Action}
    (none : BringsNoService nodeId node action) :
    (node.act action).node.Departed now nodeId := by
  intro entry held
  rw [profile_act]
  -- What is held was held before, or the action brought it.
  rcases get?_act_cases held with before | brings
  · exact departed entry before
  · exact .inr (.inr (none entry brings (Store.nodeId_of_get? held)))

/-- A node id that has departed stays away along runs that bring no service for it. -/
theorem Departed.run (departed : node.Departed now nodeId) {actions : List Action}
    (along : Along (BringsNoService nodeId) node actions) :
    (node.run actions).Departed now nodeId := by
  -- One action keeps the departure, and so do all.
  have step (node : Node) (action : Action) (none : BringsNoService nodeId node action)
      (departed : node.Departed now nodeId) : (node.act action).node.Departed now nodeId :=
    departed.act none
  exact run_keeps step departed along

/-- An entry of a peer that is admitted is held after the merge, with its pools translated. -/
theorem get?_merge_of_admitted {entry : Entry}
    (admitted : node.store.admitsFromPeer node.profile.migration entry = true) :
    (node.merge entry).node.store.get? (node.profile.migration.translate entry).nodeId =
      some (node.profile.migration.translate entry) := by
  -- An admitted entry is put, in the node's own spelling.
  obtain ⟨wellFormed, later⟩ := Bool.and_eq_true_iff.1 admitted
  rw [store_merge, Store.merge, if_pos wellFormed, Store.get?_put, if_pos ⟨later, rfl⟩]

/-- An entry that an action stores is held afterwards. -/
theorem Stores.get?_act {action : Action} {entry : Entry} (stores : node.Stores action entry) :
    (node.act action).node.store.get? entry.nodeId = some entry := by
  cases stores with
  | write accepted early => exact get?_act_write_of_verdict accepted _ early
  | merge admitted => exact get?_merge_of_admitted admitted
  | accept passed admitted =>
    -- An offer that passes the check is merged like an entry that was read.
    rw [act, acceptOffer_eq, passed]
    exact get?_merge_of_admitted admitted

/-- An entry without a discovery service in the pool makes its node id depart when it is stored. -/
theorem Stores.departed {action : Action} {entry : Entry} (stores : node.Stores action entry)
    (ignored : node.profile.Ignores entry) (now : Millis) :
    (node.act action).node.Departed now entry.nodeId := by
  -- The node ignores what it holds under the node id now.
  intro found held
  rw [Option.mem_def, stores.get?_act] at held
  rw [profile_act, ← Option.some.inj held]
  exact .inr (.inr ignored)

/-- A node that checks requesters lets exactly those replicate that it trusts. -/
theorem checkReplicate_eq_ok_iff (guarded : node.profile.guarded = true) {requester : Address} :
    node.checkReplicate requester = .ok () ↔ requester.canonical ∈ node.trusted := by
  -- The check is in force, so it passes for the trusted addresses and no others.
  constructor
  · intro passed
    by_contra stranger
    rw [checkReplicate_of_stranger guarded stranger] at passed
    cases passed
  · intro trusted
    rw [checkReplicate, guard, if_pos guarded, Trust.checkReplicate, if_pos trusted]
    rfl

/-- Look-ups that find the same addresses leave the same ones trusted, in the same order. -/
theorem trusted_refresh_congr {other : Node} {look : Resolver} {time : Millis}
    (same : ∀ address, (∃ uri, other.Knows time uri ∧ look.Locates uri address) ↔
      ∃ uri, node.Knows now uri ∧ resolver.Locates uri address) :
    (other.refresh look time).trusted = (node.refresh resolver now).trusted := by
  refine Trust.addresses_eq_of_mem_iff fun address => ?_
  -- Either list is that of a look-up, whose members are those of the URIs that are known.
  exact (mem_trusted_refresh_iff.trans (same address)).trans mem_trusted_refresh_iff.symm

/--
After a look-up, exactly the addresses are trusted to which the known discovery services lead.

These are the addresses of the hosts of all seeds and of all discovery services that are held, have
not expired and are in the node's pool by either of its names; a URI without a host or with one that
is not found adds none. Look-ups to which the same addresses lead leave the same list, whomever the
nodes trusted before. Until the next look-up no action changes it, and whoever is on it replicates,
and nobody else. An address that only a departed node id led to is refused. A node id departs when
its entry expires, or gives way to that of a deletion or of services that are none of the pool's,
and stays away until a discovery service of the pool is brought for it.
-/
theorem trusted_is_what_discovery_leads_to (guarded : node.profile.guarded = true)
    (resolver : Resolver) (now : Millis) :
    let refreshed := node.refresh resolver now
    (∀ address, address ∈ refreshed.trusted ↔
      ∃ uri, node.Knows now uri ∧ resolver.Locates uri address) ∧
    (∀ (other : Node) (look : Resolver) (time : Millis),
      (∀ address, (∃ uri, other.Knows time uri ∧ look.Locates uri address) ↔
        ∃ uri, node.Knows now uri ∧ resolver.Locates uri address) →
      (other.refresh look time).trusted = refreshed.trusted) ∧
    (∀ actions : List Action, (∀ look time, .refresh look time ∉ actions) →
      let later := refreshed.run actions
      later.trusted = refreshed.trusted ∧
      (∀ requester, later.checkReplicate requester = .ok () ↔
        requester.canonical ∈ refreshed.trusted) ∧
      ∀ nodeId requester, node.Departed now nodeId →
        (∀ uri, node.KnowsBeside now nodeId uri → ¬resolver.Locates uri requester.canonical) →
        later.checkReplicate requester =
            .error (.forbidden ⟨requester.canonical, none, .stranger⟩) ∧
          (node.profile.dynamic = true → later.Refuses requester)) ∧
    (∀ nodeId actions, Along (BringsNoService nodeId) node actions →
      node.Departed now nodeId → ∀ later, now ≤ later → (node.run actions).Departed later nodeId) ∧
    ∀ action entry, node.Stores action entry → node.profile.Ignores entry →
      (node.act action).node.Departed now entry.nodeId := by
  intro refreshed
  refine ⟨fun address => mem_trusted_refresh_iff, fun _ _ _ => trusted_refresh_congr, ?_, ?_, ?_⟩
  · intro actions none later
    have kept : later.trusted = refreshed.trusted := trusted_run none
    have same : later.profile = node.profile := profile_run _ _
    have checks : later.profile.guarded = true := same ▸ guarded
    refine ⟨kept, fun requester => ?_, fun nodeId requester departed beside => ?_⟩
    · rw [checkReplicate_eq_ok_iff checks, kept]
    · -- Whatever is known is known from elsewhere, and that leads to others.
      have stranger : requester.canonical ∉ later.trusted := by
        rw [kept, mem_trusted_refresh_iff]
        rintro ⟨uri, known, located⟩
        exact beside uri (departed.knowsBeside known) located
      exact ⟨checkReplicate_of_stranger checks stranger,
        fun active => (refuses_iff (same ▸ active) checks).2 stranger⟩
  · intro nodeId actions along departed later ordered
    exact (departed.run along).of_le ordered
  · intro action entry stores ignored
    exact stores.departed ignored now

/-- A discovery node replicates until its entry is deleted and the addresses are looked up again;
a seed without a host and one that is not found do no harm. -/
theorem trusted_is_what_discovery_leads_to_until_deleted :
    let peer : Address := .v6 #v[0, 0, 0, 0, 0, 0xffff, 0x0a00, 0x0009]
    let profile := { Profile.checking with seeds := ["nowhere", "http://unknown.example/"] }
    let announced := ((start profile).act
      (.write 1 (.announceTrusted "peer" (discoveryAt "http://10.0.0.9:4111")))).node
    let deletion := Action.write 2 (.delete .literals "peer" peer)
    let deleted := (announced.act deletion).node
    let between : List Action := [.evict 3, .query 3 none none, .digest]
    ((announced.refresh .literals 1).act deletion).node.checkReplicate peer = .ok () ∧
      deleted.Departed 3 "peer" ∧
      ((deleted.refresh .literals 3).run between).Refuses peer := by
  intro peer profile announced deletion deleted between
  obtain ⟨found, -, during, -, stored⟩ :=
    trusted_is_what_discovery_leads_to (show announced.profile.guarded = true from rfl) .literals 1
  obtain ⟨-, -, after, -, -⟩ :=
    trusted_is_what_discovery_leads_to (show deleted.profile.guarded = true from rfl) .literals 3
  have trusted : peer.canonical ∈ (announced.refresh .literals 1).trusted := by
    refine (found _).2 ⟨"http://10.0.0.9:4111", .inr ⟨"peer", ?_⟩, by decide +kernel⟩
    exact ⟨(start profile).entryFor 1 "peer" (discoveryAt "http://10.0.0.9:4111") none,
      by decide +kernel⟩
  obtain ⟨-, admitted, -⟩ := during [deletion] (by simp [deletion])
  have departed : deleted.Departed 1 "peer" :=
    stored deletion _ (.write (by decide +kernel) (by decide +kernel)) (by decide +kernel)
  refine ⟨(admitted peer).2 trusted, departed.of_le (by decide), ?_⟩
  obtain ⟨-, -, refused⟩ := after between (by simp [between])
  refine (refused "peer" peer (departed.of_le (by decide)) ?_).2 rfl
  rintro uri (seed | ⟨other, another, entry, held, -⟩)
  · -- Neither seed leads anywhere.
    exact (by decide +kernel : ∀ uri ∈ profile.seeds,
      ¬Resolver.Locates .literals uri peer.canonical) uri seed
  · -- There is no other node id.
    have alone : ∀ entry ∈ deleted.store.items, entry.nodeId = "peer" := by decide +kernel
    have named := alone entry (Store.mem_items_iff_get?.2 (Store.nodeId_of_get? held ▸ held))
    exact absurd ((Store.nodeId_of_get? held).symm.trans named) another

end Node

end Roster
