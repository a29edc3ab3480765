import Roster.Proofs.Config
import Roster.Proofs.Node.Trusted
import Roster.Proofs.Round

/-!
Whom a node takes for its peers: its seeds and the discovery services of its pool that it shows.
Services are told from the node's own by the node id that each of them states, and not by that of
the entry it stands in, which is another one if a peer filed it so. Seeds state the empty node id,
so that a node of that id knows none of them.
-/

namespace Roster

/-- Whether the services of an entry state the node id of the entry. -/
def Entry.IsFiled (entry : Entry) : Prop :=
  ∀ service ∈ entry.allServices, service.nodeId = entry.nodeId

instance (entry : Entry) : Decidable entry.IsFiled :=
  inferInstanceAs (Decidable (∀ service ∈ entry.allServices, _))

/-- A translated entry has the services of the entry, each of them translated. -/
theorem Migration.allServices_translate (migration : Migration) (entry : Entry) :
    (migration.translate entry).allServices =
      entry.allServices.map migration.translateService := by
  -- A tombstone has no services to rename.
  rw [translate, Entry.allServices, Entry.allServices]
  cases entry.services <;> rfl

/-- Distinct texts are listed in strictly ascending order. -/
theorem Profile.pairwise_distinct (texts : List String) :
    (distinct texts).Pairwise (· < ·) :=
  -- The texts are kept as an index of themselves, which ascends by construction.
  (Index.ofList texts : Index (fun text : String => text)).ascending

namespace Node

/-- The entry of a peer that an action is about, if it is about one. -/
def Action.ofPeer? : Action → Option Entry
  | .merge entry => some entry
  | .accept entry _ => some entry
  | _ => none

variable {node : Node} {now : Millis} {nodeId uri : String}

/-- A node knows a URI through a node id if it shows a discovery service there. -/
theorem knowsThrough_iff :
    node.KnowsThrough now nodeId uri ↔ ∃ entry service, node.Shows now entry service ∧
      entry.nodeId = nodeId ∧ service.properties.get? "http" = some uri := by
  -- One side names the holder of the node id, the other the entry itself; an entry is held under
  -- its own node id.
  simp only [KnowsThrough, shows_iff]
  constructor
  · rintro ⟨entry, held, current, service, listed, counts, reached⟩
    obtain rfl := Store.nodeId_of_get? held
    exact ⟨entry, service, ⟨held, current, listed, counts⟩, rfl, reached⟩
  · rintro ⟨entry, service, ⟨held, current, listed, counts⟩, rfl, reached⟩
    exact ⟨entry, held, current, service, listed, counts, reached⟩

/-- The peers of a node are its seeds, unless its node id is empty, and what it shows of services
that state another node id. -/
theorem mem_peers_iff :
    uri ∈ node.profile.peers node.store now ↔
      (uri ∈ node.profile.seeds ∧ node.profile.nodeId ≠ "") ∨
        ∃ entry service, node.Shows now entry service ∧
          service.nodeId ≠ node.profile.nodeId ∧ service.properties.get? "http" = some uri := by
  simp only [Profile.peers, Profile.peersOtherThan, Profile.mem_distinct, Profile.discovery,
    List.filter_append, List.filterMap_append, List.mem_append]
  refine or_congr ?_ ?_
  · -- A seed is a service that states the empty node id.
    simp only [List.mem_filterMap, List.mem_filter, List.mem_map, bne_iff_ne]
    constructor
    · rintro ⟨_, ⟨⟨seed, listed, rfl⟩, differs⟩, reached⟩
      obtain rfl : seed = uri := Option.some.inj reached
      exact ⟨listed, differs.symm⟩
    · rintro ⟨listed, named⟩
      exact ⟨_, ⟨⟨uri, listed, rfl⟩, named.symm⟩, rfl⟩
  · simp only [List.mem_filterMap, List.mem_filter, mem_announcedDiscovery, bne_iff_ne]
    constructor
    · rintro ⟨service, ⟨⟨entry, shows⟩, differs⟩, reached⟩
      exact ⟨entry, service, shows, differs, reached⟩
    · rintro ⟨entry, service, shows, differs, reached⟩
      exact ⟨service, ⟨⟨entry, shows⟩, differs⟩, reached⟩

/-- Every entry that a node writes is filed. -/
theorem isFiled_entryOf (node : Node) (now : Millis) (write : Write) :
    (node.entryOf now write).IsFiled := by
  -- Entries made here take the node id from the write, and their services take it from the entry.
  have announced (announcement : Announcement) (nodeId : String) (announcer : Option String) :
      (node.entryFor now nodeId announcement announcer).IsFiled := by
    intro service listed
    obtain ⟨submitted, -, rfl⟩ := List.mem_map.1 listed
    rfl
  cases write with
  | announce => exact announced _ _ _
  | announceTrusted => exact announced _ _ _
  | delete => exact fun service none => by cases none
  | deleteTrusted => exact fun service none => by cases none

/-- An entry that an action brings is filed if that of the peer is, where there is one. -/
theorem Brings.isFiled {action : Action} {entry : Entry} (brings : node.Brings action entry)
    (filed : ∀ offered ∈ action.ofPeer?, offered.IsFiled) : entry.IsFiled := by
  have translated {offered : Entry} (filed : offered.IsFiled) :
      (node.profile.migration.translate offered).IsFiled := by
    -- Only the pools of services are translated.
    intro service listed
    rw [Migration.allServices_translate, List.mem_map] at listed
    obtain ⟨original, member, rfl⟩ := listed
    exact filed original member
  cases brings with
  | write => exact node.isFiled_entryOf _ _
  | merge => exact translated (filed _ rfl)
  | accept => exact translated (filed _ rfl)

/-- A node that was only ever offered filed entries holds no others. -/
theorem isFiled_of_get?_run {profile : Profile} {actions : List Action} {entry : Entry}
    (filed : ∀ action ∈ actions, ∀ offered ∈ action.ofPeer?, offered.IsFiled)
    (held : ((start profile).run actions).store.get? nodeId = some entry) : entry.IsFiled := by
  rcases get?_run_cases held with early | ⟨before, action, after, rfl, brings⟩
  · -- Nothing is held at the start.
    cases early
  · exact brings.isFiled (filed action (by simp))

/-- Where services state the node ids of their entries, the peers of a node that has a node id are
all that it knows beside itself; without one, those that it knows through no more than seeds are
left out. -/
theorem mem_peers_iff_knowsBeside
    (filed : ∀ entry service, node.Shows now entry service → service.nodeId = entry.nodeId) :
    (∀ uri, uri ∈ node.profile.peers node.store now ↔
        node.KnowsBeside now node.profile.nodeId uri) ↔
      (node.profile.nodeId = "" → ∀ seed ∈ node.profile.seeds,
        ∃ other, other ≠ "" ∧ node.KnowsThrough now other seed) := by
  -- Whatever is shown of another node id is known through it.
  have shown (uri : String) : (∃ entry service, node.Shows now entry service ∧
      service.nodeId ≠ node.profile.nodeId ∧ service.properties.get? "http" = some uri) ↔
      ∃ other, other ≠ node.profile.nodeId ∧ node.KnowsThrough now other uri := by
    simp only [knowsThrough_iff]
    constructor
    · rintro ⟨entry, service, shows, differs, reached⟩
      rw [filed entry service shows] at differs
      exact ⟨entry.nodeId, differs, entry, service, shows, rfl, reached⟩
    · rintro ⟨_, differs, entry, service, shows, rfl, reached⟩
      exact ⟨entry, service, shows, filed entry service shows ▸ differs, reached⟩
  simp only [mem_peers_iff, shown, KnowsBeside]
  constructor
  · intro same nameless seed listed
    rcases (same seed).2 (.inl listed) with ⟨-, named⟩ | through
    · exact absurd nameless named
    · rwa [nameless] at through
  · intro covered uri
    refine ⟨fun known => known.imp_left And.left, ?_⟩
    rintro (seed | through)
    · by_cases nameless : node.profile.nodeId = ""
      · exact .inr (nameless ▸ covered nameless uri seed)
      · exact .inl ⟨seed, nameless⟩
    · exact .inr through

/--
The peers of a node are its seeds and what it shows of other nodes' discovery services.

Each URI is listed once and in ascending order. A seed is among them unless the node id is empty,
and a discovery service of the pool in an entry that has not expired is if the node id that it
states is not the node's own. After a run in which peers have offered no entry with services of
other node ids than its own, these are exactly the URIs that the node knows through a seed or
through an entry of another node id, as long as it has a node id itself; if that is empty, they are
as long as every seed is known through another node id, too.
-/
theorem peers_go_by_stated_node_ids (profile : Profile) (actions : List Action) (now : Millis) :
    let node := (start profile).run actions
    let peers := profile.peers node.store now
    peers.Pairwise (· < ·) ∧
    (∀ uri, uri ∈ peers ↔ (uri ∈ profile.seeds ∧ profile.nodeId ≠ "") ∨
      ∃ entry service, node.Shows now entry service ∧ service.nodeId ≠ profile.nodeId ∧
        service.properties.get? "http" = some uri) ∧
    ((∀ action ∈ actions, ∀ offered ∈ action.ofPeer?, offered.IsFiled) →
      ((∀ uri, uri ∈ peers ↔ node.KnowsBeside now profile.nodeId uri) ↔
        (profile.nodeId = "" → ∀ seed ∈ profile.seeds,
          ∃ other, other ≠ "" ∧ node.KnowsThrough now other seed))) := by
  intro node peers
  have same : node.profile = profile := profile_run _ _
  have members : node.profile.peers node.store now = peers := by rw [same]
  rw [← members, ← same]
  refine ⟨Profile.pairwise_distinct _, fun uri => mem_peers_iff, fun filed => ?_⟩
  -- What a node makes itself is filed rightly, so only what peers offered needs the assumption.
  refine mem_peers_iff_knowsBeside fun entry service shows => ?_
  exact isFiled_of_get?_run filed shows.held service shows.listed

/-- A discovery service that is reached at a URI and states a node id. -/
def discoveryOf (nodeId uri : String) : Service :=
  ⟨"d", nodeId, discoveryKind, generalPool, "here", Index.ofList [(Profile.contactKey, uri)]⟩

/-- A node without a node id leaves its seed out, and one with a node id goes by the node ids that
services state, whatever entries they stand in. -/
theorem peers_go_by_stated_node_ids_misfiled :
    let text := "[node]\nenvironment = \"t\"\nnode_id = \"\"\n[api]\nseeds = [\"http://seed\"]"
    let config := { Config.bare with
      node := { Config.bare.node with nodeId := some "" }
      api := { Config.bare.api with seeds := ["http://seed"] } }
    let named := Profile.ofConfig config "own"
    let nameless := Profile.ofConfig config ""
    let offer (nodeId stated uri : String) : Action :=
      .merge (.live nodeId [discoveryOf stated uri] 1 100 none)
    let filed := [offer "a" "a" "http://a"]
    let misfiled := [offer "a" "own" "http://a", offer "own" "b" "http://b"]
    let after (profile : Profile) (actions : List Action) := (start profile).run actions
    Config.parse text = .ok config ∧
    (∀ uri, uri ∈ named.peers (after named filed).store 5 ↔
      (after named filed).KnowsBeside 5 "own" uri) ∧
    (nameless.peers (after nameless filed).store 5 = ["http://a"] ∧
      ¬∀ uri, uri ∈ nameless.peers (after nameless filed).store 5 ↔
        (after nameless filed).KnowsBeside 5 "" uri) ∧
    named.peers (after named misfiled).store 5 = ["http://b", "http://seed"] ∧
      (after named misfiled).KnowsBeside 5 "own" "http://a" ∧
      ¬(after named misfiled).KnowsBeside 5 "own" "http://b" := by
  intro text config named nameless offer filed misfiled after
  have parsed : Config.parse text = .ok config := Config.parse_eq_ok_iff.2
    ⟨by decide +kernel, Config.fault?_eq_none_iff.1 (by decide +kernel)⟩
  have sorted : ∀ action ∈ filed, ∀ offered ∈ action.ofPeer?, offered.IsFiled := by
    intro action listed offered about
    obtain rfl := List.mem_singleton.1 listed
    cases about
    decide
  obtain ⟨-, -, all⟩ := peers_go_by_stated_node_ids named filed 5
  have others : nameless.peers (after nameless filed).store 5 = ["http://a"] := by decide +kernel
  have known : (after named misfiled).KnowsThrough 5 "a" "http://a" :=
    ⟨.live "a" [discoveryOf "own" "http://a"] 1 100 none, by decide +kernel⟩
  refine ⟨parsed, (all sorted).2 fun none => absurd none (by decide), ⟨others, fun same => ?_⟩,
    by decide +kernel, .inr ⟨"a", by decide, known⟩, ?_⟩
  · -- The seed is known, but it is no peer.
    have seed : "http://seed" ∈ nameless.peers (after nameless filed).store 5 :=
      (same "http://seed").2 (.inl (by decide))
    rw [others] at seed
    exact absurd seed (by decide)
  · rintro (seed | ⟨other, another, entry, held, -, service, listed, -, reached⟩)
    · exact absurd seed (by decide)
    · -- Among what is held for other node ids there is no such URI.
      have elsewhere : ∀ entry ∈ (after named misfiled).store.items, entry.nodeId ≠ "own" →
          ∀ service ∈ entry.allServices, service.properties.get? "http" ≠ some "http://b" := by
        decide +kernel
      obtain rfl := Store.nodeId_of_get? held
      exact elsewhere entry (Store.mem_items_iff_get?.2 held) another service listed reached

end Node

end Roster
