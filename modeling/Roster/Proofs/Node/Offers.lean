import Roster.Proofs.Exchange
import Roster.Proofs.Http.Redirection
import Roster.Proofs.Json.Length
import Roster.Proofs.Node.Announcing
import Roster.Proofs.Node.Peers
import Roster.Proofs.Node.Versions

/-!
How a write gets to other nodes. The entry of an accepted request is offered once to each peer that
the node has after the write, in a text that reads back as the entry. Whoever takes such an offer
comes to hold what it would hold if it had read the entry itself, but a text that is longer than any
request may be is not taken at all.
-/

namespace Roster

open Http (Network)

/-- The text of a service is longer than its location. -/
theorem Service.length_location_lt (service : Service) :
    service.location.length < (Service.form.write service).chars.length := by
  -- The location is one of the members, and a member is shorter than the object around it.
  have inside : (Json.str service.location).chars.length <
      (Service.form.write service).chars.length :=
    Json.length_chars_lt_of_member "location"
      (by simp [Service.fields, Json.Fields.writeMembers]; rfl)
  exact (Json.length_lt_length_chars_str service.location).trans inside

/-- The texts of services are together no shorter than their locations are. -/
theorem Service.length_flatMap_location_le (services : List Service) :
    (services.flatMap (·.location.toList)).length ≤
      ((services.map Service.form.write).flatMap Json.chars).length := by
  -- Each service is longer than its location, so all are longer than all.
  induction services with
  | nil => exact Nat.le_refl 0
  | cons service rest ih =>
    have here := service.length_location_lt
    simp only [List.map_cons, List.flatMap_cons, List.length_append, String.length_toList]
    omega

/-- The text of an entry is longer than the locations of all its services together. -/
theorem Entry.length_flatMap_location_lt (entry : Entry) :
    (entry.allServices.flatMap (·.location.toList)).length <
      (Entry.form.write entry).compact.toUTF8.size := by
  have bytes := (Entry.form.write entry).length_chars_le_size_compact
  have whole : (Service.form.list.optional.write entry.services).chars.length <
      (Entry.form.write entry).chars.length :=
    Json.length_chars_lt_of_member "services"
      (by simp [Entry.fields, Json.Fields.writeMembers])
  rw [allServices]
  -- A tombstone has no locations, and the other entries have them within their services.
  cases listed : entry.services with
  | none => exact Nat.lt_of_lt_of_le (Nat.zero_lt_of_lt whole) bytes
  | some services =>
    rw [listed] at whole
    calc (services.flatMap (·.location.toList)).length
      _ ≤ ((services.map Service.form.write).flatMap Json.chars).length :=
        Service.length_flatMap_location_le services
      _ < (Json.arr (services.map Service.form.write)).chars.length :=
        Json.length_flatMap_chars_lt_arr _
      _ < (Entry.form.write entry).chars.length := whole
      _ ≤ (Entry.form.write entry).compact.toUTF8.size := bytes

namespace Node

variable {node : Node} {now : Millis} {write : Write} {uri : String}

/-- A request that is turned down offers nothing. -/
theorem offers_perform_of_refused (refused : (node.perform now write).answer ≠ .ok ()) :
    (node.perform now write).offers = [] := by
  -- A write is either turned down, which offers nothing, or carried out, which is not refused.
  rcases node.perform_cases now write with ⟨rejection, turnedDown⟩ | written
  · rw [turnedDown]
    exact node.offers_reject rejection
  · rw [written] at refused
    exact absurd rfl refused

/-- An accepted request offers its entry to the peers that the node has afterwards. -/
theorem offers_perform_of_accepted (accepted : (node.perform now write).answer = .ok ()) :
    let after := (node.perform now write).node
    (node.perform now write).offers =
      (after.profile.peers after.store now).map (·, node.entryOf now write) := by
  -- The offers go to the peers of the store as the write left it.
  intro after
  have profile : after.profile = node.profile := profile_act node (.write now write)
  have store : after.store = node.store.put (node.entryOf now write) :=
    store_perform_of_accepted accepted
  rw [profile, store, perform_of_accepted accepted]
  exact node.offers_write_eq now _

/-- What leads a node to a peer once it has written an entry. -/
inductive PeerAfter (node : Node) (now : Millis) (entry : Entry) (uri : String) : Prop
  -- The seeds state the empty node id.
  | seed (listed : uri ∈ node.profile.seeds) (named : node.profile.nodeId ≠ "")
  -- The entry announces a discovery service of another node in the pool.
  | written {service : Service} (current : entry.isExpired now = false)
    (listed : service ∈ entry.allServices) (counts : node.profile.Counts service)
    (another : service.nodeId ≠ node.profile.nodeId)
    (reached : service.properties.get? "http" = some uri)
  -- The node has shown such a service before, for another node id than that of the entry.
  | shown {other : Entry} {service : Service} (kept : other.nodeId ≠ entry.nodeId)
    (shows : node.Shows now other service) (another : service.nodeId ≠ node.profile.nodeId)
    (reached : service.properties.get? "http" = some uri)

/-- Once the entry of a request is stored, its services are shown and those of other node ids are
as before. -/
theorem shows_perform_iff (accepted : (node.perform now write).answer = .ok ())
    (early : ∀ resident ∈ node.store.get? (node.entryOf now write).nodeId,
      resident.timestamp < .latest) {other : Entry} {service : Service} :
    (node.perform now write).node.Shows now other service ↔
      (other = node.entryOf now write ∧ other.isExpired now = false ∧
        service ∈ other.allServices ∧ node.profile.Counts service) ∨
      (other.nodeId ≠ (node.entryOf now write).nodeId ∧ node.Shows now other service) := by
  have profile : (node.perform now write).node.profile = node.profile :=
    profile_act node (.write now write)
  have stored := get?_perform accepted early
  rw [shows_iff, shows_iff, profile]
  by_cases same : other.nodeId = (node.entryOf now write).nodeId
  · -- For its node id, the entry is what is held.
    rw [same, stored, Option.some.injEq]
    constructor
    · rintro ⟨rfl, shows⟩
      exact .inl ⟨rfl, shows⟩
    · rintro (⟨rfl, shows⟩ | ⟨differs, -⟩)
      · exact ⟨rfl, shows⟩
      · exact absurd rfl differs
  · -- Under every other node id the store is as before.
    rw [get?_perform_of_ne accepted same]
    constructor
    · exact fun shows => .inr ⟨same, shows⟩
    · rintro (⟨rfl, -⟩ | ⟨-, shows⟩)
      · exact absurd rfl same
      · exact shows

/-- Once the entry of a request is stored, the peers are those that something leads to. -/
theorem mem_peers_perform_iff (accepted : (node.perform now write).answer = .ok ())
    (early : ∀ resident ∈ node.store.get? (node.entryOf now write).nodeId,
      resident.timestamp < .latest) :
    let after := (node.perform now write).node
    uri ∈ after.profile.peers after.store now ↔
      node.PeerAfter now (node.entryOf now write) uri := by
  intro after
  have profile : after.profile = node.profile := profile_act node (.write now write)
  rw [mem_peers_iff, profile]
  -- What a store shows after the write is the entry written or what it showed before, under other
  -- node ids.
  constructor
  · rintro (⟨listed, named⟩ | ⟨other, service, shows, another, reached⟩)
    · exact .seed listed named
    · rcases (shows_perform_iff accepted early).1 shows with
        ⟨rfl, current, listed, counts⟩ | ⟨kept, before⟩
      · exact .written current listed counts another reached
      · exact .shown kept before another reached
  · intro leads
    cases leads with
    | seed listed named => exact .inl ⟨listed, named⟩
    | written current listed counts another reached =>
      have shows := (shows_perform_iff accepted early).2 (.inl ⟨rfl, current, listed, counts⟩)
      exact .inr ⟨_, _, shows, another, reached⟩
    | shown kept before another reached =>
      have shows := (shows_perform_iff accepted early).2 (.inr ⟨kept, before⟩)
      exact .inr ⟨_, _, shows, another, reached⟩

/-- A node that reads one entry from a peer merges it. -/
theorem node_take_singleton (node : Node) (peer : String) (entry : Entry) :
    (node.take ⟨peer, .ok [entry]⟩).node = (node.merge entry).node := rfl

/-- A requester that may replicate and offers an entry gets it merged, if its text is not too long
for a request. -/
theorem respond_offer {requester : Address} (admitted : node.admitReplication requester = .ok ())
    {entry : Entry} {text : String} (written : Entry.form.Writes entry text)
    (short : text.toUTF8.size ≤ Api.bodyLimit) (resolver : Resolver) (now : Millis) :
    let outcome := node.respond resolver now requester (offerRequest entriesTarget text.toUTF8)
    outcome.answer = .plain .ok ∧ outcome.node = (node.merge entry).node := by
  intro outcome
  have answered := respond_of_writes written node resolver now requester
  -- Neither the length of the text nor the requester is a reason to turn the offer away.
  rw [if_neg (not_lt.2 short), acceptOffer_eq, admitted] at answered
  rw [show outcome = _ from answered]
  exact ⟨rfl, rfl⟩

/-- What is too long for a request is turned away. -/
theorem respond_offer_of_long {entry : Entry} {text : String}
    (written : Entry.form.Writes entry text) (long : Api.bodyLimit < text.toUTF8.size)
    (node : Node) (resolver : Resolver) (now : Millis) (requester : Address) :
    node.respond resolver now requester (offerRequest entriesTarget text.toUTF8) =
      node.unchanged (.plain .payloadTooLarge) := by
  -- A body over the limit is refused without being read.
  rw [respond_of_writes written, if_pos long]

/--
An accepted write is offered once to each peer, and an offer does to a node what a reading does.

A request that is turned down offers nothing. The entry of any other goes to the peers after it, in
ascending order. Unless the node id has come to the last version, these are the seeds, where the
entry announces a discovery service of the pool and has not expired, and where the node showed such
a service before for another node id; a node id that is deleted leads nowhere itself. The first call
of an offer posts the text of the entry, and whatever its calls carry reads back as the entry. Where
the requester may replicate, an offer leaves a node as it would be after reading the one entry from
a peer, but only if the text is no longer than a request may be: a longer one is turned away.
-/
theorem offered_once_to_each_peer_and_taken_as_read :
    (∀ (node : Node) now write,
      let outcome := node.perform now write
      let entry := node.entryOf now write
      let peers := outcome.node.profile.peers outcome.node.store now
      (outcome.answer ≠ .ok () → outcome.offers = []) ∧
      (outcome.answer = .ok () →
        outcome.offers = peers.map (·, entry) ∧ peers.Pairwise (· < ·) ∧
        ((∀ resident ∈ node.store.get? entry.nodeId, resident.timestamp < .latest) →
          ∀ uri, uri ∈ peers ↔ node.PeerAfter now entry uri))) ∧
    (∀ (σ : Type) (network : Network (StateM σ)) state base entry,
      let exchanges := ((Peer.offer network base entry).run state).1.exchanges
      (∀ first ∈ exchanges.head?, first.call.Posts (Entry.form.write entry).compact) ∧
        ∀ exchange ∈ exchanges, ∀ body ∈ exchange.call.body,
          Entry.form.parse body = .ok entry) ∧
    ∀ (node : Node) requester, node.admitReplication requester = .ok () →
      ∀ entry text listing, Entry.form.Writes entry text → Entry.form.list.Writes [entry] listing →
        ∀ resolver now uri,
          let pushed := node.respond resolver now requester (offerRequest entriesTarget text.toUTF8)
          let pulled := node.take ⟨uri, Peer.fetched uri (.ok ⟨.ok, none, listing.toUTF8⟩)⟩
          pulled.node = (node.merge entry).node ∧
          (text.toUTF8.size ≤ Api.bodyLimit →
            pushed.answer = .plain .ok ∧ pushed.node = pulled.node) ∧
          (Api.bodyLimit < text.toUTF8.size →
            pushed.answer = .plain .payloadTooLarge ∧ pushed.node = node) := by
  refine ⟨fun node now write => ⟨offers_perform_of_refused, fun accepted => ?_⟩,
    fun σ network state base entry => Peer.offer_carries network state base entry, ?_⟩
  · refine ⟨offers_perform_of_accepted accepted, Profile.pairwise_distinct _, fun early uri => ?_⟩
    exact mem_peers_perform_iff accepted early
  · intro node requester admitted entry text listing written listed resolver now uri pushed pulled
    have read : pulled.node = (node.merge entry).node := by
      simp only [pulled, Peer.fetched_of_writes listed uri]
      exact node.node_take_singleton uri entry
    refine ⟨read, fun short => ?_, fun long => ?_⟩
    · -- Both ways lead to the merge of the entry.
      obtain ⟨answer, after⟩ := respond_offer admitted written short resolver now
      exact ⟨answer, after.trans read.symm⟩
    · have turnedAway := respond_offer_of_long written long node resolver now requester
      rw [show pushed = _ from turnedAway]
      exact ⟨rfl, rfl⟩

/-- An announcement of a discovery service that is reached at a URI. -/
def announcingAt (uri : String) : Announcement where
  environment := "test"
  pool := "fleet"
  location := "here"
  services := [⟨some "d", some discoveryKind, some (Index.ofList [("http", uri)])⟩]
  maxAge := none

/-- A node offers the announcement of another discovery node to this one too, and its deletion to
the seed alone; what it offers is taken as it would be read. -/
theorem offered_once_to_each_peer_and_taken_as_read_pair :
    let profile := { Profile.checking with guarded := false, seeds := ["http://seed"] }
    let node := start profile
    let announce := Write.announceTrusted "b" (announcingAt "http://b")
    let announced := node.perform 5 announce
    let entry := node.entryOf 5 announce
    let deleted := announced.node.perform 5 (.deleteTrusted "b")
    let text := (Entry.form.write entry).compact
    let receiver := start { profile with nodeId := "b" }
    let peer : Address := .v4 #v[10, 0, 0, 1]
    announced.offers = [("http://b", entry), ("http://seed", entry)] ∧
      deleted.offers = [("http://seed", .tombstone "b" 6 none)] ∧
      (receiver.respond .literals 7 peer (offerRequest entriesTarget text.toUTF8)).node =
        (receiver.merge entry).node := by
  intro profile node announce announced entry deleted text receiver peer
  obtain ⟨writes, -, taken⟩ := offered_once_to_each_peer_and_taken_as_read
  have peers : announced.node.profile.peers announced.node.store 5 =
      ["http://b", "http://seed"] := by decide +kernel
  -- Once the peer's own entry is deleted, only the seed is left to be told.
  have others : deleted.node.profile.peers deleted.node.store 5 = ["http://seed"] := by
    decide +kernel
  have offered := ((writes node 5 announce).2 (by decide +kernel)).1
  have withdrawn := ((writes announced.node 5 (.deleteTrusted "b")).2 rfl).1
  refine ⟨offered.trans (by rw [peers]; rfl), withdrawn.trans ?_, ?_⟩
  · rw [show (announced.node.perform 5 (.deleteTrusted "b")).node = deleted.node from rfl, others]
    decide +kernel
  · obtain ⟨read, short, -⟩ := taken receiver peer (by decide) entry text _
      (Entry.form.writes_compact entry) (Entry.form.list.writes_compact [entry]) .literals 7
      "http://own"
    exact (short (by decide +kernel)).2.trans read

/-- Whether a node accepts a request and offers its entry, and a node that lets the requester
replicate turns the offer away, although it would take the entry in if it had read it. -/
structure OfferedInVain (node : Node) (now : Millis) (write : Write) (receiver : Node)
    (requester : Address) : Prop where
  accepted : (node.perform now write).answer = .ok ()
  offered : ∃ peer, (peer, node.entryOf now write) ∈ (node.perform now write).offers
  admitted : receiver.admitReplication requester = .ok ()
  turnedAway : let text := (Entry.form.write (node.entryOf now write)).compact
    ∀ resolver, receiver.respond resolver now requester (offerRequest entriesTarget text.toUTF8) =
      receiver.unchanged (.plain .payloadTooLarge)
  read : let entry := node.entryOf now write
    let listing := (Entry.form.list.write [entry]).compact
    ∀ uri, let pulled := receiver.take ⟨uri, Peer.fetched uri (.ok ⟨.ok, none, listing.toUTF8⟩)⟩
      pulled.node.store.get? entry.nodeId = some entry

/-- An announcement of two services at a location. -/
def twofold (location : String) : Announcement where
  environment := "test"
  pool := generalPool
  location
  services := [⟨some "s", some "web", some ∅⟩, ⟨some "t", some "web", some ∅⟩]
  maxAge := none

/-- The announcement is sound if the location has a name. -/
theorem isSound_twofold {location : String} (named : location ≠ "") :
    (twofold location).IsSound where
  -- The location is the only part that is not fixed.
  environment := (by decide : "test" ≠ "")
  pool := (by decide : generalPool ≠ "")
  location := named
  age := by simp [twofold]
  services := by
    intro service listed
    -- No check of a service looks at the announcement's location, so one location stands for all.
    have complete : ∀ service ∈ (twofold "x").services,
        Announcement.serviceFault? 0 service = none := by decide
    exact Announcement.serviceFault?_eq_none_iff.1 (complete service listed)

/-- A node that lets everyone pass, with one seed. -/
def seeded : Node := start { Profile.checking with guarded := false, seeds := ["http://peer"] }

/-- If a location is so long that two of it fill a request, its announcement is offered in vain. -/
theorem offeredInVain_twofold {location : String} (long : 1048576 ≤ location.length)
    (client : Address) :
    seeded.OfferedInVain 5 (.announce .literals "n" (twofold location) client) seeded client := by
  have accepted : (seeded.perform 5 (.announce .literals "n" (twofold location) client)).answer =
      .ok () := by
    have named : location ≠ "" := by
      rintro rfl
      exact absurd long (by decide)
    have valid : seeded.checkValid (twofold location) = .ok () :=
      checkValid_eq_ok_iff_sound.2 ⟨isSound_twofold named, rfl⟩
    rw [answer_perform]
    show seeded.admitAnnounce .literals "n" (twofold location) client = _
    rw [admitAnnounce, valid]
    rfl
  refine ⟨accepted, ⟨"http://peer", ?_⟩, rfl, fun resolver => ?_, fun uri => ?_⟩
  · -- The seed is a peer whatever is written.
    rw [offers_perform_of_accepted accepted]
    refine List.mem_map.2 ⟨"http://peer", mem_peers_iff.2 (.inl ?_), rfl⟩
    rw [show (seeded.perform 5 (.announce .literals "n" (twofold location) client)).node.profile =
      seeded.profile from profile_act seeded (.write 5 _)]
    decide
  · -- Both services are at the location, so the text holds it twice.
    have places := (seeded.entryOf 5
      (.announce .literals "n" (twofold location) client)).length_flatMap_location_lt
    change (location.toList ++ (location.toList ++ [])).length < _ at places
    simp only [List.length_append, String.length_toList, List.length_nil] at places
    exact respond_offer_of_long (Entry.form.writes_compact _)
      (Nat.lt_of_le_of_lt (by rw [Api.bodyLimit]; omega) places) _ _ _ _
  · simp only [Peer.fetched_of_writes (Entry.form.list.writes_compact _) uri]
    rfl

/-- An entry with two long locations is offered in vain, and an announcement that loses to the last
version leads to no peer. -/
theorem offered_once_to_each_peer_and_taken_as_read_not :
    let client : Address := .v4 #v[10, 0, 0, 9]
    let location := String.ofList (List.replicate 1048576 'x')
    let held := (seeded.put (.live "b" [] .latest 90 none)).node
    let announced := held.perform 5 (.announceTrusted "b" (announcingAt "http://b"))
    seeded.OfferedInVain 5 (.announce .literals "n" (twofold location) client) seeded client ∧
      announced.answer = .ok () ∧ announced.offers.map Prod.fst = ["http://peer"] := by
  -- The location is too long to be evaluated, but its length is known.
  have long : 1048576 ≤ (String.ofList (List.replicate 1048576 'x')).length := by
    rw [String.length_ofList, List.length_replicate]
  exact ⟨offeredInVain_twofold long _, by decide +kernel⟩

end Node

end Roster
