import Roster.Api
import Roster.Proofs.Node.Ownership
import Roster.Proofs.Store.Outdated
import Roster.Proofs.Trust

/-!
Who gets to replicate. An address is trusted as long as the last look-up found it: through a seed,
through what the node itself or a peer brought, or through a discovery service that a client
announced at a host of its own. An entry without an announcer is anyone's to announce or delete.
-/

namespace Roster

namespace Trust

/-- Whether the host of some service's contact leads to an address. -/
def Leads (resolver : Resolver) (services : List Service) (address : Address) : Prop :=
  ∃ uri ∈ services.filterMap Profile.contact?, address ∈ addressesOf resolver uri

instance (resolver : Resolver) (services : List Service) (address : Address) :
    Decidable (Leads resolver services address) :=
  inferInstanceAs (Decidable (∃ uri ∈ services.filterMap Profile.contact?, _))

/-- The contacts of the services that an announcement makes are contacts of the announcement. -/
theorem mem_contacts_of_contact? {announcement : Announcement} {nodeId uri : String}
    {service : Service} (made : service ∈ announcement.servicesFor nodeId)
    (reached : Profile.contact? service = some uri) : uri ∈ contacts announcement := by
  obtain ⟨submitted, listed, rfl⟩ := List.mem_map.1 made
  refine List.mem_flatMap.2 ⟨submitted, listed, ?_⟩
  cases stated : submitted.properties with
  | none =>
    -- Without properties there is no contact.
    have bare : Properties.get? ∅ Profile.contactKey = none := rfl
    simp [Profile.contact?, stated, bare] at reached
  | some properties =>
    simp only [Profile.contact?, stated, Option.getD_some] at reached
    simp only [contactsOf, stated, List.mem_filterMap]
    exact ⟨Profile.contactKey, by simp [contactKeys, Profile.contactKey], reached⟩

end Trust

namespace Profile

/-- A seed is reached where it says. -/
@[simp] theorem contact?_seedService (profile : Profile) (uri : String) :
    contact? (profile.seedService uri) = some uri := rfl

end Profile

namespace Node

/-- Whether a node shows a service of an entry among the discovery services of its pool. -/
structure Shows (node : Node) (now : Millis) (entry : Entry) (service : Service) : Prop where
  held : node.store.get? entry.nodeId = some entry
  current : entry.isExpired now = false
  listed : service ∈ entry.allServices
  kind : service.kind = discoveryKind
  pool : service.pool ∈ node.profile.migration.aliases node.profile.pool

/-- The announced discovery services that a node knows are those that it shows. -/
theorem mem_announcedDiscovery {node : Node} {now : Millis} {service : Service} :
    service ∈ node.profile.announcedDiscovery node.store now ↔
      ∃ entry, node.Shows now entry service := by
  -- There is always a pool to match, so a service has to be in one of them.
  have named (pool : String) : (node.profile.migration.aliases pool).isEmpty = false := by
    unfold Migration.aliases
    split
    · rfl
    · split <;> rfl
  rw [Profile.announcedDiscovery, Store.mem_filtered_services]
  simp only [Store.wants, Option.all_some, named, Bool.false_or, Bool.and_eq_true, beq_iff_eq,
    List.contains_iff_mem]
  constructor
  · rintro ⟨entry, held, current, listed, kind, pool⟩
    exact ⟨entry, held, current, listed, kind, pool⟩
  · rintro ⟨entry, held, current, listed, kind, pool⟩
    exact ⟨entry, held, current, listed, kind, pool⟩

/-- A look-up finds an address through a seed or through a discovery service that is shown. -/
theorem mem_trusted_refresh {node : Node} {resolver : Resolver} {now : Millis}
    {address : Address} :
    address ∈ (node.refresh resolver now).trusted ↔
      (∃ uri ∈ node.profile.seeds, address ∈ Trust.addressesOf resolver uri) ∨
        ∃ entry service, node.Shows now entry service ∧ Trust.Leads resolver [service] address := by
  simp only [refresh, Trust.mem_addresses, Profile.discovery, List.filterMap_append,
    List.filterMap_map, List.mem_append, or_and_right, exists_or]
  refine or_congr ?_ ?_
  · -- Seeds are services made up for their URIs, so they are reached there.
    simp [Function.comp_def]
  · simp only [List.mem_filterMap, mem_announcedDiscovery, Trust.Leads, List.mem_singleton]
    constructor
    · rintro ⟨uri, ⟨service, ⟨entry, shows⟩, reached⟩, leads⟩
      exact ⟨entry, service, shows, uri, ⟨service, rfl, reached⟩, leads⟩
    · rintro ⟨entry, service, shows, uri, ⟨_, rfl, reached⟩, leads⟩
      exact ⟨uri, ⟨_, ⟨entry, shows⟩, reached⟩, leads⟩

/-- Whether an action is a request to write of a client. -/
def Action.isOfClient : Action → Bool
  | .write _ (.announce _ _ _ _) => true
  | .write _ (.delete _ _ _) => true
  | _ => false

/-- Whether at no look-up of a run an address is reached through a seed, or through what the node
itself wrote or a peer brought. -/
def Outsider (profile : Profile) (actions : List Action) (address : Address) : Prop :=
  ∀ resolver now, .refresh resolver now ∈ actions →
    (∀ uri ∈ profile.seeds, address ∉ Trust.addressesOf resolver uri) ∧
    Along (fun node action => action.isOfClient = false → ∀ entry, node.Brings action entry →
      ¬Trust.Leads resolver entry.allServices address) (start profile) actions

/-- Whether a client's accepted announcement made an address trusted at the last look-up of a run:
of a discovery service in the node's pool, at a host that leads to the address, and that led to the
client when the announcement was checked. -/
def Promoted (profile : Profile) (actions : List Action) (address : Address) : Prop :=
  ∃ earlier now look nodeId announcement client between resolver time after service,
    let announce := Write.announce look nodeId announcement client
    let announced := (start profile).run earlier
    let before := earlier ++ .write now announce :: between
    actions = before ++ .refresh resolver time :: after ∧
      (∀ resolver time, .refresh resolver time ∉ after) ∧
      announced.verdict announce = .ok () ∧
      ((start profile).run before).Shows time (announced.entryOf now announce) service ∧
      Trust.Leads resolver [service] address ∧
      Trust.Leads look [service] client.canonical

/-- A client whose contacts are checked is led to by every contact that it announces. -/
theorem leads_of_verdict_announce {node : Node} (guarded : node.profile.guarded = true)
    {resolver : Resolver} {now : Millis} {nodeId : String} {announcement : Announcement}
    {client : Address}
    (accepted : node.verdict (.announce resolver nodeId announcement client) = .ok ())
    {service : Service}
    (listed : service ∈
      (node.entryOf now (.announce resolver nodeId announcement client)).allServices)
    {uri : String} (reached : Profile.contact? service = some uri) :
    Trust.Leads resolver [service] client.canonical := by
  -- The contacts of an accepted announcement all lead to its client, and this address is one of
  -- them.
  obtain ⟨-, -, -, passed⟩ := (verdict_announce_eq_ok_iff guarded).1 accepted
  refine ⟨uri, by simp [reached], ?_⟩
  exact Trust.checkContacts_eq_ok_iff.1 passed uri (Trust.mem_contacts_of_contact? listed reached)

/-- A client brings services only by an announcement that was accepted. -/
theorem Brings.announced {node : Node} {action : Action} {entry : Entry}
    (brings : node.Brings action entry) (byClient : action.isOfClient = true) {service : Service}
    (listed : service ∈ entry.allServices) :
    ∃ now look nodeId announcement client,
      action = .write now (.announce look nodeId announcement client) ∧
      node.verdict (.announce look nodeId announcement client) = .ok () ∧
      entry = node.entryOf now (.announce look nodeId announcement client) := by
  cases brings with
  | @write now write accepted =>
    rw [answer_perform] at accepted
    cases write with
    | announce look nodeId announcement client =>
      exact ⟨now, look, nodeId, announcement, client, rfl, accepted, rfl⟩
    | delete =>
      -- A tombstone has no services.
      cases listed
    | announceTrusted => cases byClient
    | deleteTrusted => cases byClient
  | merge => cases byClient
  | accept => cases byClient

/-- An outsider is trusted exactly if a client's announcement promoted it. -/
theorem mem_trusted_run_iff_promoted {profile : Profile} (guarded : profile.guarded = true)
    {actions : List Action} {address : Address} (outsider : Outsider profile actions address) :
    address ∈ ((start profile).run actions).trusted ↔ Promoted profile actions address := by
  constructor
  · intro trusted
    rcases (start profile).trusted_run_cases actions with
      ⟨-, kept⟩ | ⟨before, resolver, time, after, rfl, last, found⟩
    · -- Nobody is trusted at the start.
      rw [kept] at trusted
      cases trusted
    · obtain ⟨unseeded, along⟩ := outsider resolver time (by simp)
      rw [found, mem_trusted_refresh, profile_run] at trusted
      rcases trusted with ⟨uri, seed, leads⟩ | ⟨entry, service, shows, leads⟩
      · exact absurd leads (unseeded uri seed)
      · obtain ⟨uri, member, there⟩ := leads
        have reached : Profile.contact? service = some uri := by simpa using member
        -- What was shown was brought by an action of the run, for nothing is held at the start.
        rcases get?_run_cases shows.held with early | ⟨earlier, action, between, rfl, brings⟩
        · cases early
        · cases byClient : action.isOfClient with
          | false =>
            -- Neither the node itself nor a peer brought what leads to the address.
            rw [List.append_assoc, List.cons_append] at along
            refine absurd ⟨uri, ?_, there⟩ (along.at byClient entry brings)
            exact List.mem_filterMap.2 ⟨service, shows.listed, reached⟩
          | true =>
            obtain ⟨now, look, nodeId, announcement, client, rfl, accepted, rfl⟩ :=
              brings.announced byClient shows.listed
            have checked : ((start profile).run earlier).profile.guarded = true := by
              rw [profile_run]
              exact guarded
            have own := leads_of_verdict_announce checked accepted shows.listed reached
            exact ⟨earlier, now, look, nodeId, announcement, client, between, resolver, time,
              after, service, rfl, last, accepted, shows, ⟨uri, member, there⟩, own⟩
  · rintro ⟨earlier, now, look, nodeId, announcement, client, between, resolver, time, after,
      service, rfl, last, accepted, shows, leads, -⟩
    -- After the last look-up nobody is trusted anew or no longer.
    rw [run_append, run_cons, trusted_run last]
    exact mem_trusted_refresh.2 (.inr ⟨_, service, shows, leads⟩)

/-- Where a node gives its entries away and takes those of others. -/
def entriesTarget : String := "/v1/store/dynamic"

/-- What is asked for where the entries are is the entries. -/
theorem ofTarget?_entriesTarget : Api.Route.ofTarget? entriesTarget = some .entries := by
  -- The target is routed segment by segment.
  decide +kernel

/-- A peer that asks for the entries gets a snapshot, or is turned down. -/
theorem respond_get {node : Node} {request : Http.Request}
    (leads : Api.Route.ofTarget? request.target = some .entries) (method : request.method = "GET")
    (resolver : Resolver) (now : Millis) (requester : Address) :
    node.respond resolver now requester request = (node.snapshot requester).map Api.read := by
  -- Reading is allowed where the entries are, and nothing in the path has to be decoded.
  simp [respond, leads, method, Api.Route.methods, Api.Route.decoded?, Api.perform, Api.get]

/-- A peer that asks about the entries gets a snapshot without its content, or is turned down. -/
theorem respond_head {node : Node} {request : Http.Request}
    (leads : Api.Route.ofTarget? request.target = some .entries) (method : request.method = "HEAD")
    (resolver : Resolver) (now : Millis) (requester : Address) :
    node.respond resolver now requester request =
      ((node.snapshot requester).map Api.read).map Http.Response.bare := by
  -- The content is dropped only from an answer that would have had it.
  simp [respond, leads, method, Api.Route.methods, Api.Route.decoded?, Api.perform, Api.get]

/-- An entry that a peer sends is merged, or the peer is turned down. -/
theorem respond_post {node : Node} {request : Http.Request}
    (leads : Api.Route.ofTarget? request.target = some .entries) (method : request.method = "POST")
    {entry : Entry} (sent : Api.readBody Entry.form request = .ok entry) (resolver : Resolver)
    (now : Millis) (requester : Address) :
    node.respond resolver now requester request =
      (node.acceptOffer entry requester).map (Api.written .ok) := by
  -- What the content holds is read before the peer is checked.
  simp [respond, leads, method, Api.Route.methods, Api.Route.decoded?, Api.perform, Api.post, sent]

/-- Whether a request reads the entries of a node, asks about them, or sends it one, with whatever
query behind the path. -/
def Replicates (request : Http.Request) : Prop :=
  Api.Route.ofTarget? request.target = some .entries ∧
    (request.method = "GET" ∨ request.method = "HEAD" ∨
      request.method = "POST" ∧ ∃ entry, Api.readBody Entry.form request = .ok entry)

/-- Whether a node forbids an address to replicate, so that no such request changes anything. -/
def Refuses (node : Node) (requester : Address) : Prop :=
  ∀ resolver now request, Replicates request →
    node.respond resolver now requester request =
      ⟨.plain .forbidden, node, [.refused ⟨requester.canonical, none, .stranger⟩]⟩

/-- Whoever is not trusted is a stranger to a node that checks requesters. -/
theorem checkReplicate_of_stranger {node : Node} (guarded : node.profile.guarded = true)
    {requester : Address} (stranger : requester.canonical ∉ node.trusted) :
    node.checkReplicate requester =
      .error (.forbidden ⟨requester.canonical, none, .stranger⟩) := by
  -- The check is in force, and the address is not among the trusted.
  rw [checkReplicate, guard, if_pos guarded, Trust.checkReplicate, if_neg stranger]
  rfl

/-- A node forbids whom it does not trust to replicate, and nobody else. -/
theorem refuses_iff {node : Node} (active : node.profile.dynamic = true)
    (guarded : node.profile.guarded = true) {requester : Address} :
    node.Refuses requester ↔ requester.canonical ∉ node.trusted := by
  constructor
  · -- One request that would be answered is enough: a trusted address reads the entries.
    intro refuses trusted
    let request : Http.Request := ⟨"GET", entriesTarget, none, .empty⟩
    have answered := refuses .literals 0 request ⟨ofTarget?_entriesTarget, .inl rfl⟩
    rw [respond_get ofTarget?_entriesTarget rfl] at answered
    have status := congrArg (fun outcome => outcome.answer.status) answered
    simp [snapshot, active, checkReplicate, guard, guarded, Trust.checkReplicate, trusted] at status
    cases status
  · rintro stranger resolver now request ⟨leads, method | method | ⟨method, entry, sent⟩⟩
    · rw [respond_get leads method]
      simp only [snapshot, active, checkReplicate_of_stranger guarded stranger]
      rfl
    · -- An answer without content stays as it is.
      rw [respond_head leads method]
      simp only [snapshot, active, checkReplicate_of_stranger guarded stranger]
      rfl
    · rw [respond_post leads method sent]
      simp only [acceptOffer, active, checkReplicate_of_stranger guarded stranger]
      rfl

/-- The address that makes a request, if an action is one. -/
def Action.requester? : Action → Option Address
  | .write _ (.announce _ _ _ requester) => some requester
  | .write _ (.delete _ _ requester) => some requester
  | .accept _ requester => some requester
  | .snapshot requester => some requester
  | _ => none

/-- The entry by which a client takes a node id over that nobody owns: that of a deletion, or that
of a valid announcement all of whose contacts lead to the client. -/
def Action.seizure? (node : Node) (nodeId : String) : Action → Option Entry
  | .write now (.announce resolver target announcement requester) =>
    if target = nodeId ∧ announcement.faultIn? node.profile.environment = none ∧
        ∀ uri ∈ Trust.contacts announcement,
          requester.canonical ∈ Trust.addressesOf resolver uri then
      some (node.entryFor now nodeId announcement (some requester.canonical.text))
    else none
  | .write now (.delete _ target _) =>
    if target = nodeId then some (node.tombstoneFor now nodeId) else none
  | _ => none

/-- An announcement is found valid exactly if there is no fault in it. -/
theorem checkValid_eq_ok_iff {node : Node} {announcement : Announcement} :
    node.checkValid announcement = .ok () ↔
      announcement.faultIn? node.profile.environment = none := by
  -- The answer of the check is the fault it finds, or none.
  unfold checkValid
  cases announcement.faultIn? node.profile.environment <;> simp

/-- An accepted request stores its entry over an earlier resident. -/
theorem get?_act_write_of_verdict {node : Node} {write : Write}
    (accepted : node.verdict write = .ok ()) (now : Millis)
    (early : ∀ resident, node.store.get? (node.entryOf now write).nodeId = some resident →
      resident.timestamp < .latest) :
    (node.act (.write now write)).node.store.get? (node.entryOf now write).nodeId =
      some (node.entryOf now write) := by
  -- The entry is issued past its resident, so once accepted it takes the place.
  rw [← node.answer_perform now] at accepted
  change (node.perform now write).node.store.get? _ = _
  rw [store_perform_of_accepted accepted]
  exact (node.issues_entryOf now write).get?_put early

/-- A request that is turned down or writes another node id leaves what a node id leads to. -/
theorem get?_act_write_of_ne {node : Node} {now : Millis} {write : Write} {nodeId : String}
    (other : node.verdict write = .ok () → (node.entryOf now write).nodeId ≠ nodeId) :
    (node.act (.write now write)).node.store.get? nodeId = node.store.get? nodeId := by
  -- Refused, nothing is written; accepted, another node id is.
  change (node.perform now write).node.store.get? nodeId = _
  cases result : node.verdict write with
  | error rejection => rw [perform_of_verdict_error result]; rfl
  | ok =>
    have accepted : (node.perform now write).answer = .ok () := by rw [answer_perform, result]
    rw [store_perform_of_accepted accepted, Store.get?_put, if_neg fun both => other result both.2]

/-- What nobody owns, a client that may not replicate can take over, and only so. -/
theorem get?_act_unowned {node : Node} (active : node.profile.dynamic = true)
    (guarded : node.profile.guarded = true) {nodeId : String} {resident : Entry}
    (found : node.store.get? nodeId = some resident) (unowned : resident.announcer = none)
    (early : resident.timestamp < .latest) {action : Action} {requester : Address}
    (made : action.requester? = some requester) (stranger : requester.canonical ∉ node.trusted) :
    (node.act action).node.store.get? nodeId =
      some ((action.seizure? node nodeId).getD resident) := by
  have before : ∀ other, node.store.get? nodeId = some other → other.timestamp < .latest := by
    intro other held
    rw [found] at held
    exact Option.some.inj held ▸ early
  -- Whoever asks passes for the owner.
  have free (resolver : Resolver) (deed : Deed) :
      Trust.checkOwner node.store resolver deed nodeId requester.canonical = .ok () := by
    simp [Trust.checkOwner, found, unowned]
  cases action with
  | write now write =>
    cases write with
    | announce resolver target announcement client =>
      obtain rfl : client = requester := Option.some.inj made
      by_cases seized : target = nodeId ∧ announcement.faultIn? node.profile.environment = none ∧
          ∀ uri ∈ Trust.contacts announcement,
            client.canonical ∈ Trust.addressesOf resolver uri
      · obtain ⟨rfl, valid, own⟩ := seized
        have accepted : node.verdict (.announce resolver target announcement client) = .ok () :=
          (verdict_announce_eq_ok_iff guarded).2 ⟨active, checkValid_eq_ok_iff.2 valid,
            free resolver .announce, Trust.checkContacts_eq_ok_iff.2 own⟩
        rw [Action.seizure?, if_pos ⟨rfl, valid, own⟩]
        exact get?_act_write_of_verdict accepted now before
      · -- If it were accepted for this node id, it would be one that takes over.
        rw [Action.seizure?, if_neg seized, Option.getD_none, ← found]
        refine get?_act_write_of_ne fun accepted same => ?_
        obtain rfl : target = nodeId := same
        obtain ⟨-, valid, -, passed⟩ := (verdict_announce_eq_ok_iff guarded).1 accepted
        exact seized ⟨rfl, checkValid_eq_ok_iff.1 valid, Trust.checkContacts_eq_ok_iff.1 passed⟩
    | delete resolver target client =>
      obtain rfl : client = requester := Option.some.inj made
      by_cases seized : target = nodeId
      · obtain rfl := seized
        have accepted : node.verdict (.delete resolver target client) = .ok () :=
          (verdict_delete_eq_ok_iff guarded).2 ⟨active, free resolver .delete⟩
        rw [Action.seizure?, if_pos rfl]
        exact get?_act_write_of_verdict accepted now before
      · rw [Action.seizure?, if_neg seized, Option.getD_none, ← found]
        exact get?_act_write_of_ne fun _ => seized
    | announceTrusted => cases made
    | deleteTrusted => cases made
  | accept entry client =>
    -- To replicate is all that is left, and that is forbidden.
    obtain rfl : client = requester := Option.some.inj made
    have refused := checkReplicate_of_stranger guarded stranger
    simp only [act, acceptOffer, active, refused]
    exact found
  | snapshot client =>
    obtain rfl : client = requester := Option.some.inj made
    have refused := checkReplicate_of_stranger guarded stranger
    simp only [act, snapshot, active, refused]
    exact found
  | _ => cases made

/-- The announcement of a discovery service that is reached at an address. -/
def discoveryAt (uri : String) : Announcement :=
  ⟨"test", generalPool, "here",
    [⟨some "s", some discoveryKind, some (Index.ofList [(Profile.contactKey, uri)])⟩], none⟩

/--
An outsider gets to replicate only by a client's announcement, and what nobody owns is anyone's.

Let no look-up of a run reach an address through a seed, or through what the node itself wrote or a
peer brought. Then reading entries and sending them is forbidden to the address, unless a client's
announcement of a discovery service promoted it. An entry without an announcer, such as the node's
own, gives way to a deletion by a client, and to a valid announcement all of whose contacts lead to
the client, but to no other request of a client that may not replicate. The next valid announcement
by the node itself takes the place of whatever is there.
-/
theorem outsider_refused_iff_not_promoted {profile : Profile} (active : profile.dynamic = true)
    (guarded : profile.guarded = true) {actions : List Action} {requester : Address}
    (outsider : Outsider profile actions requester.canonical) :
    let final := (start profile).run actions
    (final.Refuses requester ↔ ¬Promoted profile actions requester.canonical) ∧
    ∀ nodeId resident, final.store.get? nodeId = some resident → resident.timestamp < .latest →
      (resident.announcer = none → final.Refuses requester →
        ∀ action : Action, action.requester? = some requester →
          (final.act action).node.store.get? nodeId =
            some ((action.seizure? final nodeId).getD resident)) ∧
      ∀ now announcement, announcement.faultIn? profile.environment = none →
        (final.announceTrusted now nodeId announcement).node.store.get? nodeId =
          some (final.entryFor now nodeId announcement none) := by
  intro final
  have same : final.profile = profile := profile_run _ _
  have finalActive : final.profile.dynamic = true := same ▸ active
  have finalGuarded : final.profile.guarded = true := same ▸ guarded
  refine ⟨?_, fun nodeId resident found early => ⟨?_, ?_⟩⟩
  · rw [refuses_iff finalActive finalGuarded, mem_trusted_run_iff_promoted guarded outsider]
  · intro unowned refuses action made
    exact get?_act_unowned finalActive finalGuarded found unowned early made
      ((refuses_iff finalActive finalGuarded).1 refuses)
  · -- The node never checks itself, so validity is all that it takes.
    intro now announcement valid
    have accepted : final.verdict (.announceTrusted nodeId announcement) = .ok () :=
      checkValid_eq_ok_iff.2 (same ▸ valid)
    refine get?_act_write_of_verdict accepted now fun other held => ?_
    rw [show final.store.get? nodeId = some other from held] at found
    exact Option.some.inj found ▸ early

/-- A client that may not replicate deletes the node's own entry. -/
theorem outsider_refused_iff_not_promoted_after_refresh :
    let profile := { Profile.checking with seeds := ["http://10.0.0.2:4111"] }
    let stranger : Address := .v4 #v[10, 0, 0, 9]
    let actions : List Action :=
      [.write 1 (.announceTrusted "own" (discoveryAt "http://10.0.0.1:4111")),
        .write 2 (.announce .literals "other" { discoveryAt "http://10.0.0.9:4111" with
          pool := "elsewhere" } stranger),
        .refresh .literals 3]
    let final := (start profile).run actions
    Outsider profile actions stranger.canonical ∧
      (final.Refuses stranger ∧ ¬Promoted profile actions stranger.canonical) ∧
      (final.act (.write 4 (.delete .literals "own" stranger))).node.store.get? "own" =
        some (.tombstone "own" 4 none) := by
  intro profile stranger actions final
  -- At the one look-up neither the seed nor the node's own address leads to the stranger.
  have outsider : Outsider profile actions stranger.canonical := by
    intro resolver now member
    obtain ⟨rfl, rfl⟩ : resolver = .literals ∧ now = 3 := by simpa [actions] using member
    refine ⟨by decide +kernel, ⟨fun _ entry brings => ?_, ⟨nofun, ⟨fun _ _ => nofun, trivial⟩⟩⟩⟩
    cases brings
    decide +kernel
  have settled := outsider_refused_iff_not_promoted rfl rfl outsider
  have forbids : final.Refuses stranger ↔ stranger.canonical ∉ final.trusted :=
    refuses_iff (congrArg Profile.dynamic (profile_run _ _))
      (congrArg Profile.guarded (profile_run _ _))
  -- The stranger did announce a discovery service, but in another pool than the node's.
  have refuses : final.Refuses stranger :=
    forbids.2 fun trusted => absurd (Trust.mem_addresses.1 trusted) (by decide +kernel)
  have found : final.store.get? "own" = some ((start profile).entryOf 1
      (.announceTrusted "own" (discoveryAt "http://10.0.0.1:4111"))) := by
    decide +kernel
  let deletion : Action := .write 4 (.delete .literals "own" stranger)
  have seized := (settled.2 "own" _ found (by decide +kernel)).1 rfl refuses deletion rfl
  -- The node announced itself without a client, and such an entry has no owner to protect it.
  have tombstone : deletion.seizure? final "own" = some (.tombstone "own" 4 none) := by
    decide +kernel
  rw [tombstone] at seized
  exact ⟨outsider, ⟨refuses, settled.1.1 refuses⟩, seized⟩

/-- A client that announces a discovery service of its own gets to replicate, and to delete the
node's own entry. -/
theorem client_promotes_itself :
    let stranger : Address := .v4 #v[10, 0, 0, 9]
    let own := Write.announceTrusted "own" (discoveryAt "http://10.0.0.1:4111")
    let actions : List Action :=
      [.write 1 own,
        .write 2 (.announce .literals "other" (discoveryAt "http://10.0.0.9:4111") stranger),
        .refresh .literals 3]
    let final := (start Profile.checking).run actions
    Outsider Profile.checking actions stranger.canonical ∧ ¬final.Refuses stranger ∧
      final.store.get? "own" = some ((start Profile.checking).entryOf 1 own) ∧
      (final.act (.write 4 (.delete .literals "own" stranger))).node.store.get? "own" =
        some (.tombstone "own" 4 none) := by
  intro stranger own actions final
  -- Only a client's announcement leads to the stranger, and an outsider may have made one.
  have outsider : Outsider Profile.checking actions stranger.canonical := by
    intro resolver now member
    obtain ⟨rfl, rfl⟩ : resolver = .literals ∧ now = 3 := by simpa [actions, own] using member
    refine ⟨by decide +kernel, ⟨fun _ entry brings => ?_, ⟨nofun, ⟨fun _ _ => nofun, trivial⟩⟩⟩⟩
    cases brings
    decide +kernel
  -- Its discovery service stands in the node's own pool, so the refresh trusts the address it
  -- names.
  have trusted : stranger.canonical ∈ final.trusted := Trust.mem_addresses.2 (by decide +kernel)
  have forbids : final.Refuses stranger ↔ stranger.canonical ∉ final.trusted :=
    refuses_iff (congrArg Profile.dynamic (profile_run _ _))
      (congrArg Profile.guarded (profile_run _ _))
  have refused : ¬final.Refuses stranger := fun refuses => forbids.1 refuses trusted
  exact ⟨outsider, refused, by decide +kernel, by decide +kernel⟩

end Node

end Roster
