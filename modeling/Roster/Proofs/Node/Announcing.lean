import Roster.Proofs.Announcement
import Roster.Proofs.Node.Admission

/-!
Which announcements a node takes from clients. It takes a sound one for its environment, from the
owner of the node id or where nobody owns it, if all contacts lead to the client. What it refuses to
the client is refused for the owner, or else for the first contact that leads elsewhere.
-/

namespace Roster

namespace Trust

/-- Whoever is refused to announce is refused as the owner, or passes for it and is refused for a
contact. -/
theorem checkAnnounce_eq_error_iff {store : Store} {resolver : Resolver} {nodeId : String}
    {announcement : Announcement} {requester : Address} {refusal : Refusal} :
    checkAnnounce store resolver nodeId announcement requester = .error refusal ↔
      checkOwner store resolver .announce nodeId requester.canonical = .error refusal ∨
        (checkOwner store resolver .announce nodeId requester.canonical = .ok () ∧
          checkContacts resolver nodeId requester.canonical (contacts announcement) =
            .error refusal) := by
  -- The owner is checked first, and the contacts only once that has passed.
  unfold checkAnnounce
  cases checkOwner store resolver .announce nodeId requester.canonical <;> simp

end Trust

namespace Node

variable {node : Node} {resolver : Resolver} {nodeId : String} {announcement : Announcement}
  {requester : Address}

/-- What has to hold for a node that checks requesters to take an announcement from an address. -/
structure Admits (node : Node) (resolver : Resolver) (nodeId : String)
    (announcement : Announcement) (address : Address) : Prop where
  sound : announcement.IsSound
  environment : announcement.environment = node.profile.environment
  -- Whatever is there has no announcer, or one that the address is found for.
  owner : ∀ resident ∈ node.store.get? nodeId,
    ∀ owner ∈ resident.announcer, resolver.Finds owner address
  contacts : ∀ service ∈ announcement.services, Trust.AllLead resolver address service

/-- An announcement is valid for a node if it is sound and for the node's environment. -/
theorem checkValid_eq_ok_iff_sound :
    node.checkValid announcement = .ok () ↔
      announcement.IsSound ∧ announcement.environment = node.profile.environment := by
  rw [checkValid_eq_ok_iff, Announcement.faultIn?_eq_none_iff]

/-- A node that checks requesters lets exactly those announcements pass that it admits. -/
theorem verdict_announce_eq_ok_iff_admits (active : node.profile.dynamic = true)
    (guarded : node.profile.guarded = true) :
    node.verdict (.announce resolver nodeId announcement requester) = .ok () ↔
      node.Admits resolver nodeId announcement requester.canonical := by
  -- Both sides list the same four conditions; only the owner is said in terms of the resident here
  -- and of its announcer there.
  rw [verdict_announce_eq_ok_iff guarded, checkValid_eq_ok_iff_sound, Trust.checkOwner_eq_ok_iff,
    Trust.checkContacts_contacts_eq_ok_iff]
  simp only [Option.mem_def, Option.bind_eq_some_iff]
  constructor
  · rintro ⟨-, ⟨sound, environment⟩, owner, contacts⟩
    exact ⟨sound, environment,
      fun resident found name announced => owner name ⟨resident, found, announced⟩, contacts⟩
  · rintro ⟨sound, environment, owner, contacts⟩
    exact ⟨active, ⟨sound, environment⟩,
      fun name ⟨resident, found, announced⟩ => owner resident found name announced, contacts⟩

/-- An announcement is valid, or it is turned down for a fault of its own. -/
theorem checkValid_cases (node : Node) (announcement : Announcement) :
    node.checkValid announcement = .ok () ∨
      ∃ fault, node.checkValid announcement = .error (.invalid fault) := by
  -- A check for faults either finds one or finds none.
  unfold checkValid
  cases announcement.faultIn? node.profile.environment with
  | none => exact .inl rfl
  | some fault => exact .inr ⟨fault, rfl⟩

/-- An announcement with a fault is turned down for it before the requester is looked at. -/
theorem verdict_announce_of_fault (active : node.profile.dynamic = true)
    {fault : Announcement.Fault} (faulty : node.checkValid announcement = .error (.invalid fault))
    (resolver : Resolver) (nodeId : String) (requester : Address) :
    node.verdict (.announce resolver nodeId announcement requester) =
      .error (.invalid fault) := by
  -- The contents are checked before the client is.
  simp [verdict, active, admitAnnounce, faulty]

/-- A node that checks requesters finds fault with exactly the announcements that are not valid. -/
theorem verdict_announce_eq_invalid_iff (active : node.profile.dynamic = true)
    (guarded : node.profile.guarded = true) :
    (∃ fault, node.verdict (.announce resolver nodeId announcement requester) =
        .error (.invalid fault)) ↔
      node.checkValid announcement ≠ .ok () := by
  rcases node.checkValid_cases announcement with valid | ⟨fault, faulty⟩
  · -- Whatever the checks of the requester come to, they do not find fault with the announcement.
    rw [verdict_announce active guarded valid, valid]
    cases Trust.checkAnnounce node.store resolver nodeId announcement requester <;>
      simp [Except.mapError]
  · rw [verdict_announce_of_fault active faulty, faulty]
    simp

/-- An active node does not turn announcements down as such. -/
theorem verdict_announce_ne_disabled (active : node.profile.dynamic = true)
    (guarded : node.profile.guarded = true) :
    node.verdict (.announce resolver nodeId announcement requester) ≠ .error .disabled := by
  -- Announcements are in use, so whatever refuses this one comes later than that test.
  rcases node.checkValid_cases announcement with valid | ⟨fault, faulty⟩
  · rw [verdict_announce active guarded valid]
    cases Trust.checkAnnounce node.store resolver nodeId announcement requester <;>
      simp [Except.mapError]
  · rw [verdict_announce_of_fault active faulty]
    simp

/-- A node that checks requesters forbids a valid announcement for the requester alone. -/
theorem verdict_announce_eq_forbidden_iff (active : node.profile.dynamic = true)
    (guarded : node.profile.guarded = true) {refusal : Refusal} :
    node.verdict (.announce resolver nodeId announcement requester) =
        .error (.forbidden refusal) ↔
      node.checkValid announcement = .ok () ∧
        Trust.checkAnnounce node.store resolver nodeId announcement requester =
          .error refusal := by
  -- An invalid announcement is refused for its fault before anybody asks who sent it.
  rcases node.checkValid_cases announcement with valid | ⟨fault, faulty⟩
  · rw [verdict_announce active guarded valid, valid]
    cases Trust.checkAnnounce node.store resolver nodeId announcement requester <;>
      simp [Except.mapError]
  · rw [verdict_announce_of_fault active faulty, faulty]
    simp

/--
A node takes exactly the announcements that it admits, and names the first thing that is wrong.

An active node that checks requesters takes an announcement exactly if this is sound and for the
node's environment, nobody else owns the node id, and all contacts of all services lead to the
client; a look-up that fails finds nobody. It finds fault with what is not sound or not for its
environment. What it forbids is valid: the owner of the node id is not the client, or the owner is
and the contact that is blamed is the first astray, in the order of services and then of keys.
-/
theorem announcement_taken_iff_admitted {node : Node} (active : node.profile.dynamic = true)
    (guarded : node.profile.guarded = true) (resolver : Resolver) (now : Millis)
    (nodeId : String) (announcement : Announcement) (requester : Address) :
    let address := requester.canonical
    let answer := (node.announce resolver now nodeId announcement requester).answer
    let valid := announcement.IsSound ∧ announcement.environment = node.profile.environment
    let announcer := (node.store.get? nodeId).bind Entry.announcer
    (answer = .ok () ↔ node.Admits resolver nodeId announcement address) ∧
    answer ≠ .error .disabled ∧ ((∃ fault, answer = .error (.invalid fault)) ↔ ¬valid) ∧
    ∀ refusal, answer = .error (.forbidden refusal) ↔ valid ∧
      ∃ denial, refusal = ⟨address, some nodeId, denial⟩ ∧
        ((∃ owner ∈ announcer, ¬resolver.Finds owner address ∧
            Trust.Disowns resolver .announce nodeId owner denial) ∨
          ((∀ owner ∈ announcer, resolver.Finds owner address) ∧
            ∃ uri, Trust.FirstAstray resolver announcement address uri ∧
              Trust.Blames resolver uri denial)) := by
  intro address answer valid announcer
  have verdict : answer = node.verdict (.announce resolver nodeId announcement requester) :=
    node.answer_perform now (.announce resolver nodeId announcement requester)
  rw [verdict]
  refine ⟨verdict_announce_eq_ok_iff_admits active guarded,
    verdict_announce_ne_disabled active guarded, ?_, fun refusal => ?_⟩
  · rw [verdict_announce_eq_invalid_iff active guarded]
    exact not_congr checkValid_eq_ok_iff_sound
  · rw [verdict_announce_eq_forbidden_iff active guarded, checkValid_eq_ok_iff_sound,
      Trust.checkAnnounce_eq_error_iff, Trust.checkOwner_eq_error_iff, Trust.checkOwner_eq_ok_iff,
      Trust.checkContacts_contacts_eq_error_iff]
    -- The refusal is the owner's or, the owner having passed, the first astray contact's.
    refine and_congr_right fun _ => ?_
    constructor
    · rintro (⟨owner, announced, stranger, denial, because, rfl⟩ |
        ⟨own, uri, first, denial, because, rfl⟩)
      · exact ⟨denial, rfl, .inl ⟨owner, announced, stranger, because⟩⟩
      · exact ⟨denial, rfl, .inr ⟨own, uri, first, because⟩⟩
    · rintro ⟨denial, rfl, ⟨owner, announced, stranger, because⟩ | ⟨own, uri, first, because⟩⟩
      · exact .inl ⟨owner, announced, stranger, denial, because, rfl⟩
      · exact .inr ⟨own, uri, first, denial, because, rfl⟩

/-- An owner with two addresses announces from one of them, and is refused for the second contact
of a service whose first has nobody behind it. -/
theorem announcement_taken_iff_admitted_by_owner :
    let client : Address := .v6 #v[0, 0, 0, 0, 0, 0xffff, 0x0a00, 0x0009]
    let resolver : Resolver := .table [
      ("owner.example", [.v4 #v[10, 0, 0, 8], .v4 #v[10, 0, 0, 9]]), ("void.example", [])] .literals
    let submitted (id : String) (properties : List (String × String)) : ServiceAnnouncement :=
      ⟨some id, some "web", some (Index.ofList properties)⟩
    let announcing (services : List ServiceAnnouncement) : Announcement :=
      ⟨"test", "general", "here", services, none⟩
    let own := submitted "s" [("admin", "http://owner.example/"), ("http", "http://10.0.0.9:80")]
    let void := submitted "t" [("admin", "nowhere"), ("https", "https://void.example")]
    let node := ((Node.start Profile.checking).put (.live "n" [] 5 10 (some "owner.example"))).node
    (node.announce resolver 6 "n" (announcing [own]) client).answer = .ok () ∧
      (node.announce resolver 6 "n" (announcing [own, void, own]) client).answer =
        .error (.forbidden ⟨.v4 #v[10, 0, 0, 9], some "n", .otherHost "void.example"⟩) := by
  intro client resolver submitted announcing own void node
  have active : node.profile.dynamic = true := by decide
  have guarded : node.profile.guarded = true := by decide
  obtain ⟨accepted, -, -, -⟩ :=
    announcement_taken_iff_admitted active guarded resolver 6 "n" (announcing [own]) client
  obtain ⟨-, -, -, forbidden⟩ := announcement_taken_iff_admitted active guarded resolver 6 "n"
    (announcing [own, void, own]) client
  refine ⟨accepted.2 ⟨by decide, rfl, by decide +kernel, by decide +kernel⟩, ?_⟩
  -- The second service is the first that leads astray: those before it lead to the client, one over
  -- a host of two addresses.
  have first : Trust.FirstAstray resolver (announcing [own, void, own]) client.canonical
      "https://void.example" :=
    ⟨[own], void, [own], rfl, by decide +kernel, ["http"], "https", ["admin"], rfl, by decide,
      by decide, by decide +kernel⟩
  have blamed : Trust.Blames resolver "https://void.example" (.otherHost "void.example") :=
    .elsewhere (by decide +kernel) rfl
  exact (forbidden _).2
    ⟨⟨by decide, rfl⟩, .otherHost "void.example", rfl, .inr ⟨by decide +kernel, _, first, blamed⟩⟩

end Node

end Roster
