import Mathlib.Data.List.Basic
import Roster.Trust

/-!
What look-ups find, and whom the check of a list of contacts names: the first, in the order of the
services and then of the contact properties, that does not lead to the requester.
-/

namespace Roster

namespace Resolver

/-- Whether the look-up of a host finds an address; one that fails finds none. -/
def Finds (resolver : Resolver) (host : String) (address : Address) : Prop :=
  ∃ addresses, resolver host = .ok addresses ∧ address ∈ addresses

/-- Whether a URI has a host for which an address is found. -/
def Locates (resolver : Resolver) (uri : String) (address : Address) : Prop :=
  ∃ host, Uri.hostOf? uri = some host ∧ resolver.Finds host address

variable {resolver : Resolver} {host uri : String} {address : Address}

instance : Decidable (resolver.Finds host address) :=
  match found : resolver host with
  | .error cause => isFalse (by simp [Finds, found])
  | .ok addresses => decidable_of_iff (address ∈ addresses) (by simp [Finds, found])

/-- The addresses of a contact are those that its URI leads to. -/
theorem mem_addressesOf_iff :
    address ∈ Trust.addressesOf resolver uri ↔ resolver.Locates uri address := by
  unfold Trust.addressesOf Locates Finds
  -- Without a host, or with a look-up that fails, there is nothing on either side.
  cases Uri.hostOf? uri with
  | none => simp
  | some host => cases found : resolver host <;> simp [found, Except.toOption]

instance : Decidable (resolver.Locates uri address) :=
  decidable_of_iff _ mem_addressesOf_iff

end Resolver

/-- What a submitted service states under a key. -/
def ServiceAnnouncement.property? (service : ServiceAnnouncement) (key : String) :
    Option String :=
  service.properties.bind (·.get? key)

namespace Trust

variable {resolver : Resolver} {nodeId : String} {requester : Address} {refusal : Refusal}

/-- What a contact that does not lead to the requester is blamed for. -/
inductive Blames (resolver : Resolver) (uri : String) : Denial → Prop
  | unparseable (hostless : Uri.hostOf? uri = none) : Blames resolver uri (.contactUnparseable uri)
  | unresolved {host : String} {cause : Unresolved} (named : Uri.hostOf? uri = some host)
    (failed : resolver host = .error cause) : Blames resolver uri (.contactUnresolved host cause)
  | elsewhere {host : String} {addresses : List Address} (named : Uri.hostOf? uri = some host)
    (found : resolver host = .ok addresses) : Blames resolver uri (.otherHost host)

/-- What an owner that the requester is not is blamed for. -/
inductive Disowns (resolver : Resolver) (deed : Deed) (nodeId owner : String) : Denial → Prop
  | unresolved {cause : Unresolved} (failed : resolver owner = .error cause) :
    Disowns resolver deed nodeId owner (.ownerUnresolved owner cause)
  | other {addresses : List Address} (found : resolver owner = .ok addresses) :
    Disowns resolver deed nodeId owner (.otherOwner deed nodeId owner)

/-- Whether all contacts of a submitted service lead to an address. -/
def AllLead (resolver : Resolver) (address : Address) (service : ServiceAnnouncement) : Prop :=
  ∀ key ∈ ["http", "https", "admin"], ∀ uri ∈ service.property? key, resolver.Locates uri address

instance (resolver : Resolver) (address : Address) (service : ServiceAnnouncement) :
    Decidable (AllLead resolver address service) :=
  inferInstanceAs (Decidable (∀ key ∈ ["http", "https", "admin"], _))

/-- Whether a contact is the first of an announcement that does not lead to an address: all those
of the services before do, and all those of its own service under the keys before. -/
def FirstAstray (resolver : Resolver) (announcement : Announcement) (address : Address)
    (uri : String) : Prop :=
  ∃ before service after, announcement.services = before ++ service :: after ∧
    (∀ earlier ∈ before, AllLead resolver address earlier) ∧
    ∃ keysBefore key keysAfter, ["http", "https", "admin"] = keysBefore ++ key :: keysAfter ∧
      (∀ earlier ∈ keysBefore, ∀ other ∈ service.property? earlier,
        resolver.Locates other address) ∧
      service.property? key = some uri ∧ ¬resolver.Locates uri address

/-- The owner of a resident entry passes if its look-up finds the requester. -/
theorem checkOwner_eq_ok_iff {store : Store} {deed : Deed} :
    checkOwner store resolver deed nodeId requester = .ok () ↔
      ∀ owner ∈ (store.get? nodeId).bind Entry.announcer, resolver.Finds owner requester := by
  -- Without a resident, or with one that nobody announced, everybody passes.
  unfold checkOwner Resolver.Finds
  cases (store.get? nodeId).bind Entry.announcer with
  | none => simp
  | some owner =>
    cases found : resolver owner with
    | error cause => simp [found]
    | ok addresses => by_cases listed : requester ∈ addresses <;> simp [found, listed]

/-- The owner of a resident entry is refused for if its look-up does not find the requester. -/
theorem checkOwner_eq_error_iff {store : Store} {deed : Deed} :
    checkOwner store resolver deed nodeId requester = .error refusal ↔
      ∃ owner ∈ (store.get? nodeId).bind Entry.announcer, ¬resolver.Finds owner requester ∧
        ∃ denial, Disowns resolver deed nodeId owner denial ∧
          refusal = ⟨requester, some nodeId, denial⟩ := by
  unfold checkOwner Resolver.Finds
  cases (store.get? nodeId).bind Entry.announcer with
  | none => simp
  | some owner =>
    simp only [Option.mem_some_iff, exists_eq_left']
    constructor
    -- The check fails in one of two ways, and what it says tells which.
    · intro refused
      cases found : resolver owner with
      | error cause =>
        simp only [found, Except.error.injEq] at refused
        exact ⟨by simp, _, .unresolved found, refused.symm⟩
      | ok addresses =>
        by_cases listed : requester ∈ addresses
        · simp [found, listed] at refused
        · simp only [found, listed, if_false, Except.error.injEq] at refused
          exact ⟨by simpa using listed, _, .other found, refused.symm⟩
    -- Either denial says how the look-up went.
    · rintro ⟨astray, denial, because, rfl⟩
      cases because with
      | unresolved failed => simp only [failed]
      | @other addresses found =>
        have absent : requester ∉ addresses := fun listed => astray ⟨addresses, found, listed⟩
        simp only [found, if_neg absent]

/-- A contact is refused exactly if it does not lead to the requester, and then blamed for it. -/
theorem checkContact_eq_error_iff {uri : String} :
    checkContact resolver nodeId requester uri = .error refusal ↔
      ¬resolver.Locates uri requester ∧
        ∃ denial, Blames resolver uri denial ∧ refusal = ⟨requester, some nodeId, denial⟩ := by
  unfold checkContact Resolver.Locates Resolver.Finds
  constructor
  -- The check fails in one of three ways, and what it says tells which.
  · intro refused
    cases named : Uri.hostOf? uri with
    | none =>
      simp only [named, Except.error.injEq] at refused
      exact ⟨by simp, _, .unparseable named, refused.symm⟩
    | some host =>
      cases found : resolver host with
      | error cause =>
        simp only [named, found, Except.error.injEq] at refused
        exact ⟨by simp [found], _, .unresolved named found, refused.symm⟩
      | ok addresses =>
        by_cases listed : requester ∈ addresses
        · simp [named, found, listed] at refused
        · simp only [named, found, listed, if_false, Except.error.injEq] at refused
          exact ⟨by simpa [found] using listed, _, .elsewhere named found, refused.symm⟩
  -- Each denial says how far the look-up came.
  · rintro ⟨astray, denial, because, rfl⟩
    cases because with
    | unparseable hostless => simp only [hostless]
    | unresolved named failed => simp only [named, failed]
    | @elsewhere host addresses named found =>
      have absent : requester ∉ addresses :=
        fun listed => astray ⟨host, named, addresses, found, listed⟩
      simp only [named, found, if_neg absent]

/-- A look-up finds the addresses that some contact leads to. -/
theorem mem_addresses {resolver : Resolver} {uris : List String} {address : Address} :
    address ∈ addresses resolver uris ↔ ∃ uri ∈ uris, address ∈ addressesOf resolver uri := by
  simp [addresses, List.mem_eraseDups]

/-- A contact passes exactly if its host leads to the requester. -/
theorem checkContact_eq_ok_iff {resolver : Resolver} {nodeId : String} {requester : Address}
    {uri : String} :
    checkContact resolver nodeId requester uri = .ok () ↔
      requester ∈ addressesOf resolver uri := by
  -- An address that names no host, or a host that is not found, leads to nobody.
  unfold checkContact addressesOf
  cases Uri.hostOf? uri with
  | none => simp
  | some host =>
    cases found : resolver host with
    | error cause => simp [found, Except.toOption]
    | ok addresses =>
      simp only [found, Except.toOption, Option.getD_some]
      split <;> simp_all

/-- Contacts pass exactly if the host of each leads to the requester. -/
theorem checkContacts_eq_ok_iff {resolver : Resolver} {nodeId : String} {requester : Address}
    {uris : List String} :
    checkContacts resolver nodeId requester uris = .ok () ↔
      ∀ uri ∈ uris, requester ∈ addressesOf resolver uri := by
  -- The induction is on the contacts, of which all have to pass.
  induction uris with
  | nil => simp [checkContacts]
  | cons uri rest ih =>
    rw [checkContacts, List.forall_mem_cons, ← @checkContact_eq_ok_iff resolver nodeId, ← ih]
    cases checkContact resolver nodeId requester uri with
    | error refusal => simp
    | ok => simp

/-- The check of two lists of contacts in a row comes to the second only if the first passes. -/
theorem checkContacts_append (front back : List String) :
    checkContacts resolver nodeId requester (front ++ back) =
      match checkContacts resolver nodeId requester front with
      | .error refusal => .error refusal
      | .ok () => checkContacts resolver nodeId requester back := by
  -- The induction is on the contacts in front; the first that fails ends the check.
  induction front with
  | nil => rfl
  | cons uri rest ih =>
    rw [List.cons_append, checkContacts, checkContacts, ih]
    cases checkContact resolver nodeId requester uri <;> rfl

/-- The check of contacts that come in groups is settled by the first group that does not pass. -/
theorem checkContacts_flatMap_eq_error_iff {α : Type} {parts : List α}
    {urisOf : α → List String} :
    checkContacts resolver nodeId requester (parts.flatMap urisOf) = .error refusal ↔
      ∃ before part after, parts = before ++ part :: after ∧
        (∀ earlier ∈ before, checkContacts resolver nodeId requester (urisOf earlier) = .ok ()) ∧
        checkContacts resolver nodeId requester (urisOf part) = .error refusal := by
  induction parts with
  | nil => simp [checkContacts]
  | cons head rest ih =>
    rw [List.flatMap_cons, checkContacts_append]
    constructor
    · intro refused
      cases first : checkContacts resolver nodeId requester (urisOf head) with
      | error other =>
        -- The first group is the one, and there is none before it.
        rw [first] at refused
        cases refused
        exact ⟨[], head, rest, rfl, nofun, first⟩
      | ok =>
        rw [first] at refused
        obtain ⟨before, part, after, rfl, passed, here⟩ := ih.1 refused
        exact ⟨head :: before, part, after, rfl, List.forall_mem_cons.2 ⟨first, passed⟩, here⟩
    · rintro ⟨before, part, after, split, passed, refused⟩
      cases before with
      | nil =>
        obtain ⟨rfl, rfl⟩ := List.cons.inj split
        rw [refused]
      | cons first before =>
        obtain ⟨rfl, rfl⟩ := List.cons.inj split
        obtain ⟨first, others⟩ := List.forall_mem_cons.1 passed
        rw [first]
        exact ih.2 ⟨before, part, after, rfl, others, refused⟩

/-- A contact that a service may have is refused exactly if it has one that does not pass. -/
theorem checkContacts_toList_eq_error_iff {contact : Option String} :
    checkContacts resolver nodeId requester contact.toList = .error refusal ↔
      ∃ uri ∈ contact, checkContact resolver nodeId requester uri = .error refusal := by
  -- There is one contact or none.
  cases contact with
  | none => simp [checkContacts]
  | some uri =>
    simp only [Option.toList_some, checkContacts, Option.mem_some_iff, exists_eq_left']
    cases checkContact resolver nodeId requester uri <;> simp

/-- The contacts of a submitted service are what it states under the contact keys, key by key. -/
theorem contactsOf_eq (service : ServiceAnnouncement) :
    contactsOf service =
      ["http", "https", "admin"].flatMap fun key => (service.property? key).toList := by
  -- Without properties there is no contact under any key.
  unfold contactsOf ServiceAnnouncement.property? contactKeys
  cases service.properties with
  | none => rfl
  | some properties => exact List.filterMap_eq_flatMap_toList _ _

/-- The contacts of a submitted service pass exactly if they all lead to the requester. -/
theorem checkContacts_contactsOf_eq_ok_iff {service : ServiceAnnouncement} :
    checkContacts resolver nodeId requester (contactsOf service) = .ok () ↔
      AllLead resolver requester service := by
  -- Looking through the keys in order comes to the same as having each of them.
  rw [checkContacts_eq_ok_iff, contactsOf_eq]
  simp only [List.mem_flatMap, Option.mem_toList, Resolver.mem_addressesOf_iff, AllLead]
  constructor
  · intro lead key listed uri stated
    exact lead uri ⟨key, listed, stated⟩
  · rintro lead uri ⟨key, listed, stated⟩
    exact lead key listed uri stated

/-- The contacts of an announcement pass exactly if those of every service lead to the requester. -/
theorem checkContacts_contacts_eq_ok_iff {announcement : Announcement} :
    checkContacts resolver nodeId requester (contacts announcement) = .ok () ↔
      ∀ service ∈ announcement.services, AllLead resolver requester service := by
  -- The contacts of an announcement are those of its services.
  simp only [← @checkContacts_contactsOf_eq_ok_iff resolver nodeId, checkContacts_eq_ok_iff,
    contacts, List.mem_flatMap]
  constructor
  · intro lead service listed uri stated
    exact lead uri ⟨service, listed, stated⟩
  · rintro lead uri ⟨service, listed, stated⟩
    exact lead service listed uri stated

/-- The check of the contacts of an announcement blames the first that is astray, and no other. -/
theorem checkContacts_contacts_eq_error_iff {announcement : Announcement} :
    checkContacts resolver nodeId requester (contacts announcement) = .error refusal ↔
      ∃ uri, FirstAstray resolver announcement requester uri ∧
        ∃ denial, Blames resolver uri denial ∧ refusal = ⟨requester, some nodeId, denial⟩ := by
  -- The contacts are grouped by service, and those of one service by key.
  have optional (contact : Option String) :
      checkContacts resolver nodeId requester contact.toList = .ok () ↔
        ∀ uri ∈ contact, resolver.Locates uri requester := by
    simp [checkContacts_eq_ok_iff, Resolver.mem_addressesOf_iff]
  rw [contacts, checkContacts_flatMap_eq_error_iff]
  simp only [checkContacts_contactsOf_eq_ok_iff]
  constructor
  · rintro ⟨before, service, after, split, passed, refused⟩
    rw [contactsOf_eq, checkContacts_flatMap_eq_error_iff] at refused
    obtain ⟨keysBefore, key, keysAfter, keys, lead, refused⟩ := refused
    obtain ⟨uri, stated, refused⟩ := checkContacts_toList_eq_error_iff.1 refused
    obtain ⟨astray, blamed⟩ := checkContact_eq_error_iff.1 refused
    exact ⟨uri, ⟨before, service, after, split, passed, keysBefore, key, keysAfter, keys,
      fun earlier listed => (optional _).1 (lead earlier listed), stated, astray⟩, blamed⟩
  · rintro ⟨uri, ⟨before, service, after, split, passed, keysBefore, key, keysAfter, keys, lead,
      stated, astray⟩, blamed⟩
    refine ⟨before, service, after, split, passed, ?_⟩
    rw [contactsOf_eq, checkContacts_flatMap_eq_error_iff]
    refine ⟨keysBefore, key, keysAfter, keys,
      fun earlier listed => (optional _).2 (lead earlier listed), ?_⟩
    exact checkContacts_toList_eq_error_iff.2
      ⟨uri, stated, checkContact_eq_error_iff.2 ⟨astray, blamed⟩⟩

end Trust

end Roster
