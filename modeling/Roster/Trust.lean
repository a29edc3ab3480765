import Roster.Announcement
import Roster.Net.Resolver
import Roster.Net.Uri
import Roster.Store

/-!
Who may write which entries and who may replicate. An entry belongs to the address that announced
it, an announcement may name the announcer's own hosts alone, and replication is for the addresses
of the known discovery nodes.
-/

namespace Roster

/-- What a client does with the entry of a node. -/
inductive Deed
  | announce
  | delete
  deriving DecidableEq

/-- The word for a deed against an entry that is already there. -/
def Deed.word : Deed → String
  | announce => "re-announce"
  | delete => "delete"

/-- Why a requester is refused. -/
inductive Denial
  | ownerUnresolved (owner : String) (cause : Unresolved)
  | otherOwner (deed : Deed) (nodeId owner : String)
  | contactUnparseable (uri : String)
  | contactUnresolved (host : String) (cause : Unresolved)
  | otherHost (host : String)
  | stranger
  deriving DecidableEq

/-- The host whose addresses could not be looked up. -/
def Denial.unresolvedHost? : Denial → Option String
  | ownerUnresolved owner _ => some owner
  | contactUnresolved host _ => some host
  | _ => none

/-- A request that was refused, as it stands in the audit record. -/
structure Refusal where
  requester : Address
  -- The node whose entry was to be written; replication is about no single node.
  nodeId : Option String
  denial : Denial
  deriving DecidableEq

/-- The wording of a refusal. -/
def Refusal.reason (refusal : Refusal) : String :=
  let requester := refusal.requester.text
  match refusal.denial with
  | .ownerUnresolved owner cause => s!"cannot resolve announcer {owner}: {cause.message}"
  | .otherOwner deed nodeId owner =>
    s!"IP {requester} tried to {deed.word} node {nodeId} owned by IP {owner}"
  | .contactUnparseable uri => s!"unparseable contact URI {uri}"
  | .contactUnresolved host cause => s!"cannot resolve {host}: {cause.message}"
  | .otherHost host => s!"IP {requester} tried to announce other host {host}"
  | .stranger => s!"IP {requester} tried to replicate as discovery"

/-- A line of the audit record. -/
structure AuditLine where
  requester : String
  -- A dash where a refusal is about no single node.
  nodeId : String
  reason : String
  deriving DecidableEq

/-- The line of a refusal in the audit record. -/
def Refusal.line (refusal : Refusal) : AuditLine :=
  ⟨refusal.requester.text, refusal.nodeId.getD "-", refusal.reason⟩

namespace Trust

/-- The properties that tell where a service can be reached. -/
def contactKeys : List String := ["http", "https", "admin"]

/-- The contacts of a submitted service, in the order of the contact properties. -/
def contactsOf (service : ServiceAnnouncement) : List String :=
  match service.properties with
  | none => []
  | some properties => contactKeys.filterMap properties.get?

/-- The contacts of an announcement, service by service. -/
def contacts (announcement : Announcement) : List String :=
  announcement.services.flatMap contactsOf

/-- Lets only the owner of a resident entry pass; an entry that no client announced has none. -/
def checkOwner (store : Store) (resolver : Resolver) (deed : Deed) (nodeId : String)
    (requester : Address) : Except Refusal Unit :=
  match (store.get? nodeId).bind Entry.announcer with
  | none => .ok ()
  | some owner =>
    match resolver owner with
    | .error cause => .error ⟨requester, some nodeId, .ownerUnresolved owner cause⟩
    | .ok addresses =>
      if requester ∈ addresses then .ok ()
      else .error ⟨requester, some nodeId, .otherOwner deed nodeId owner⟩

/-- Lets only a contact pass whose host is the requester. -/
def checkContact (resolver : Resolver) (nodeId : String) (requester : Address) (uri : String) :
    Except Refusal Unit :=
  match Uri.hostOf? uri with
  | none => .error ⟨requester, some nodeId, .contactUnparseable uri⟩
  | some host =>
    match resolver host with
    | .error cause => .error ⟨requester, some nodeId, .contactUnresolved host cause⟩
    | .ok addresses =>
      if requester ∈ addresses then .ok () else .error ⟨requester, some nodeId, .otherHost host⟩

/-- Lets contacts pass if each of them does; the first that does not is named. -/
def checkContacts (resolver : Resolver) (nodeId : String) (requester : Address) :
    List String → Except Refusal Unit
  | [] => .ok ()
  | uri :: rest =>
    match checkContact resolver nodeId requester uri with
    | .error refusal => .error refusal
    | .ok () => checkContacts resolver nodeId requester rest

/-- Lets an announcement pass that the owner of the entry makes for hosts of its own. -/
def checkAnnounce (store : Store) (resolver : Resolver) (nodeId : String)
    (announcement : Announcement) (requester : Address) : Except Refusal Unit :=
  match checkOwner store resolver .announce nodeId requester.canonical with
  | .error refusal => .error refusal
  | .ok () => checkContacts resolver nodeId requester.canonical (contacts announcement)

/-- Lets the owner of an entry delete it. -/
def checkDelete (store : Store) (resolver : Resolver) (nodeId : String) (requester : Address) :
    Except Refusal Unit :=
  checkOwner store resolver .delete nodeId requester.canonical

/-- Lets trusted addresses replicate. -/
def checkReplicate (trusted : List Address) (requester : Address) : Except Refusal Unit :=
  if requester.canonical ∈ trusted then .ok () else .error ⟨requester.canonical, none, .stranger⟩

/-- The addresses of the host of a contact, none if it has no host or cannot be looked up. -/
def addressesOf (resolver : Resolver) (uri : String) : List Address :=
  match Uri.hostOf? uri with
  | none => []
  | some host => (resolver host).toOption.getD []

/-- The addresses of the hosts of contacts, each once and in ascending order. -/
def addresses (resolver : Resolver) (uris : List String) : List Address :=
  let found := uris.flatMap (addressesOf resolver)
  (found.mergeSort fun a b => Address.inOrder a.rank b.rank).eraseDups

end Trust

end Roster
