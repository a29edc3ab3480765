import Roster.Ledger
import Roster.Profile
import Roster.Trust

/-!
A running node: its store, the addresses it trusts, and the requests it answers. Whatever a request
does beside its answer is reported: refusals for the audit record and entries offered to peers.
-/

namespace Roster

/-- Why a node turns a request down. -/
inductive Rejection
  | invalid (fault : Announcement.Fault)
  | forbidden (refusal : Refusal)
  | disabled
  deriving DecidableEq

/-- The wording of a rejection. -/
def Rejection.message : Rejection → String
  | invalid fault => s!"invalid announcement: {fault.message}"
  | forbidden refusal => s!"forbidden: {refusal.reason}"
  | disabled => "dynamic announcements are disabled"

/-- What a node does beside giving an answer. -/
inductive Report
  -- A refusal goes to the audit record.
  | refused (refusal : Refusal)
  -- An entry is offered to the peer at an address.
  | offered (peer : String) (entry : Entry)
  -- A local write lost to the resident entry.
  | superseded
  -- A live entry of a peer has no age.
  | malformed
  -- The node could not announce itself.
  | unannounced (rejection : Rejection)
  deriving DecidableEq

/-- A running node. -/
structure Node where
  profile : Profile
  ledger : Ledger
  trusted : List Address
  deriving DecidableEq, Inhabited

/-- The answer to a request, the node after it, and what the node did beside. -/
structure Outcome (α : Type) where
  answer : α
  node : Node
  reports : List Report

namespace Outcome

/-- An outcome with another answer. -/
def map {α β : Type} (change : α → β) (outcome : Outcome α) : Outcome β :=
  ⟨change outcome.answer, outcome.node, outcome.reports⟩

/-- The refusals that go to the audit record. -/
def audits {α : Type} (outcome : Outcome α) : List Refusal :=
  outcome.reports.filterMap fun
    | .refused refusal => some refusal
    | _ => none

/-- The entries offered to peers. -/
def offers {α : Type} (outcome : Outcome α) : List (String × Entry) :=
  outcome.reports.filterMap fun
    | .offered peer entry => some (peer, entry)
    | _ => none

end Outcome

/-- What a rejection puts on record. -/
def Rejection.reports : Rejection → List Report
  | forbidden refusal => [.refused refusal]
  | _ => []

namespace Node

/-- A node at its start. -/
def start (profile : Profile) : Node := ⟨profile, ∅, []⟩

/-- The entries a node holds. -/
def store (node : Node) : Store := node.ledger.store

/-- An answer that changes nothing. -/
def unchanged {α : Type} (node : Node) (answer : α) : Outcome α := ⟨answer, node, []⟩

/-- A request that is turned down, which changes nothing. -/
def reject {α : Type} (node : Node) (rejection : Rejection) : Outcome (Except Rejection α) :=
  ⟨.error rejection, node, rejection.reports⟩

/-- The version of the next local write for a node: the time, or just past the resident version. -/
def nextTimestamp (node : Node) (now : Millis) (nodeId : String) : Millis :=
  match node.store.get? nodeId with
  | none => now
  | some resident => if now ≤ resident.timestamp then resident.timestamp.next else now

/-- The entry that an announcement makes. -/
def entryFor (node : Node) (now : Millis) (nodeId : String) (announcement : Announcement)
    (announcer : Option String) : Entry :=
  .live nodeId (announcement.servicesFor nodeId) (node.nextTimestamp now nodeId)
    (announcement.maxAge.getD node.profile.maxAge) announcer

/-- The tombstone that a deletion makes. -/
def tombstoneFor (node : Node) (now : Millis) (nodeId : String) : Entry :=
  .tombstone nodeId (node.nextTimestamp now nodeId) none

/-- Writes an entry and offers it to every peer known afterwards, also if it lost. -/
def write (node : Node) (now : Millis) (entry : Entry) : Outcome Unit :=
  let (taken, ledger) := node.ledger.put entry
  let peers := node.profile.peers ledger.store now
  ⟨(), { node with ledger }, (if taken then [] else [.superseded]) ++ peers.map (.offered · entry)⟩

/-- Lets an announcement pass that is valid for this node. -/
def checkValid (node : Node) (announcement : Announcement) : Except Rejection Unit :=
  match announcement.faultIn? node.profile.environment with
  | some fault => .error (.invalid fault)
  | none => .ok ()

/-- Applies a check unless the node lets everyone pass. -/
def guard (node : Node) (check : Except Refusal Unit) : Except Rejection Unit :=
  if node.profile.guarded then check.mapError .forbidden else .ok ()

/-- Lets announcers pass. -/
def checkAnnounce (node : Node) (resolver : Resolver) (nodeId : String)
    (announcement : Announcement) (requester : Address) : Except Rejection Unit :=
  node.guard (Trust.checkAnnounce node.store resolver nodeId announcement requester)

/-- Lets those pass who may delete. -/
def checkDelete (node : Node) (resolver : Resolver) (nodeId : String) (requester : Address) :
    Except Rejection Unit :=
  node.guard (Trust.checkDelete node.store resolver nodeId requester)

/-- Lets those pass who may replicate. -/
def checkReplicate (node : Node) (requester : Address) : Except Rejection Unit :=
  node.guard (Trust.checkReplicate node.trusted requester)

/-- All that has to hold before an announcement is written. -/
def admitAnnounce (node : Node) (resolver : Resolver) (nodeId : String)
    (announcement : Announcement) (requester : Address) : Except Rejection Unit :=
  match node.checkValid announcement with
  | .error rejection => .error rejection
  | .ok () => node.checkAnnounce resolver nodeId announcement requester

/-- Writes an announcement of a client, whose address becomes that of the announcer. -/
def writeAnnounced (node : Node) (now : Millis) (nodeId : String) (announcement : Announcement)
    (requester : Address) : Outcome Unit :=
  node.write now (node.entryFor now nodeId announcement (some requester.canonical.text))

/-- Writes a deletion. -/
def writeDeleted (node : Node) (now : Millis) (nodeId : String) : Outcome Unit :=
  node.write now (node.tombstoneFor now nodeId)

/-- The outcome of a mere check. -/
def check (node : Node) : Except Rejection Unit → Outcome (Except Rejection Unit)
  | .error rejection => node.reject rejection
  | .ok () => node.unchanged (.ok ())

/-- Takes an announcement from a client. -/
def announce (node : Node) (resolver : Resolver) (now : Millis) (nodeId : String)
    (announcement : Announcement) (requester : Address) : Outcome (Except Rejection Unit) :=
  if !node.profile.dynamic then node.reject .disabled
  else match node.admitAnnounce resolver nodeId announcement requester with
    | .error rejection => node.reject rejection
    | .ok () => (node.writeAnnounced now nodeId announcement requester).map .ok

/-- Takes the deletion of a node's entry from a client. -/
def delete (node : Node) (resolver : Resolver) (now : Millis) (nodeId : String)
    (requester : Address) : Outcome (Except Rejection Unit) :=
  if !node.profile.dynamic then node.reject .disabled
  else match node.checkDelete resolver nodeId requester with
    | .error rejection => node.reject rejection
    | .ok () => (node.writeDeleted now nodeId).map .ok

/-- Writes an announcement of the node's own, without a check of the requester. -/
def announceTrusted (node : Node) (now : Millis) (nodeId : String) (announcement : Announcement) :
    Outcome (Except Rejection Unit) :=
  match node.checkValid announcement with
  | .error rejection => node.reject rejection
  | .ok () => (node.write now (node.entryFor now nodeId announcement none)).map .ok

/-- Writes a deletion of the node's own, without a check of the requester. -/
def deleteTrusted (node : Node) (now : Millis) (nodeId : String) : Outcome Unit :=
  node.writeDeleted now nodeId

/-- The services of a kind in a pool, each restricted only if given. -/
def query (node : Node) (now : Millis) (kind pool : Option String) : List Service :=
  if !node.profile.dynamic then []
  else
    let pools := (pool.map node.profile.migration.aliases).getD []
    (node.store.filtered now kind pools).flatMap Entry.allServices

/-- Gives a peer all entries. -/
def snapshot (node : Node) (requester : Address) : Outcome (Except Rejection (List Entry)) :=
  if !node.profile.dynamic then node.reject .disabled
  else match node.checkReplicate requester with
    | .error rejection => node.reject rejection
    | .ok () => node.unchanged (.ok node.store.items)

/-- Merges an entry from a peer; the answer is whether it was taken in. -/
def merge (node : Node) (entry : Entry) : Outcome Bool :=
  let (taken, ledger) := node.ledger.merge node.profile.migration entry
  ⟨taken, { node with ledger }, if entry.isWellFormed then [] else [.malformed]⟩

/-- Takes an entry that a peer offers. -/
def acceptOffer (node : Node) (entry : Entry) (requester : Address) :
    Outcome (Except Rejection Bool) :=
  if !node.profile.dynamic then node.reject .disabled
  else match node.checkReplicate requester with
    | .error rejection => node.reject rejection
    | .ok () => (node.merge entry).map .ok

/-- Looks the addresses of all known discovery nodes up and trusts them from then on. -/
def refresh (node : Node) (resolver : Resolver) (now : Millis) : Node :=
  let uris := (node.profile.discovery node.store now).filterMap Profile.contact?
  { node with trusted := Trust.addresses resolver uris }

/-- Puts an entry into the store as it is; the answer is whether it was taken in. -/
def put (node : Node) (entry : Entry) : Outcome Bool :=
  let (taken, ledger) := node.ledger.put entry
  ⟨taken, { node with ledger }, []⟩

/-- Removes the expired entries; the answer is their number. -/
def evict (node : Node) (now : Millis) : Outcome Nat :=
  let (removed, ledger) := node.ledger.evict now
  ⟨removed, { node with ledger }, []⟩

/-- The digest of the store, remembered for the next time. -/
def digest (node : Node) : Outcome String :=
  let (digest, ledger) := node.ledger.digest
  ⟨digest, { node with ledger }, []⟩

/-- Announces the node's own discovery service, reached under some address. -/
def announceSelf (node : Node) (now : Millis) (uri : String) : Outcome Unit :=
  let outcome := node.announceTrusted now node.profile.nodeId (node.profile.selfAnnouncement uri)
  match outcome.answer with
  | .error rejection => ⟨(), outcome.node, outcome.reports ++ [.unannounced rejection]⟩
  | .ok () => outcome.map fun _ => ()

end Node

end Roster
