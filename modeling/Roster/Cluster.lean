import Roster.Api
import Roster.Round
import Roster.Slot

/-!
Nodes that reach each other over a network, with one clock. Whatever a member offers is delivered
before the next thing happens, and everything of note goes into a record.
-/

namespace Roster

open Http (Network Call Reply Exchange)

/-- A node in its surroundings. -/
structure Member where
  node : Node
  -- Where its interface is, as it announces it.
  uri : String
  -- Where its own calls come from.
  address : Address
  replication : Slot
  refreshing : Slot
  announcing : Slot
  maintenance : Slot

/-- A member of which nothing runs yet. -/
def Member.idle (node : Node) (uri : String) (address : Address) : Member :=
  ⟨node, uri, address, .empty, .empty, .empty, .empty⟩

/-- Where a server stands. -/
structure Site where
  -- Whether it is reached over encrypted connections, and over no others.
  secure : Bool
  host : String
  port : Nat
  deriving DecidableEq

/-- The site that an address leads to. -/
def Site.ofUri? (uri : Uri) : Option Site := do
  return ⟨uri.scheme = "https", (← uri.host).text, ← uri.effectivePort⟩

/-- The site that the text of an address leads to. -/
def Site.ofText? (text : String) : Option Site := do Site.ofUri? (← Uri.parse? text)

/-- What stands at a site. -/
inductive Server
  | member (place : Nat)
  -- A server that does the same with every call.
  | fixed (reply : Reply)

/-- What is worth a note. -/
inductive Event
  -- A member did something beside its answer.
  | reported (report : Report)
  -- A member read a peer.
  | pulled (pull : Pull)
  -- A call that offers an entry reached a server.
  | pushed (exchange : Exchange)
  -- An entry could not be offered to a peer.
  | unpushed (peer nodeId : String) (fault : Peer.Fault)

/-- Nodes that reach each other over a network. -/
structure Cluster where
  clock : Millis
  resolver : Resolver
  members : List Member
  -- What stands where; of two servers at one site the first counts.
  servers : List (Site × Server)
  -- Whether calls reach any server.
  connected : Bool
  -- What has happened since the record was last taken.
  record : List Event

namespace Cluster

/-- The site of each member's own interface. -/
def memberServers (members : List Member) : List (Site × Server) :=
  members.zipIdx.filterMap fun (member, place) =>
    (Site.ofText? member.uri).map fun site => (site, .member place)

/-- A cluster at its start. -/
def start (clock : Millis) (resolver : Resolver) (members : List Member) (connected : Bool) :
    Cluster :=
  ⟨clock, resolver, members, memberServers members, connected, []⟩

/-- Sets the clock. -/
def setClock (cluster : Cluster) (now : Millis) : Cluster := { cluster with clock := now }

/-- Puts a server where an address leads to. -/
def place (cluster : Cluster) (uri : String) (reply : Reply) : Cluster :=
  match Site.ofText? uri with
  | none => cluster
  | some site => { cluster with servers := (site, .fixed reply) :: cluster.servers }

/-- Adds events to the record. -/
def note (cluster : Cluster) (events : List Event) : Cluster :=
  { cluster with record := cluster.record ++ events }

/-- Empties the record. -/
def takeRecord (cluster : Cluster) : List Event × Cluster :=
  (cluster.record, { cluster with record := [] })

/-- Replaces the node of a member. -/
def setNode (cluster : Cluster) (place : Nat) (node : Node) : Cluster :=
  { cluster with members := cluster.members.modify place fun member => { member with node } }

/-- What outlasts an outcome in the record: everything but the offers, which are delivered. -/
def remarks (reports : List Report) : List Event :=
  (reports.filter fun | .offered _ _ => false | _ => true).map .reported

/-- The request that a call means to the interface it reaches. -/
def requestOf (call : Call) : Http.Request where
  method := call.method
  target := call.uri.target
  contentType := call.body.map fun _ => "application/json"
  body := (call.body.getD "").toUTF8

/-- What the interface of a member does with a call. -/
def serve (cluster : Cluster) (place : Nat) (caller : Address) (call : Call) : Reply × Cluster :=
  match cluster.members[place]? with
  | none => (.dropped, cluster)
  | some member =>
    let outcome := member.node.respond cluster.resolver cluster.clock caller (requestOf call)
    let content := (outcome.answer.content.map Api.Content.render).getD ""
    (.answered ⟨outcome.answer.status, none, content.toUTF8⟩,
      (cluster.setNode place outcome.node).note (remarks outcome.reports))

/-- The network as seen from an address. -/
def network (caller : Address) : Network (StateM Cluster) := fun call cluster =>
  if !cluster.connected then (.unconnected, cluster)
  else match (Site.ofUri? call.uri).bind (List.lookup · cluster.servers) with
    | none => (.dropped, cluster)
    | some (.fixed reply) => (reply, cluster)
    | some (.member place) => cluster.serve place caller call

/-- Offers an entry to a peer. -/
def push (cluster : Cluster) (caller : Address) (peer : String) (entry : Entry) : Cluster :=
  let (result, after) := (Peer.offer (network caller) peer entry).run cluster
  let failure := match result.outcome with
    | .error fault => [.unpushed peer entry.nodeId fault]
    | .ok () => []
  after.note (result.exchanges.map .pushed ++ failure)

/-- Offers entries to peers. -/
def pushAll (cluster : Cluster) (caller : Address) (offers : List (String × Entry)) : Cluster :=
  offers.foldl (fun cluster (peer, entry) => cluster.push caller peer entry) cluster

/-- Lets a member do something and delivers what it offers. -/
def act {α : Type} (cluster : Cluster) (place : Nat) (deed : Node → Outcome α) :
    Option (α × Cluster) :=
  match cluster.members[place]? with
  | none => none
  | some member =>
    let outcome := deed member.node
    let after := (cluster.setNode place outcome.node).note (remarks outcome.reports)
    some (outcome.answer, after.pushAll member.address outcome.offers)

/-- Reads the entries of peers. -/
def pull (cluster : Cluster) (caller : Address) : List String → List Catch × Cluster
  | [] => ([], cluster)
  | peer :: rest =>
    let (result, after) := (Peer.fetch (network caller) peer).run cluster
    let (others, cluster) := after.pull caller rest
    (⟨peer, result.outcome⟩ :: others, cluster)

/-- Lets a member replicate for one round. -/
def replicate (cluster : Cluster) (place : Nat) : Option (Summary × Cluster) :=
  match cluster.members[place]? with
  | none => none
  | some member =>
    let peers := member.node.profile.peers member.node.store cluster.clock
    let (catches, cluster) := cluster.pull member.address peers
    match cluster.act place (·.takeAll catches) with
    | none => none
    | some (pulls, cluster) => some (.ofPulls pulls, cluster.note (pulls.map .pulled))

/-- Changes a member's background loops. -/
def setMember (cluster : Cluster) (place : Nat) (change : Member → Member) : Cluster :=
  { cluster with members := cluster.members.modify place change }

/-- Starts the replication of a member with one round, unless it is running. -/
def startReplication (cluster : Cluster) (place : Nat) : Option Cluster := do
  let member ← cluster.members[place]?
  if member.replication.isRunning then some cluster
  else
    let (_, cluster) ← cluster.replicate place
    some (cluster.setMember place fun member =>
      { member with replication := member.replication.start })

/-- Stops the replication of a member. -/
def stopReplication (cluster : Cluster) (place : Nat) : Cluster :=
  cluster.setMember place fun member => { member with replication := member.replication.stop }

/-- Looks up whom a member trusts, if it checks requesters at all. -/
def refresh (cluster : Cluster) (place : Nat) : Cluster :=
  cluster.setMember place fun member =>
    if member.node.profile.guarded then
      { member with node := member.node.refresh cluster.resolver cluster.clock }
    else member

/-- Starts to look up regularly whom a member trusts, and does it once, unless that is running. -/
def startRefreshing (cluster : Cluster) (place : Nat) : Cluster :=
  if (cluster.members[place]?).any (·.refreshing.isRunning) then cluster
  else (cluster.refresh place).setMember place fun member =>
    { member with refreshing := member.refreshing.start }

/-- Stops to look up whom a member trusts. -/
def stopRefreshing (cluster : Cluster) (place : Nat) : Cluster :=
  cluster.setMember place fun member => { member with refreshing := member.refreshing.stop }

/-- Starts to announce a member regularly, and does it once, unless that is running. -/
def startAnnouncing (cluster : Cluster) (place : Nat) : Option Cluster := do
  let member ← cluster.members[place]?
  if member.announcing.isRunning || !member.node.profile.dynamic then some cluster
  else
    let (_, cluster) ← cluster.act place (·.announceSelf cluster.clock member.uri)
    some (cluster.setMember place fun member =>
      { member with announcing := member.announcing.start })

/-- Stops to announce a member, which deletes its entry. -/
def stopAnnouncing (cluster : Cluster) (place : Nat) : Option Cluster := do
  let member ← cluster.members[place]?
  if !member.announcing.isRunning then some cluster
  else
    let stopped := cluster.setMember place fun member =>
      { member with announcing := member.announcing.stop }
    let (_, cluster) ←
      stopped.act place fun node => node.deleteTrusted cluster.clock node.profile.nodeId
    some cluster

/-- Starts to remove a member's expired entries regularly, and does it once, unless that is
running. -/
def startMaintenance (cluster : Cluster) (place : Nat) : Cluster :=
  cluster.setMember place fun member =>
    if member.maintenance.isRunning then member
    else
      { member with
        node := (member.node.evict cluster.clock).node
        maintenance := member.maintenance.start }

/-- Stops to remove a member's expired entries. -/
def stopMaintenance (cluster : Cluster) (place : Nat) : Cluster :=
  cluster.setMember place fun member => { member with maintenance := member.maintenance.stop }

end Cluster

end Roster
