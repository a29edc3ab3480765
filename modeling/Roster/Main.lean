import Roster.Daemon
import Roster.Http.Frame
import Std.Async

/-!
The command line: it runs a node with the settings in a file until it is interrupted. Only the
clock, name service, connections and the pace of the loops are here.
-/

open Std.Async
open Std.Async.TCP (Socket.Client Socket.Server)

namespace Roster.Main

/-- What the parts of the running program share. -/
structure Shared where
  node : IO.Ref Node
  uri : String
  -- How many milliseconds a peer has for an answer.
  timeout : Nat

/-- The time. -/
def now : IO Millis := do
  return Millis.clamp (← Std.Time.Timestamp.now).toMillisecondsSinceUnixEpoch.toInt

/-- Waits for some milliseconds. -/
def pause (millis : Nat) : Async Unit := Std.Async.sleep (Std.Time.Millisecond.Offset.ofNat millis)

/-- An address as this machine gives it. -/
def addressOf : Std.Net.IPAddr → Address
  | .v4 address => .v4 address.octets
  | .v6 address => .v6 address.segments

/-- A port of an address as this machine takes it. -/
def socketAddress (address : Address) (port : Nat) : Std.Net.SocketAddress :=
  match address with
  | .v4 octets => .v4 ⟨⟨octets⟩, UInt16.ofNat port⟩
  | .v6 groups => .v6 ⟨⟨groups⟩, UInt16.ofNat port⟩

/-- Where a connection comes from. -/
def callerOf : Std.Net.SocketAddress → Address
  | .v4 socket => .v4 socket.addr.octets
  | .v6 socket => .v6 socket.addr.segments

/-- Looks the addresses of a host up, with the name service if need be. -/
def lookUp (host : String) : Async (Except Unresolved (List Address)) := do
  match Resolver.system host with
  | .ok addresses => return .ok addresses
  | .error cause =>
    try
      let found ← DNS.getAddrInfo host ""
      return .ok (found.toList.map fun address => (addressOf address).canonical)
    catch _ => return .error cause

/-- Host names and what looking them up gave. -/
abbrev Findings := List (String × Except Unresolved (List Address))

/-- The look-up in findings. -/
def Findings.resolver (findings : Findings) : Resolver := fun host =>
  (findings.lookup host).getD (.error (.unknown host))

/-- Lets the node do something. Whenever that is refused for want of an address that was not looked
up yet, it is undone, the address is looked up, and the node starts over. -/
partial def perform {α : Type} (shared : Shared) (findings : Findings)
    (deed : Resolver → Node → Outcome α) : Async (Outcome α) := do
  let (outcome, missing) ← shared.node.modifyGet fun node =>
    let outcome := deed findings.resolver node
    let missing := (outcome.audits.filterMap (·.denial.unresolvedHost?)).filter fun host =>
      (findings.lookup host).isNone
    if missing.isEmpty then ((outcome, missing), outcome.node) else ((outcome, missing), node)
  match missing with
  | [] => return outcome
  | host :: _ => perform shared ((host, ← lookUp host) :: findings) deed

/-- The greatest size of a message without its body. -/
def headLimit : Nat := 65536

/-- Receives a message. -/
partial def receive (socket : Socket.Client) (isRequest : Bool) (received : ByteArray) :
    Async (Option Http.Frame) := do
  match Http.Frame.read? isRequest false received.toList with
  | some frame => return some frame
  | none =>
    if headLimit < received.size && (Http.Frame.readLines received.toList).isNone then return none
    match ← socket.recv? 65536 with
    | some more => receive socket isRequest (received ++ more)
    | none => return Http.Frame.read? isRequest true received.toList

/-- Makes a call over a connection of its own. -/
def converse (call : Http.Call) (address : Address) (port : Nat) : Async Http.Reply := do
  let socket ← Socket.Client.mk
  try socket.connect (socketAddress address port)
  catch _ => return .unconnected
  try
    socket.send (Http.Frame.ofCall call).bytes
    let frame ← receive socket false .empty
    socket.shutdown
    match frame.bind Http.Frame.answer? with
    | some answer => return .answered answer
    | none => return .dropped
  catch _ => return .dropped

/-- Makes a call to the first address of a host that can be connected to. -/
def converseWithAny (call : Http.Call) (port : Nat) : List Address → Async Http.Reply
  | [] => return .unconnected
  | address :: rest => do
    match ← converse call address port with
    | .unconnected => converseWithAny call port rest
    | reply => return reply

/-- The network of this machine, where an answer has to come within some milliseconds. It carries
plain connections only. -/
def network (timeout : Nat) : Http.Network Async := fun call => do
  let host := (call.uri.host.map Host.bare).getD ""
  let talk : Async Http.Reply := do
    if call.uri.scheme = "https" then return .unconnected
    match ← lookUp host with
    | .error _ => return .unconnected
    | .ok addresses => converseWithAny call (call.uri.effectivePort.getD 80) addresses
  Async.race talk (do pause timeout; return .silent)

/-- Offers an entry to a peer. -/
def push (shared : Shared) (peer : String) (entry : Entry) : Async Unit := do
  let _ ← Peer.offer (network shared.timeout) peer entry

/-- Offers to peers what an outcome says, without waiting for them. -/
def pushAll {α : Type} (shared : Shared) (outcome : Outcome α) : Async Unit := do
  for (peer, entry) in outcome.offers do
    background (push shared peer entry)

/-- Reads the peers once and merges what they gave. -/
def replicate (shared : Shared) : Async Unit := do
  let node ← shared.node.get
  let peers := node.profile.peers node.store (← now)
  let catches ← Async.concurrentlyAll <| peers.toArray.map fun peer => do
    return (⟨peer, (← Peer.fetch (network shared.timeout) peer).outcome⟩ : Catch)
  shared.node.modify fun node => (node.takeAll catches.toList).node

/-- Looks up whom to trust. -/
def refresh (shared : Shared) : Async Unit := do
  let node ← shared.node.get
  let time ← now
  let hosts := ((node.profile.discovery node.store time).filterMap Profile.contact?).filterMap
    Uri.hostOf?
  let findings ← hosts.mapM fun host => return (host, ← lookUp host)
  shared.node.modify fun node => node.refresh (Findings.resolver findings) time

/-- Announces the node itself. -/
def announce (shared : Shared) : Async Unit := do
  let time ← now
  pushAll shared (← perform shared [] fun _ node => node.announceSelf time shared.uri)

/-- Removes the expired entries. -/
def evict (shared : Shared) : Async Unit := do
  let time ← now
  shared.node.modify fun node => (node.evict time).node

/-- Does something again and again, with some milliseconds in between. -/
partial def repeatedly (millis : Nat) (deed : Async Unit) : Async Unit := do
  pause millis
  try deed catch _ => pure ()
  repeatedly millis deed

/-- Answers the request that comes over a connection. -/
def serve (shared : Shared) (socket : Socket.Client) : Async Unit := do
  let caller := callerOf (← socket.getPeerName)
  match (← receive socket true .empty).bind Http.Frame.request? with
  | none => pure ()
  | some request =>
    let time ← now
    let outcome ← perform shared [] fun resolver node => node.respond resolver time caller request
    pushAll shared outcome
    let frame := Http.Frame.ofResponse Api.Content.mediaType Api.Content.render outcome.answer
    socket.send frame.bytes
  socket.shutdown

/-- Answers requests for good. -/
partial def listen (shared : Shared) (server : Socket.Server) : Async Unit := do
  let socket ← server.accept
  background (try serve shared socket catch _ => pure ())
  listen shared server

/-- Runs a node until it is interrupted. -/
def run (plan : Daemon.Plan) : Async (Except Daemon.Fault Unit) := do
  let config := plan.config
  let random ← IO.getRandomBytes 16
  let nodeId := config.node.nodeId.getD (Daemon.nodeIdOf random.toList)
  let profile := Profile.ofConfig config nodeId
  let uri := config.api.advertisedUri (← System.getHostName)
  let shared : Shared :=
    ⟨← IO.mkRef (Node.start profile), uri, config.store.remoteTimeoutMillis⟩
  let interrupted ← Signal.Waiter.mk .sigint false
  let interruption ← interrupted.wait
  if profile.guarded then
    refresh shared
    background (repeatedly (config.auth.updateSeconds * 1000) (refresh shared))
  if profile.dynamic then
    announce shared
    background (repeatedly (config.announcePeriodNanos / 1000000) (announce shared))
    replicate shared
    background (repeatedly (config.store.replicationSeconds * 1000) (replicate shared))
  background (repeatedly (config.store.maintenanceSeconds * 1000) (evict shared))
  let server ← Socket.Server.mk
  try
    server.bind (socketAddress plan.endpoint.address plan.endpoint.port)
    server.listen 1024
  catch _ => return .error (.unbindable config.api.listen)
  background (listen shared server)
  let _ ← await interruption
  if profile.dynamic then
    let time ← now
    let outcome ← perform shared [] fun _ node => node.deleteTrusted time profile.nodeId
    for (peer, entry) in outcome.offers do
      push shared peer entry
  return .ok ()

end Roster.Main

open Roster in
/-- Runs a node with the settings in the file that the first argument names. -/
def main (arguments : List String) : IO UInt32 := do
  let path := arguments.headD "/etc/discovery/discoveryd.toml"
  let file ← try pure (some (← IO.FS.readBinFile path).toList) catch _ => pure none
  let result ← match Daemon.plan (fun _ => true) file with
    | .error fault => pure (.error fault)
    | .ok plan => (Main.run plan).block
  match result with
  | .ok () => return 0
  | .error fault =>
    IO.eprintln (fault.report path)
    return 1
