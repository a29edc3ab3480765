import Roster.Cluster

/-!
The program up to the point where it listens. It reads its settings, announces itself and reads its
peers once.
-/

namespace Roster

/-- A place of a machine at which to listen. -/
structure Endpoint where
  address : Address
  port : Nat
  deriving DecidableEq

namespace Endpoint

/-- The address that the host of a place to listen at means. -/
def addressOf? (host : List Char) : Option Address :=
  match host with
  | '[' :: rest =>
    if rest.getLast? = some ']' then (Address.parseGroups? rest.dropLast).map .v6 else none
  | _ =>
    if String.ofList host = "localhost" then some (.v4 #v[127, 0, 0, 1])
    else (Address.parseOctets? host).map .v4

/-- Reads a place to listen at, which is a host and a port with a colon between them. -/
def parse? (text : String) : Option Endpoint := do
  let port ← ApiConfig.port? text
  let afterHost := text.toList.reverse.dropWhile (· ≠ ':')
  match afterHost.reverse.dropLast, afterHost with
  | host, ':' :: _ => return ⟨← addressOf? host, port⟩
  | _, _ => none

/-- Whether every machine has an address: one that loops back to it, or stands for all it has. -/
def isEverywhere (address : Address) : Bool :=
  match address.canonical with
  | .v4 octets => octets.toList.head? = some 127 || octets.toList = [0, 0, 0, 0]
  | .v6 groups =>
    groups.toList = [0, 0, 0, 0, 0, 0, 0, 0] || groups.toList = [0, 0, 0, 0, 0, 0, 0, 1]

end Endpoint

namespace Daemon

/-- Why the program cannot start. -/
inductive Fault
  | settings (fault : Config.FileFault)
  | unbindable (listen : String)
  deriving DecidableEq

/-- The wording of a fault, with the settings in the file at a path. -/
def Fault.message (path : String) : Fault → String
  | settings _ => s!"Failed to load config from {path}"
  | unbindable listen => s!"Failed to bind to {listen}"

/-- What the program says about a fault, of which the first line counts. -/
def Fault.report (path : String) (fault : Fault) : String :=
  String.ofList ((s!"Error: {fault.message path}".toList).takeWhile (· ≠ '\n'))

/-- What the program is to run with. -/
structure Plan where
  config : Config
  endpoint : Endpoint
  deriving DecidableEq

/-- What to run with the settings in the bytes of a file, if there is one, on a machine that has
some addresses. -/
def plan (hasAddress : Address → Bool) (file : Option (List UInt8)) : Except Fault Plan :=
  match Config.load file with
  | .error fault => .error (.settings fault)
  | .ok config =>
    match Endpoint.parse? config.api.listen with
    | none => .error (.unbindable config.api.listen)
    | some endpoint =>
      if hasAddress endpoint.address then .ok ⟨config, endpoint⟩
      else .error (.unbindable config.api.listen)

/-- The node id that random bytes give: hexadecimal digits in groups, with the marks of such ids. -/
def nodeIdOf (bytes : List UInt8) : String :=
  let marked := bytes.mapIdx fun place byte =>
    if place = 6 then 0x40 ||| (byte &&& 0x0f) else if place = 8 then 0x80 ||| (byte &&& 0x3f)
    else byte
  let group (start length : Nat) : String :=
    String.ofList (((marked.drop start).take length).flatMap Digest.hexByte)
  "-".intercalate [group 0 4, group 4 2, group 6 2, group 8 2, group 10 6]

/-- The member that settings describe, under a node id and on a machine of some name. -/
def memberOf (config : Config) (nodeId hostName : String) : Member :=
  .idle (Node.start (Profile.ofConfig config nodeId)) (config.api.advertisedUri hostName)
    (.v4 #v[127, 0, 0, 1])

/-- The program once it is up: it has looked up whom to trust, announced itself, read its peers
for the first time and begun all its loops. -/
def boot (cluster : Cluster) (place : Nat) : Option Cluster := do
  let member ← cluster.members[place]?
  let cluster := cluster.startRefreshing place
  let cluster ← cluster.startAnnouncing place
  -- Without announcements there is nothing to replicate.
  let cluster ← if member.node.profile.dynamic then cluster.startReplication place else cluster
  return cluster.startMaintenance place

end Daemon

end Roster
