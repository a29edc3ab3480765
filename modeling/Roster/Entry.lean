import Roster.Index
import Roster.Millis

/-! Services and the entries that hold a node's services or record that it has none. -/

namespace Roster

/-- Text values by text key. -/
abbrev Properties := Index (fun pair : String × String => pair.1)

/-- The value under a key. -/
def Properties.get? (properties : Properties) (k : String) : Option String :=
  (properties.find? k).map Prod.snd

/-- One announced instance of a service. -/
structure Service where
  id : String
  nodeId : String
  kind : String
  pool : String
  location : String
  properties : Properties
  deriving DecidableEq, Inhabited

/-- The kind of service under which the nodes of the registry announce themselves. -/
def discoveryKind : String := "discovery"

/-- A node's full set of services, or a tombstone when there is no such set. -/
structure Entry where
  nodeId : String
  services : Option (List Service)
  -- The version: of two entries for a node the later one stands.
  timestamp : Millis
  maxAge : Option Millis
  -- The address that wrote the entry, when a client did.
  announcer : Option String
  deriving DecidableEq, Inhabited

namespace Entry

/-- An entry for a node that runs services. -/
def live (nodeId : String) (services : List Service) (timestamp maxAge : Millis)
    (announcer : Option String) : Entry :=
  ⟨nodeId, some services, timestamp, some maxAge, announcer⟩

/-- An entry that records the removal of a node. -/
def tombstone (nodeId : String) (timestamp : Millis) (announcer : Option String) : Entry :=
  ⟨nodeId, none, timestamp, none, announcer⟩

/-- Whether an entry records a removal. -/
def isTombstone (entry : Entry) : Bool := entry.services.isNone

/-- Whether a live entry says how long it lasts; one that does not would never expire. -/
def isWellFormed (entry : Entry) : Bool := entry.services.isNone || entry.maxAge.isSome

/-- Whether a live entry has outlasted its age; it is still current at the last instant of it. -/
def isExpired (entry : Entry) (now : Millis) : Bool :=
  match entry.services, entry.maxAge with
  | some _, some age => entry.timestamp.later age < now
  | _, _ => false

/-- The entry made afresh from its parts: live when it has both services and an age. -/
def remade (entry : Entry) : Entry :=
  match entry.services, entry.maxAge with
  | some services, some age => live entry.nodeId services entry.timestamp age entry.announcer
  | _, _ => tombstone entry.nodeId entry.timestamp entry.announcer

/-- The services of an entry, none for a tombstone. -/
def allServices (entry : Entry) : List Service := entry.services.getD []

end Entry

end Roster
