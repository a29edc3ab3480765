import Roster.Config
import Roster.Store

/-! What a running node is, and which discovery nodes it takes for its peers. -/

namespace Roster

/-- What stays the same as long as a node runs. -/
structure Profile where
  nodeId : String
  environment : String
  pool : String
  location : String
  migration : Migration
  -- Where to look for peers at first.
  seeds : List String
  -- Whether announcements are taken at all.
  dynamic : Bool
  -- Whether requesters are checked.
  guarded : Bool
  -- The age of an announcement that states none.
  maxAge : Millis
  deriving DecidableEq, Inhabited

namespace Profile

/-- The property under which a discovery node announces where its interface is. -/
def contactKey : String := "http"

/-- The node that settings describe, under a node id. -/
def ofConfig (config : Config) (nodeId : String) : Profile where
  nodeId
  environment := config.node.environment
  pool := config.node.pool
  location := config.node.location
  migration := ⟨config.discovery.mapTarget, config.discovery.phase⟩
  seeds := config.api.seeds
  dynamic := config.discovery.dynamicEnabled
  guarded := config.auth.enabled
  -- The age is kept in 64 bits, of which the low ones count.
  maxAge := Millis.wrap config.maxAgeMillis

/-- The discovery service that a seed stands for. -/
def seedService (profile : Profile) (uri : String) : Service where
  id := "seed:" ++ uri
  nodeId := ""
  kind := discoveryKind
  pool := profile.pool
  location := ""
  properties := Index.ofList [(contactKey, uri)]

/-- The discovery services that a store shows in the pool of a node. -/
def announcedDiscovery (profile : Profile) (store : Store) (now : Millis) : List Service :=
  (store.filtered now (some discoveryKind) (profile.migration.aliases profile.pool)).flatMap
    Entry.allServices

/-- The discovery services that a node knows, those of its seeds first. -/
def discovery (profile : Profile) (store : Store) (now : Millis) : List Service :=
  profile.seeds.map profile.seedService ++ profile.announcedDiscovery store now

/-- Where a discovery service can be reached. -/
def contact? (service : Service) : Option String := service.properties.get? contactKey

/-- Texts, each once and in ascending order. -/
def distinct (texts : List String) : List String :=
  (Index.ofList texts : Index (fun text : String => text)).items

/-- Where the discovery services can be reached that do not belong to one node. -/
def peersOtherThan (profile : Profile) (own : String) (store : Store) (now : Millis) :
    List String :=
  distinct (((profile.discovery store now).filter (·.nodeId != own)).filterMap contact?)

/-- Where the peers of a node can be reached. -/
def peers (profile : Profile) (store : Store) (now : Millis) : List String :=
  profile.peersOtherThan profile.nodeId store now

/-- The announcement of the node's own discovery service, reached under some address. -/
def selfAnnouncement (profile : Profile) (uri : String) : Announcement :=
  NodeConfig.selfAnnouncement
    ⟨profile.environment, profile.pool, profile.location, none⟩ profile.nodeId uri

end Profile

end Roster
