import Roster.Announcement
import Roster.Migration
import Roster.Toml.Document

/-! The settings of a node, how a file spells them, and what a node announces of itself. -/

namespace Roster

/-- Who a node is. -/
structure NodeConfig where
  environment : String
  pool : String
  location : String
  -- Chosen at random when the settings name none.
  nodeId : Option String
  deriving DecidableEq

/-- What a node does with announcements. -/
structure DiscoveryConfig where
  dynamicEnabled : Bool
  maxAgeSeconds : Nat
  mapTarget : String
  phase : Phase
  deriving DecidableEq

/-- How often a node replicates and cleans up, and how long it waits for a peer. -/
structure StoreConfig where
  replicationSeconds : Nat
  remoteTimeoutMillis : Nat
  maintenanceSeconds : Nat
  deriving DecidableEq

/-- Whether a node checks requesters, and how often it looks the trusted ones up. -/
structure AuthConfig where
  enabled : Bool
  updateSeconds : Nat
  deriving DecidableEq

/-- Where a node listens and what it knows of its peers. -/
structure ApiConfig where
  listen : String
  advertiseUri : Option String
  seeds : List String
  deriving DecidableEq

/-- The settings of a node. -/
structure Config where
  node : NodeConfig
  discovery : DiscoveryConfig
  store : StoreConfig
  auth : AuthConfig
  api : ApiConfig
  deriving DecidableEq

namespace Config

/-- Why settings are refused. -/
inductive Fault
  -- The text is no settings file, or a setting is missing or of another type.
  | unparseable
  | environmentEmpty
  | mapTargetEmpty
  | maxAgeZero
  | replicationZero
  | maintenanceZero
  | updateZero
  deriving DecidableEq

/-- The wording of a fault. -/
def Fault.message : Fault → String
  | unparseable => "Failed to parse config"
  | environmentEmpty => "node.environment must not be empty"
  | mapTargetEmpty => "discovery.map_target must not be empty"
  | maxAgeZero => "discovery.max_age_secs must be positive"
  | replicationZero => "store.replication_interval_secs must be positive"
  | maintenanceZero => "store.maintenance_interval_secs must be positive"
  | updateZero => "auth.update_interval_secs must be positive"

/-- Why the settings in a file are refused. -/
inductive FileFault
  -- The file is not there or is no text.
  | unreadable
  | invalid (fault : Fault)
  deriving DecidableEq

/-- The wording of a fault of the file at a path. -/
def FileFault.message (path : String) : FileFault → String
  | unreadable => s!"Failed to read config file: {path}"
  | invalid _ => s!"Invalid config file: {path}"

/-- A group of settings, by name or in order. -/
inductive Section
  | named (members : List (String × Toml))
  | listed (items : List Toml)

namespace Section

/-- The settings that a value groups. -/
def ofValue? : Toml → Option Section
  | .table _ members => some (named members)
  | .array items => some (listed items)
  | .tables elements => some (listed elements)
  | _ => none

/-- A setting, given its place and its name, and what its absence means in each case. -/
def get {α : Type} (settings : Section) (place : Nat) (name : String) (take : Toml → Option α)
    (unnamed unlisted : Option α) : Option α :=
  match settings with
  | named members =>
    match Toml.member? members name with
    | some value => take value
    | none => unnamed
  | listed items =>
    match items[place]? with
    | some value => take value
    | none => unlisted

/-- A setting that has to be given. -/
def required {α : Type} (settings : Section) (place : Nat) (name : String)
    (take : Toml → Option α) : Option α := settings.get place name take none none

/-- A setting that may be left out. -/
def withDefault {α : Type} (settings : Section) (place : Nat) (name : String)
    (take : Toml → Option α) (default : α) : Option α :=
  settings.get place name take (some default) (some default)

/-- A setting that may be left out where settings have names. -/
def optional {α : Type} (settings : Section) (place : Nat) (name : String)
    (take : Toml → Option α) : Option (Option α) :=
  settings.get place name (fun value => (take value).map some) (some none) none

end Section

/-- A text. -/
def text? : Toml → Option String
  | .string value => some value
  | _ => none

/-- A truth value. -/
def bool? : Toml → Option Bool
  | .boolean value => some value
  | _ => none

/-- A number that is not negative. -/
def nat? : Toml → Option Nat
  | .integer value => if 0 ≤ value then some value.toNat else none
  | _ => none

/-- A list of texts. -/
def texts? : Toml → Option (List String)
  | .array items => items.mapM text?
  | _ => none

/-- Whether a value has nothing in it. -/
def isEmpty : Toml → Bool
  | .table _ members => members.isEmpty
  | .array items => items.isEmpty
  | .tables elements => elements.isEmpty
  | _ => false

/-- A phase, by its name or as a table with nothing but an empty value under that name. -/
def phase? : Toml → Option Phase
  | .string name => Phase.ofName? name
  | .table _ [(name, value)] => if isEmpty value then Phase.ofName? name else none
  | _ => none

/-- The settings of who a node is. -/
def node? (value : Toml) : Option NodeConfig := do
  let settings ← Section.ofValue? value
  return {
    environment := ← settings.required 0 "environment" text?
    pool := ← settings.withDefault 1 "pool" text? generalPool
    location := ← settings.withDefault 2 "location" text? "/"
    nodeId := ← settings.optional 3 "node_id" text? }

/-- The settings of announcements. -/
def discovery? (value : Toml) : Option DiscoveryConfig := do
  let settings ← Section.ofValue? value
  return {
    dynamicEnabled := ← settings.withDefault 0 "dynamic_enabled" bool? true
    maxAgeSeconds := ← settings.withDefault 1 "max_age_secs" nat? 90
    mapTarget := ← settings.withDefault 2 "map_target" text? generalPool
    phase := ← settings.withDefault 3 "replication_mode" phase? .one }

/-- The settings of the store. -/
def store? (value : Toml) : Option StoreConfig := do
  let settings ← Section.ofValue? value
  return {
    replicationSeconds := ← settings.withDefault 0 "replication_interval_secs" nat? 60
    remoteTimeoutMillis := ← settings.withDefault 1 "remote_timeout_ms" nat? 5000
    maintenanceSeconds := ← settings.withDefault 2 "maintenance_interval_secs" nat? 60 }

/-- The settings of checks. -/
def auth? (value : Toml) : Option AuthConfig := do
  let settings ← Section.ofValue? value
  return {
    enabled := ← settings.withDefault 0 "enabled" bool? true
    updateSeconds := ← settings.withDefault 1 "update_interval_secs" nat? 10 }

/-- The settings of the interface. -/
def api? (value : Toml) : Option ApiConfig := do
  let settings ← Section.ofValue? value
  return {
    listen := ← settings.withDefault 0 "listen" text? "0.0.0.0:4111"
    advertiseUri := ← settings.optional 1 "advertise_uri" text?
    seeds := ← settings.withDefault 2 "seeds" texts? [] }

/-- The settings that the tables of a file spell. -/
def ofTables? (members : List (String × Toml)) : Option Config := do
  let groups := Section.named members
  -- A group that is left out has all its defaults.
  let nothing : Toml := .table .headed []
  return {
    node := ← groups.required 0 "node" node?
    discovery := ← discovery? ((Toml.member? members "discovery").getD nothing)
    store := ← store? ((Toml.member? members "store").getD nothing)
    auth := ← auth? ((Toml.member? members "auth").getD nothing)
    api := ← api? ((Toml.member? members "api").getD nothing) }

/-- The first fault of settings that are of the right types. -/
def fault? (config : Config) : Option Fault :=
  if config.node.environment == "" then some .environmentEmpty
  else if config.discovery.mapTarget == "" then some .mapTargetEmpty
  else if config.discovery.maxAgeSeconds == 0 then some .maxAgeZero
  else if config.store.replicationSeconds == 0 then some .replicationZero
  else if config.store.maintenanceSeconds == 0 then some .maintenanceZero
  else if config.auth.updateSeconds == 0 then some .updateZero
  else none

/-- The settings in a text. -/
def parse (text : String) : Except Fault Config :=
  match (Toml.parse? text).bind ofTables? with
  | none => .error .unparseable
  | some config =>
    match config.fault? with
    | some fault => .error fault
    | none => .ok config

/-- The settings in the bytes of a file, if there is one. -/
def load (file : Option (List UInt8)) : Except FileFault Config :=
  match file.bind fun bytes => String.fromUTF8? ⟨bytes.toArray⟩ with
  | none => .error .unreadable
  | some text => (parse text).mapError .invalid

/-- The age in milliseconds of an announcement that states none. -/
def maxAgeMillis (config : Config) : Nat := config.discovery.maxAgeSeconds * 1000

/-- The nanoseconds between two announcements of a node itself: a third of the age they have, but
a second at least. -/
def announcePeriodNanos (config : Config) : Nat :=
  max (config.discovery.maxAgeSeconds * 1000000000 / 3) 1000000000

end Config

namespace ApiConfig

/-- The port at the end of a place to listen at; a plus sign in front of it is allowed. -/
def port? (listen : String) : Option Nat :=
  let last := (listen.toList.reverse.takeWhile (· ≠ ':')).reverse
  let digits := match last with
    | '+' :: rest => rest
    | _ => last
  if digits.isEmpty || !digits.all Char.isDigit then none
  else
    let port := Toml.numberOf 10 digits
    if port ≤ 65535 then some port else none

/-- The address under which a node announces itself on a machine of some name. -/
def advertisedUri (api : ApiConfig) (hostName : String) : String :=
  api.advertiseUri.getD s!"http://{hostName}:{(port? api.listen).getD 4111}"

end ApiConfig

/-- The announcement of a node's own discovery service. -/
def NodeConfig.selfAnnouncement (node : NodeConfig) (nodeId uri : String) : Announcement where
  environment := node.environment
  pool := node.pool
  location := node.location
  services := [{
    id := some (nodeId ++ "-discovery")
    kind := some discoveryKind
    properties := some (Index.ofList [("http", uri)]) }]
  maxAge := none

end Roster
