import Roster.Entry

/-! Announcements, by which a node submits its services, and what makes one acceptable. -/

namespace Roster

/-- A service as submitted, with parts that may be missing. -/
structure ServiceAnnouncement where
  id : Option String
  kind : Option String
  properties : Option Properties
  deriving DecidableEq

/-- The services a node submits for itself, all in one pool and at one location. -/
structure Announcement where
  environment : String
  pool : String
  location : String
  services : List ServiceAnnouncement
  maxAge : Option Millis
  deriving DecidableEq

namespace Announcement

/-- What is wrong with an announcement. -/
inductive Fault
  | environmentEmpty
  | poolEmpty
  | locationEmpty
  | ageNotPositive
  | idMissing (place : Nat)
  | kindMissing (place : Nat)
  | propertiesMissing (place : Nat)
  | environmentMismatch (submitted expected : String)
  deriving DecidableEq

/-- The wording of a fault. -/
def Fault.message : Fault → String
  | environmentEmpty => "environment must not be empty"
  | poolEmpty => "pool must not be empty"
  | locationEmpty => "location must not be empty"
  | ageNotPositive => "maxAgeInMs must be positive"
  | idMissing place => s!"services[{place}].id must not be null"
  | kindMissing place => s!"services[{place}].type must not be null"
  | propertiesMissing place => s!"services[{place}].properties must not be null"
  | environmentMismatch submitted expected =>
    s!"environment {submitted} does not match {expected}"

/-- Whether a text is absent or empty. -/
def isBlank (text : Option String) : Bool := text.getD "" == ""

/-- The first fault of a submitted service that stands at a place. -/
def serviceFault? (place : Nat) (service : ServiceAnnouncement) : Option Fault :=
  if isBlank service.id then some (.idMissing place)
  else if isBlank service.kind then some (.kindMissing place)
  else if service.properties.isNone then some (.propertiesMissing place)
  else none

/-- The first fault of submitted services, counted from a place on. -/
def servicesFault? : Nat → List ServiceAnnouncement → Option Fault
  | _, [] => none
  | place, service :: rest => (serviceFault? place service).or (servicesFault? (place + 1) rest)

/-- The first structural fault of an announcement. -/
def fault? (announcement : Announcement) : Option Fault :=
  if announcement.environment == "" then some .environmentEmpty
  else if announcement.pool == "" then some .poolEmpty
  else if announcement.location == "" then some .locationEmpty
  else if announcement.maxAge.any (fun age => age ≤ Millis.zero) then some .ageNotPositive
  else servicesFault? 0 announcement.services

/-- The fault for which a node of an environment refuses an announcement. -/
def faultIn? (environment : String) (announcement : Announcement) : Option Fault :=
  -- Structure is checked before the environment is compared.
  announcement.fault?.or <|
    if announcement.environment == environment then none
    else some (.environmentMismatch announcement.environment environment)

/-- The services that an announcement means for a node, with missing parts left empty. -/
def servicesFor (announcement : Announcement) (nodeId : String) : List Service :=
  announcement.services.map fun service =>
    { id := service.id.getD ""
      nodeId
      kind := service.kind.getD ""
      pool := announcement.pool
      location := announcement.location
      properties := service.properties.getD ∅ }

end Announcement

end Roster
