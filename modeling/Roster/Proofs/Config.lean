import Mathlib.Tactic.MkIffOfInductiveProp
import Roster.Config
import Roster.Proofs.Announcement

/-!
Which settings pass the check of a node: those that name an environment and the new name of the
fleet-wide pool, and in which no period is zero. Nothing is asked of the node's own pool and place,
which the announcement that the node makes of itself has to name.
-/

namespace Roster

namespace Config

/-- Whether settings name what has to be named, and have no age and no period of zero. -/
@[mk_iff]
structure IsSound (config : Config) : Prop where
  environment : config.node.environment ≠ ""
  mapTarget : config.discovery.mapTarget ≠ ""
  maxAge : config.discovery.maxAgeSeconds ≠ 0
  replication : config.store.replicationSeconds ≠ 0
  maintenance : config.store.maintenanceSeconds ≠ 0
  update : config.auth.updateSeconds ≠ 0

/-- Settings have no fault exactly if they are sound. -/
theorem fault?_eq_none_iff {config : Config} : config.fault? = none ↔ config.IsSound := by
  -- The checks are made one after the other, and each passes exactly where its part is sound.
  simp only [fault?, check_eq_none_iff, beq_eq_false_iff_ne, and_true, isSound_iff]

/-- A text gives settings exactly if it spells them and they are sound. -/
theorem parse_eq_ok_iff {text : String} {config : Config} :
    parse text = .ok config ↔
      (Toml.parse? text).bind ofTables? = some config ∧ config.IsSound := by
  rw [parse]
  cases (Toml.parse? text).bind ofTables? with
  | none => simp
  | some spelled =>
    rw [Option.some.injEq, ← fault?_eq_none_iff]
    -- The settings that the text spells are checked, and are those that it gives.
    constructor
    · intro parsed
      cases faults : spelled.fault? with
      | some fault => simp [faults] at parsed
      | none =>
        obtain rfl : spelled = config := by simpa [faults] using parsed
        exact ⟨rfl, faults⟩
    · rintro ⟨rfl, sound⟩
      simp [sound]

/-- The settings that name an environment and leave everything else at its default. -/
def bare : Config where
  node := ⟨"t", generalPool, "/", none⟩
  discovery := ⟨true, 90, generalPool, .one⟩
  store := ⟨60, 5000, 60⟩
  auth := ⟨true, 10⟩
  api := ⟨"0.0.0.0:4111", none, []⟩

example : parse "[node]\nenvironment = \"t\"" = .ok bare := rfl

end Config

namespace NodeConfig

/-- The one service that a node announces of itself has all that it needs. -/
theorem isComplete_of_mem_selfAnnouncement {settings : NodeConfig} {nodeId uri : String}
    {service : ServiceAnnouncement}
    (listed : service ∈ (settings.selfAnnouncement nodeId uri).services) : service.IsComplete := by
  obtain rfl := List.mem_singleton.1 listed
  -- The id has an ending of its own, so that it is not empty even if that of the node is.
  exact ⟨⟨nodeId ++ "-discovery", rfl, by simp⟩, ⟨discoveryKind, rfl, by decide⟩, rfl⟩

/-- The announcement that a node makes of itself is sound if the settings name the environment, the
pool and the place of the node. -/
theorem isSound_selfAnnouncement_iff {settings : NodeConfig} (named : settings.environment ≠ "")
    (nodeId uri : String) :
    (settings.selfAnnouncement nodeId uri).IsSound ↔
      settings.pool ≠ "" ∧ settings.location ≠ "" := by
  -- All else that is checked is set when the announcement is made.
  constructor
  · intro sound
    exact ⟨sound.pool, sound.location⟩
  · rintro ⟨pool, location⟩
    have ageless : ∀ age ∈ (settings.selfAnnouncement nodeId uri).maxAge, Millis.zero < age := by
      intro age stated
      cases stated
    exact ⟨named, pool, location, ageless, fun _ => isComplete_of_mem_selfAnnouncement⟩

/-- What is wrong with the announcement that a node makes of itself: an empty pool, or else an empty
place. -/
def selfFault? (settings : NodeConfig) : Option Announcement.Fault :=
  if settings.pool = "" then some .poolEmpty
  else if settings.location = "" then some .locationEmpty
  else none

/-- The check of a node's own announcement comes to nothing but an empty pool or place. -/
theorem faultIn?_selfAnnouncement {settings : NodeConfig} (named : settings.environment ≠ "")
    (nodeId uri : String) :
    (settings.selfAnnouncement nodeId uri).faultIn? settings.environment =
      settings.selfFault? := by
  -- The first check that fails is that of the pool, and after it that of the location.
  unfold selfFault?
  by_cases pool : settings.pool = ""
  · simp [Announcement.faultIn?, Announcement.fault?, selfAnnouncement, named, pool]
  by_cases location : settings.location = ""
  · simp [Announcement.faultIn?, Announcement.fault?, selfAnnouncement, named, pool,
      location]
  · rw [if_neg pool, if_neg location, Announcement.faultIn?_eq_none_iff]
    exact ⟨(isSound_selfAnnouncement_iff named nodeId uri).2 ⟨pool, location⟩, rfl⟩

end NodeConfig

end Roster
