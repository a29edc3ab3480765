import Mathlib.Tactic.MkIffOfInductiveProp
import Roster.Announcement

/-!
Which announcements are sound. The check goes through the parts of an announcement in order and
names the first that is wrong; it finds no fault exactly in those that have all that they need.
-/

namespace Roster

/-- Whether a submitted service has an id, a kind and properties, though these may be none. -/
@[mk_iff]
structure ServiceAnnouncement.IsComplete (service : ServiceAnnouncement) : Prop where
  id : ∃ text ∈ service.id, text ≠ ""
  kind : ∃ text ∈ service.kind, text ≠ ""
  properties : service.properties.isSome

/-- Whether an announcement says where its services belong, has a positive age if it states one,
and submits complete services alone. -/
@[mk_iff]
structure Announcement.IsSound (announcement : Announcement) : Prop where
  environment : announcement.environment ≠ ""
  pool : announcement.pool ≠ ""
  location : announcement.location ≠ ""
  age : ∀ age ∈ announcement.maxAge, Millis.zero < age
  services : ∀ service ∈ announcement.services, service.IsComplete

/-- A check and those after it find no fault exactly if it passes and they find none. -/
theorem check_eq_none_iff {Fault : Type} {wrong : Bool} {fault : Fault} {rest : Option Fault} :
    (if wrong then some fault else rest) = none ↔ wrong = false ∧ rest = none := by
  cases wrong <;> simp

namespace Announcement

/-- A text is blank unless there is one with something in it. -/
theorem isBlank_eq_false_iff {text : Option String} :
    isBlank text = false ↔ ∃ written ∈ text, written ≠ "" := by
  -- A text that is missing counts as blank like one without letters.
  cases text with
  | none => simp [isBlank]
  | some written => simp [isBlank]

/-- A submitted service has no fault exactly if it is complete. -/
theorem serviceFault?_eq_none_iff {place : Nat} {service : ServiceAnnouncement} :
    serviceFault? place service = none ↔ service.IsComplete := by
  -- Every check is passed exactly if its own condition fails.
  simp only [serviceFault?, check_eq_none_iff, isBlank_eq_false_iff, Option.isNone_eq_false_iff,
    and_true, ServiceAnnouncement.isComplete_iff]

/-- Submitted services have no fault exactly if each is complete, wherever the count starts. -/
theorem servicesFault?_eq_none_iff {place : Nat} {services : List ServiceAnnouncement} :
    servicesFault? place services = none ↔ ∀ service ∈ services, service.IsComplete := by
  -- The first fault counts, so there is none exactly if no service has one.
  induction services generalizing place with
  | nil => simp [servicesFault?]
  | cons service rest ih =>
    rw [servicesFault?, Option.or_eq_none_iff, serviceFault?_eq_none_iff, ih, List.forall_mem_cons]

/-- No age is found too small exactly if the stated one is positive. -/
theorem any_not_positive_eq_false_iff {maxAge : Option Millis} :
    maxAge.any (fun age => age ≤ Millis.zero) = false ↔ ∀ age ∈ maxAge, Millis.zero < age := by
  -- An age that is not stated passes.
  cases maxAge with
  | none => simp
  | some age => simp [Millis.le_def, Millis.lt_def]

/-- An announcement has no structural fault exactly if it is sound. -/
theorem fault?_eq_none_iff {announcement : Announcement} :
    announcement.fault? = none ↔ announcement.IsSound := by
  -- The checks are made in the order of the parts, and each has to pass for the next to be made.
  simp only [fault?, check_eq_none_iff, beq_eq_false_iff_ne, any_not_positive_eq_false_iff,
    servicesFault?_eq_none_iff, isSound_iff]

instance (announcement : Announcement) : Decidable announcement.IsSound :=
  decidable_of_iff _ fault?_eq_none_iff

/-- A node of an environment has nothing against an announcement exactly if this is sound and for
the same environment. -/
theorem faultIn?_eq_none_iff {environment : String} {announcement : Announcement} :
    announcement.faultIn? environment = none ↔
      announcement.IsSound ∧ announcement.environment = environment := by
  -- The environment is looked at only where there is no other fault.
  rw [faultIn?, Option.or_eq_none_iff, fault?_eq_none_iff]
  simp

/-- The services that a sound announcement means for a node are the node's, and have an id and a
kind. -/
theorem IsSound.owned {announcement : Announcement} (sound : announcement.IsSound) {nodeId : String}
    {service : Service} (member : service ∈ announcement.servicesFor nodeId) :
    service.nodeId = nodeId ∧ service.id ≠ "" ∧ service.kind ≠ "" := by
  obtain ⟨submitted, listed, rfl⟩ := List.mem_map.1 member
  -- Neither the id nor the kind is left empty, for both are submitted.
  obtain ⟨⟨id, hasId, named⟩, ⟨kind, hasKind, ofKind⟩, -⟩ := sound.services submitted listed
  rw [Option.mem_def] at hasId hasKind
  simp only [hasId, hasKind, Option.getD_some]
  exact ⟨trivial, named, ofKind⟩

end Announcement

end Roster
