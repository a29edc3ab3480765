import Mathlib.Data.List.Forall2
import Mathlib.Data.List.Induction
import Roster.Proofs.Store.Translation

/-!
Entries that are handed on from node to node, each of which translates what it is handed. At the end
of a chain an entry is what the last node that settles its spelling would have made of the original.
-/

namespace Roster

/-- Whether a service is another one with nothing but the name of the fleet-wide pool changed. -/
structure Service.Renames (mapTarget : String) (original service : Service) : Prop where
  rest : service = { original with pool := service.pool }
  -- A pool that changed had one of the two names and has the other.
  pool : service.pool = original.pool ∨
    (original.pool ∈ [generalPool, mapTarget] ∧ service.pool ∈ [generalPool, mapTarget])

/-- Services that are spelled alike differ in the name of the fleet-wide pool alone. -/
theorem Service.renames_of_unify_eq {mapTarget : String} {original service : Service}
    (alike : original.unify mapTarget = service.unify mapTarget) :
    original.Renames mapTarget service := by
  obtain ⟨id, nodeId, kind, pool, location, properties⟩ := original
  simp only [unify, unifyPool, mk.injEq] at alike
  obtain ⟨rfl, rfl, rfl, pools, rfl, rfl⟩ := alike
  refine ⟨rfl, ?_⟩
  -- Two names that are read alike are equal, or they are the old one and the new one.
  by_cases new : pool = mapTarget <;> by_cases named : service.pool = mapTarget
  · exact .inl (named.trans new.symm)
  · simp only [if_pos new, if_neg named] at pools
    exact .inr ⟨by simp [new], by simp [← pools]⟩
  · simp only [if_neg new, if_pos named] at pools
    exact .inr ⟨by simp [pools], by simp [named]⟩
  · simp only [if_neg new, if_neg named] at pools
    exact .inl pools.symm

namespace Migration

variable {mapTarget : String}

/-- An entry handed on by nodes in given phases, each of which translates what it is handed. -/
def relay (mapTarget : String) (phases : List Phase) (entry : Entry) : Entry :=
  phases.foldl (fun entry phase => translate ⟨mapTarget, phase⟩ entry) entry

/-- The last of some phases that settles under which name the fleet-wide pool is stored. -/
def lastSettled? (phases : List Phase) : Option Phase := (phases.filter (· ≠ .two)).getLast?

/-- The last node of a chain translates what the others have made of an entry. -/
@[simp] theorem relay_concat (phases : List Phase) (last : Phase) (entry : Entry) :
    relay mapTarget (phases ++ [last]) entry =
      translate ⟨mapTarget, last⟩ (relay mapTarget phases entry) :=
  List.foldl_concat ..

/-- In phase two a node takes an entry as it comes. -/
@[simp] theorem translate_two (entry : Entry) : translate ⟨mapTarget, .two⟩ entry = entry := by
  -- In the second phase both names of the pool are left as they are.
  have same : translateService ⟨mapTarget, .two⟩ = id := rfl
  simp [translate, same]

/-- No chain of nodes changes how an entry is read when both names of the pool are read alike. -/
theorem unify_relay (phases : List Phase) (entry : Entry) :
    (relay mapTarget phases entry).unify mapTarget = entry.unify mapTarget := by
  induction phases using List.reverseRecOn with
  | nil => rfl
  | append_singleton phases last ih =>
    -- A translation moves pools only between two names that are read alike.
    rw [relay_concat]
    exact (Entry.unify_translate ⟨mapTarget, last⟩ _).trans ih

/-- A node that settles the spelling makes of an entry what it makes of the original. -/
theorem translate_relay {last : Phase} (settled : last ≠ .two) (phases : List Phase)
    (entry : Entry) :
    translate ⟨mapTarget, last⟩ (relay mapTarget phases entry) =
      translate ⟨mapTarget, last⟩ entry := by
  -- A settled node reads only the unified form, which no node on the way changes.
  have reads := @translate_unify ⟨mapTarget, last⟩ settled
  rw [← reads (relay mapTarget phases entry), unify_relay, reads]

/-- A chain comes to the translation by its last node that settles the spelling, if there is one. -/
theorem relay_eq (phases : List Phase) (entry : Entry) :
    relay mapTarget phases entry =
      match lastSettled? phases with
      | some last => translate ⟨mapTarget, last⟩ entry
      | none => entry := by
  -- The induction is on the last node, which settles the spelling or takes what it is handed.
  induction phases using List.reverseRecOn with
  | nil => rfl
  | append_singleton phases last ih =>
    rw [relay_concat]
    by_cases settled : last = .two
    · subst settled
      have before : lastSettled? (phases ++ [.two]) = lastSettled? phases := by
        simp [lastSettled?]
      rw [translate_two, before, ih]
    · have here : lastSettled? (phases ++ [last]) = some last := by
        simp [lastSettled?, settled]
      rw [here, translate_relay settled]

/-- A chain renames services one by one, and keeps all else about an entry. -/
theorem renames_relay (phases : List Phase) (entry : Entry) :
    Option.Rel (List.Forall₂ (Service.Renames mapTarget)) entry.services
      (relay mapTarget phases entry).services := by
  have alike := congrArg Entry.services (@unify_relay mapTarget phases entry)
  rw [Entry.unify_services, Entry.unify_services] at alike
  cases after : (relay mapTarget phases entry).services with
  | none =>
    -- A tombstone stays what it is, and nothing else becomes one.
    rw [after, Option.map_none, eq_comm, Option.map_eq_none_iff] at alike
    rw [alike]
    exact .none
  | some services =>
    rw [after, Option.map_some, eq_comm, Option.map_eq_some_iff] at alike
    obtain ⟨originals, before, spelled⟩ := alike
    rw [before]
    -- Lists that are spelled alike have services that are spelled alike place by place.
    have pairs : List.Forall₂ (· = ·) (originals.map (Service.unify mapTarget))
        (services.map (Service.unify mapTarget)) := by
      rw [List.forall₂_eq_eq_eq]
      exact spelled
    have alike := List.forall₂_map_right_iff.1 (List.forall₂_map_left_iff.1 pairs)
    exact .some (alike.imp fun _ _ => Service.renames_of_unify_eq)

/-- A chain keeps everything about an entry but its services. -/
theorem relay_eq_withServices (phases : List Phase) (entry : Entry) :
    relay mapTarget phases entry =
      { entry with services := (relay mapTarget phases entry).services } := by
  -- What is not a service is the same in the entry with one name for the pool.
  have alike := @unify_relay mapTarget phases entry
  generalize relay mapTarget phases entry = final at alike
  obtain ⟨nodeId, services, timestamp, maxAge, announcer⟩ := final
  simp only [Entry.unify, Entry.mk.injEq] at alike ⊢
  exact ⟨alike.1, trivial, alike.2.2⟩

/-- In phase one an entry is stored as it is exactly if it has no service under the new name. -/
theorem translate_one_eq_self_iff {entry : Entry} :
    translate ⟨mapTarget, .one⟩ entry = entry ↔
      ∀ service ∈ entry.allServices, service.pool = mapTarget → service.pool = generalPool := by
  -- The first phase renames the new pool alone, so all depends on whether a service is in it.
  obtain ⟨nodeId, services, timestamp, maxAge, announcer⟩ := entry
  have kept : ∀ service : Service, translateService ⟨mapTarget, .one⟩ service = service ↔
      (service.pool = mapTarget → service.pool = generalPool) := by
    intro service
    obtain ⟨id, node, kind, pool, location, properties⟩ := service
    by_cases new : pool = mapTarget
    · simp [translateService, translatePool, new, eq_comm]
    · simp [translateService, translatePool, new]
  cases services with
  | none => simp [translate, Entry.allServices]
  | some services =>
    have each := List.map_inj_left (l := services) (f := translateService ⟨mapTarget, .one⟩)
      (g := id)
    rw [List.map_id] at each
    simp [translate, Entry.allServices, each, kept]

/--
Along a chain of nodes only the last phase that settles the spelling shows.

An entry that each node translates in turn ends as the last node outside phase two would have
translated it, and as it was if there is no such node. It keeps everything but the pools of its
services, and these keep their number and order; a pool changes only from one name of the fleet-wide
pool to the other. In particular a second translation changes nothing, and through phases one, three
and one an entry comes back as it was exactly if no service has the fleet-wide pool under its new
name.
-/
theorem relay_last_settles (mapTarget : String) (phases : List Phase) (entry : Entry) :
    let final := relay mapTarget phases entry
    (final = match lastSettled? phases with
      | some last => translate ⟨mapTarget, last⟩ entry
      | none => entry) ∧
    final = { entry with services := final.services } ∧
    Option.Rel (List.Forall₂ (Service.Renames mapTarget)) entry.services final.services ∧
    (entry.isTombstone = true → final = entry) ∧
    (∀ phase, translate ⟨mapTarget, phase⟩ (translate ⟨mapTarget, phase⟩ entry) =
      translate ⟨mapTarget, phase⟩ entry) ∧
    (relay mapTarget [.one, .three, .one] entry = entry ↔
      ∀ service ∈ entry.allServices, service.pool = mapTarget → service.pool = generalPool) := by
  intro final
  have renames : Option.Rel (List.Forall₂ (Service.Renames mapTarget)) entry.services
      final.services := renames_relay phases entry
  have kept : final = { entry with services := final.services } :=
    relay_eq_withServices phases entry
  refine ⟨relay_eq phases entry, kept, renames, fun gone => ?_, fun phase => ?_, ?_⟩
  · -- Without services before there are none afterwards.
    have none : entry.services = none := Option.isNone_iff_eq_none.1 gone
    rw [none] at renames
    cases after : final.services with
    | none => rw [kept, after, ← none]
    | some services =>
      rw [after] at renames
      cases renames
  · -- Two chains that end with the same phase are settled by it, or neither is.
    show relay mapTarget [phase, phase] entry = relay mapTarget [phase] entry
    rw [relay_eq, relay_eq]
    cases phase <;> rfl
  · -- The last phase one settles the chain.
    rw [relay_eq]
    exact translate_one_eq_self_iff

/-- A chain that ends in phase two keeps the old name that the node before it has given. -/
theorem relay_last_settles_mixed :
    let service (pool : String) : Service := ⟨"s", "a", "api", pool, "x", ∅⟩
    let entry (pools : List String) : Entry := .live "a" (pools.map service) 1 10 none
    let gone := Entry.tombstone "b" 5 none
    relay "fleet" [.three, .one, .two] (entry ["fleet", "other", "general"]) =
        entry ["general", "other", "general"] ∧
      (gone.isTombstone = true ∧ relay "fleet" [.one, .three] gone = gone) ∧
      relay "fleet" [.one, .three, .one] (entry ["general", "other"]) =
        entry ["general", "other"] ∧
      relay "fleet" [.one, .three, .one] (entry ["fleet"]) ≠ entry ["fleet"] := by
  -- The parts of the theorem are applied to chains of their own.
  intro service entry gone
  have settled :=
    relay_last_settles "fleet" [.three, .one, .two] (entry ["fleet", "other", "general"])
  have returns (pools : List String) := (relay_last_settles "fleet" [] (entry pools)).2.2.2.2.2
  refine ⟨settled.1.trans (by decide), ⟨rfl, ?_⟩, (returns _).2 (by decide), ?_⟩
  · exact (relay_last_settles "fleet" [.one, .three] gone).2.2.2.1 rfl
  · exact fun same => absurd ((returns _).1 same) (by decide)

end Migration

end Roster
