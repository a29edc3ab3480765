import Roster.Json
import Mathlib.Data.List.Forall2

/-!
Values that differ in the order of members alone. The members of an object may be written in any
order, at any depth; items of a list keep theirs.
-/

namespace Roster.Json

mutual

/-- Whether a value is another one with the members of its objects in some order. -/
inductive Reorders : Json → Json → Prop
  | refl (json : Json) : Reorders json json
  | arr {items others : List Json} (each : List.Forall₂ Reorders items others) :
    Reorders (.arr items) (.arr others)
  | obj {members others : List (String × Json)} (shuffles : Shuffles members others) :
    Reorders (.obj members) (.obj others)

/-- Whether members are others in some order, with their values reordered too. -/
inductive Shuffles : List (String × Json) → List (String × Json) → Prop
  | nil : Shuffles [] []
  -- The first member may stand anywhere among the others.
  | cons {name : String} {value other : Json} {members before after : List (String × Json)}
    (same : Reorders value other) (rest : Shuffles members (before ++ after)) :
    Shuffles ((name, value) :: members) (before ++ (name, other) :: after)

end

/-- The first member may stay in front. -/
theorem Shuffles.first {name : String} {value other : Json} {members others : List (String × Json)}
    (same : Reorders value other) (rest : Shuffles members others) :
    Shuffles ((name, value) :: members) ((name, other) :: others) :=
  -- A member goes back to the place it had if nothing stands before it.
  @Shuffles.cons name value other members [] others same rest

/-- Members are themselves in the order that they have. -/
theorem Shuffles.refl (members : List (String × Json)) : Shuffles members members := by
  -- Each member stays in front of those behind it.
  induction members with
  | nil => exact .nil
  | cons member members ih => exact .first (.refl member.2) ih

/-- A text has no members to be reordered. -/
theorem Reorders.eq_str {value : String} {json : Json} (same : Reorders (.str value) json) :
    json = .str value := by
  -- There are no members in a string to reorder.
  cases same
  rfl

/-- An integer has no members to be reordered. -/
theorem Reorders.eq_int {value : Int} {json : Json} (same : Reorders (.int value) json) :
    json = .int value := by
  -- There are no members in a number to reorder.
  cases same
  rfl

/-- A null has no members to be reordered. -/
theorem Reorders.eq_null {json : Json} (same : Reorders .null json) : json = .null := by
  -- There are no members in null to reorder.
  cases same
  rfl

/-- A list is reordered within its items. -/
theorem Reorders.items {items : List Json} {json : Json} (same : Reorders (.arr items) json) :
    ∃ others, json = .arr others ∧ List.Forall₂ Reorders items others := by
  -- A list keeps its items in place, each reordered within.
  cases same with
  | refl => exact ⟨items, rfl, List.forall₂_same.2 fun item _ => .refl item⟩
  | arr each => exact ⟨_, rfl, each⟩

/-- An object is reordered to an object of the same members in some order. -/
theorem Reorders.members {members : List (String × Json)} {json : Json}
    (same : Reorders (.obj members) json) :
    ∃ others, json = .obj others ∧ Shuffles members others := by
  -- An object stays as it is, which is a shuffle as well, or is shuffled.
  cases same with
  | refl => exact ⟨members, rfl, .refl members⟩
  | obj shuffles => exact ⟨_, rfl, shuffles⟩

/-- The names of members are the same in another order. -/
theorem Shuffles.names_perm {members others : List (String × Json)}
    (shuffles : Shuffles members others) :
    (others.map Prod.fst).Perm (members.map Prod.fst) := by
  induction members generalizing others with
  | nil =>
    cases shuffles
    exact .nil
  | cons member members ih =>
    cases shuffles with
    | cons same rest =>
      -- The first name moves in front of those before it.
      rw [List.map_append, List.map_cons, List.map_cons]
      refine List.perm_middle.trans (.cons _ ?_)
      rw [← List.map_append]
      exact ih rest

/-- Members with texts for values are the same pairs in another order. -/
theorem Shuffles.pairs {items : List (String × String)} {others : List (String × Json)}
    (shuffles : Shuffles (items.map fun (name, value) => (name, .str value)) others) :
    ∃ pairs : List (String × String), pairs.Perm items ∧
      others = pairs.map fun (name, value) => (name, .str value) := by
  induction items generalizing others with
  | nil =>
    cases shuffles
    exact ⟨[], .nil, rfl⟩
  | cons item items ih =>
    obtain ⟨name, value⟩ := item
    cases shuffles with
    | @cons _ _ _ _ before after same rest =>
      obtain ⟨pairs, perm, split⟩ := ih rest
      -- The pairs around the first one are those of the members around it.
      obtain ⟨front, back, rfl, rfl, rfl⟩ := List.append_eq_map_iff.1 split
      refine ⟨front ++ (name, value) :: back, List.perm_middle.trans (.cons _ perm), ?_⟩
      rw [same.eq_str, List.map_append, List.map_cons]

end Roster.Json
