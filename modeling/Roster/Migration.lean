import Roster.Entry

/-! The renaming of the fleet-wide pool, during which its old and new names mean the same pool. -/

namespace Roster

/-- The old name of the fleet-wide pool. -/
def generalPool : String := "general"

/-- How far a node has come with the renaming. -/
inductive Phase
  -- The pool is stored under its old name.
  | one
  -- The pool is stored under whichever name arrives.
  | two
  -- The pool is stored under its new name.
  | three
  deriving DecidableEq, Inhabited

namespace Phase

/-- The name of a phase in settings and answers. -/
def name : Phase → String
  | one => "phase_one"
  | two => "phase_two"
  | three => "phase_three"

/-- All phases in order. -/
def all : List Phase := [one, two, three]

/-- The phase of a name. -/
def ofName? (name : String) : Option Phase := all.find? (fun phase => phase.name == name)

end Phase

/-- The new name of the fleet-wide pool and the phase of one node. -/
structure Migration where
  mapTarget : String
  phase : Phase
  deriving DecidableEq, Inhabited

namespace Migration

/-- The name under which a node stores a pool. -/
def translatePool (migration : Migration) (pool : String) : String :=
  match migration.phase with
  | .one => if pool == migration.mapTarget then generalPool else pool
  | .two => pool
  | .three => if pool == generalPool then migration.mapTarget else pool

/-- A service with its pool as a node stores it. -/
def translateService (migration : Migration) (service : Service) : Service :=
  { service with pool := migration.translatePool service.pool }

/-- An entry from a peer with all its pools as a node stores them. -/
def translate (migration : Migration) (entry : Entry) : Entry :=
  { entry with services := entry.services.map (·.map migration.translateService) }

/-- The names that a query for a pool has to match, since both can be in use at once. -/
def aliases (migration : Migration) (pool : String) : List String :=
  if pool ≠ migration.mapTarget ∧ pool ≠ generalPool then [pool]
  else if migration.mapTarget = generalPool then [generalPool]
  else [generalPool, migration.mapTarget]

end Migration

end Roster
