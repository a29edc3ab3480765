/-! The place where a component keeps its background loop, of which it runs one at most. -/

namespace Roster

/-- A background loop, numbered in the order in which the loops of a component were begun. -/
structure Loop where
  number : Nat
  cancelled : Bool
  deriving DecidableEq

/-- All loops that a component has begun, the latest first, and whether the latest is kept. -/
structure Slot where
  loops : List Loop
  occupied : Bool
  deriving DecidableEq, Inhabited

namespace Slot

/-- The place of a component that has begun no loop. -/
def empty : Slot := ⟨[], false⟩

/-- Whether a loop is kept. -/
def isRunning (slot : Slot) : Bool := slot.occupied

/-- Begins a loop unless one is kept. -/
def start (slot : Slot) : Slot :=
  if slot.occupied then slot else ⟨⟨slot.loops.length, false⟩ :: slot.loops, true⟩

/-- Gives the kept loop up and cancels it. -/
def stop (slot : Slot) : Slot :=
  match slot.occupied, slot.loops with
  | true, latest :: others => ⟨{ latest with cancelled := true } :: others, false⟩
  | _, loops => ⟨loops, false⟩

/-- The loops that go on. -/
def alive (slot : Slot) : List Loop := slot.loops.filter (!·.cancelled)

@[simp] theorem isRunning_start (slot : Slot) : slot.start.isRunning = true := by
  -- A slot that keeps a loop is left alone, and an empty one is filled.
  unfold start isRunning
  split <;> simp_all

@[simp] theorem isRunning_stop (slot : Slot) : slot.stop.isRunning = false := by
  -- Whatever was kept, the slot is empty afterwards.
  unfold stop isRunning
  split <;> rfl

end Slot

end Roster
