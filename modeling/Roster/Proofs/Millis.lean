import Roster.Millis
import Mathlib.Order.Defs.LinearOrder

/-! Instants are linearly ordered, as the numbers they are. -/

namespace Roster.Millis

-- The comparisons are those of the model, so all that holds of an order holds of its definitions.
instance : LinearOrder Millis where
  le_refl t := Int.le_refl t.val
  le_trans _ _ _ first second := Int.le_trans first second
  lt_iff_le_not_ge _ _ := Int.lt_iff_le_and_not_ge
  le_antisymm _ _ below above := Millis.ext (Int.le_antisymm below above)
  le_total a b := Int.le_total a.val b.val
  toDecidableLE := fun a b => inferInstanceAs (Decidable (a.val ≤ b.val))

end Roster.Millis
