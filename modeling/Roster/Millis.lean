/-! Points in time and spans of time, as whole milliseconds in a signed 64-bit range. -/

namespace Roster

/-- A count of milliseconds between `-2^63` and `2^63 - 1`. -/
structure Millis where
  val : Int
  inRange : -9223372036854775808 ≤ val ∧ val < 9223372036854775808
  deriving DecidableEq

namespace Millis

@[ext] theorem ext {a b : Millis} (same : a.val = b.val) : a = b := by
  cases a; cases b; cases same; rfl

instance : LT Millis := ⟨fun a b => a.val < b.val⟩
instance : LE Millis := ⟨fun a b => a.val ≤ b.val⟩
instance (a b : Millis) : Decidable (a < b) := inferInstanceAs (Decidable (a.val < b.val))
instance (a b : Millis) : Decidable (a ≤ b) := inferInstanceAs (Decidable (a.val ≤ b.val))

theorem lt_def {a b : Millis} : a < b ↔ a.val < b.val := Iff.rfl
theorem le_def {a b : Millis} : a ≤ b ↔ a.val ≤ b.val := Iff.rfl

/-- The number itself, when it lies in the range. -/
def ofInt? (n : Int) : Option Millis :=
  if within : -9223372036854775808 ≤ n ∧ n < 9223372036854775808 then some ⟨n, within⟩ else none

/-- The point of the range nearest to a number. -/
def clamp (n : Int) : Millis :=
  -- The bounds are applied from above first, and both hold of the result.
  ⟨max (-9223372036854775808) (min n 9223372036854775807), by omega⟩

/-- The low 64 bits of a number, read as a signed word. -/
def wrap (n : Int) : Millis :=
  ⟨Int.bmod n 18446744073709551616, by
    -- The balanced remainder lies in the half-open interval around zero.
    have low := Int.le_bmod (x := n) (m := 18446744073709551616) (by decide)
    have high := Int.bmod_lt (x := n) (m := 18446744073709551616) (by decide)
    omega⟩

/-- The last representable instant. -/
def latest : Millis := clamp 9223372036854775807

/-- Midnight at the start of the epoch. -/
def zero : Millis := ⟨0, by decide⟩

instance : Inhabited Millis := ⟨zero⟩
instance (n : Nat) : OfNat Millis n := ⟨clamp n⟩

/-- The instant a span later, held at the end of the range. -/
def later (start span : Millis) : Millis := clamp (start.val + span.val)

/-- The next instant, held at the end of the range. -/
def next (t : Millis) : Millis := clamp (t.val + 1)

@[simp] theorem val_clamp (n : Int) :
    (clamp n).val = max (-9223372036854775808) (min n 9223372036854775807) := rfl

/-- Below the last instant, the next one is one millisecond away. -/
theorem val_next {t : Millis} (early : t < latest) : t.next.val = t.val + 1 := by
  -- The range bounds of the argument keep the sum inside the range.
  have bounds := t.inRange
  simp only [lt_def, latest, val_clamp] at early
  simp only [next, val_clamp]
  omega

end Millis

end Roster
