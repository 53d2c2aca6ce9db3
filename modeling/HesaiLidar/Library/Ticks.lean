import Mathlib.Algebra.Order.Floor.Ring
import Mathlib.Tactic.FieldSimp
import Mathlib.Tactic.Linarith
import Mathlib.Tactic.Ring

/-!
# Rounding down to ticks

Times rounded down to a whole number of ticks, `rate` ticks to the unit. Rounding never makes a distance of
whole ticks smaller.
-/

namespace Ticks

variable {α : Type*} [Field α] [LinearOrder α] [IsStrictOrderedRing α] [FloorRing α] {rate : Nat} {x y : α}

def down (rate : Nat) (x : α) : α := ⌊x * rate⌋ / rate

/-- A distance of at least some whole ticks stays at least that. -/
theorem down_shift (pos : 0 < rate) (ticks : Int) (apart : x + ticks / rate ≤ y) :
    down rate x + ticks / rate ≤ down rate y := by
  have positive : (0 : α) < rate := Nat.cast_pos.mpr pos
  have scaled : x * rate + ticks ≤ y * rate := by
    have product := mul_le_mul_of_nonneg_right apart positive.le
    rwa [add_mul, div_mul_cancel₀ _ positive.ne'] at product
  have floors : ⌊x * rate⌋ + ticks ≤ ⌊y * rate⌋ := by
    rw [← Int.floor_add_intCast]
    exact Int.floor_mono scaled
  unfold down
  rw [← add_div]
  apply div_le_div_of_nonneg_right _ positive.le
  exact_mod_cast floors

end Ticks
