import Mathlib.Algebra.Order.Ring.Int
import Mathlib.Tactic.Common

/-!
# Differences of wrapped counters

Two counters are known modulo `m`. Their wrapped difference determines the true one as long as the
true one lies in the half-open window `[-h, h)` with `m = 2 * h`.
-/

namespace ModularWindow

variable {m h a b : Nat}

/-- `a - b` computed on the wrapped counters. -/
def wrappedSub (m a b : Nat) : Nat := (m - b % m + a % m) % m

theorem wrappedSub_cast (pos : 0 < m) : (wrappedSub m a b : Int) = ((a : Int) - b) % m := by
  have small := Nat.mod_lt b pos
  have cast : ((m - b % m + a % m : Nat) : Int) = m + ((a : Int) % m - (b : Int) % m) := by
    push_cast [Nat.le_of_lt small]
    omega
  rw [wrappedSub, Int.natCast_mod, cast, Int.add_emod_left, Int.sub_emod_emod, Int.emod_sub_emod]

section Window

variable (even : m = 2 * h) (lower : -(h : Int) ≤ a - b) (upper : (a : Int) - b < h)

include even upper in
theorem wrappedSub_of_le (le : b ≤ a) : wrappedSub m a b = a - b := by
  have cast := wrappedSub_cast (m := m) (a := a) (b := b) (by omega)
  rw [Int.emod_eq_of_lt (by omega) (by omega)] at cast
  omega

include even lower in
theorem wrappedSub_of_lt (lt : a < b) : wrappedSub m a b + b = m + a := by
  have cast := wrappedSub_cast (m := m) (a := a) (b := b) (by omega)
  rw [← Int.add_emod_right, Int.emod_eq_of_lt (by omega) (by omega)] at cast
  omega

include even lower upper

theorem wrappedSub_eq_zero_iff : wrappedSub m a b = 0 ↔ a = b := by
  rcases Nat.lt_or_ge a b with lt | le
  · have := wrappedSub_of_lt even lower lt
    omega
  · have := wrappedSub_of_le even upper le
    omega

/-- The lower half of the wrapped range is the forward half of the window. -/
theorem wrappedSub_lt_iff : wrappedSub m a b < h ↔ b ≤ a := by
  rcases Nat.lt_or_ge a b with lt | le
  · have := wrappedSub_of_lt even lower lt
    omega
  · have := wrappedSub_of_le even upper le
    omega

end Window

end ModularWindow
