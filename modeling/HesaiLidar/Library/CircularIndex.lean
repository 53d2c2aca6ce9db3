import Mathlib.Data.Nat.ModEq
import Mathlib.Tactic.Common

/-!
# Counters stored modulo a capacity

A counter `k` that only grows is stored as the slot `k % n`. Within a window shorter than `n` the
slots are pairwise distinct, and the wrapped distance between two slots is the distance between the
counters.
-/

namespace CircularIndex

variable {n a b : Nat}

theorem succ_mod (pos : 0 < n) (k : Nat) : (k + 1) % n = if k % n + 1 = n then 0 else k % n + 1 := by
  have bound := Nat.mod_lt k pos
  rw [← Nat.mod_add_mod]
  split
  · rename_i wraps
    rw [wraps, Nat.mod_self]
  · exact Nat.mod_eq_of_lt (by omega)

/-- Two counters less than a whole turn apart share a slot only when they are equal. -/
theorem mod_eq_iff (le : a ≤ b) (near : b - a < n) : a % n = b % n ↔ a = b := by
  constructor
  · intro same
    have divides : n ∣ b - a := (Nat.modEq_iff_dvd' le).mp same
    have zero := Nat.eq_zero_of_dvd_of_lt divides near
    omega
  · rintro rfl
    rfl

/-- The wrapped distance between the slots of two counters less than a turn apart. -/
theorem wrapped_distance (le : a ≤ b) (near : b - a < n) :
    (if a % n ≤ b % n then b % n - a % n else n - a % n + b % n) = b - a := by
  have ha := Nat.div_add_mod a n
  have hb := Nat.div_add_mod b n
  have la := Nat.mod_lt a (show 0 < n by omega)
  have lb := Nat.mod_lt b (show 0 < n by omega)
  -- The quotients differ by at most one because the counters differ by less than `n`.
  have lower : a / n ≤ b / n := Nat.div_le_div_right le
  have upper : b / n ≤ a / n + 1 := by
    rw [← Nat.add_div_right a (show 0 < n by omega)]
    exact Nat.div_le_div_right (by omega)
  rcases Nat.eq_or_lt_of_le lower with same | next
  · rw [same] at ha
    split <;> omega
  · obtain step : b / n = a / n + 1 := by omega
    rw [step, Nat.mul_add] at hb
    split <;> omega

end CircularIndex
