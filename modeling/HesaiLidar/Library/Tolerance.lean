import Mathlib.Algebra.Order.Group.Defs
import Mathlib.Algebra.Order.Group.Unbundled.Basic
import Mathlib.Order.Bounds.Basic
import Mathlib.Tactic.Common

/-!
# Sequences that may fall back by a tolerance

A sequence keeps within `tolerance` when no value lies more than that below any earlier one. Comparing
each new value with the high-water mark is enough: small regressions in a row do not add up.
-/

namespace Tolerance

variable {α : Type*} [AddCommGroup α] [LinearOrder α] {tolerance mark t : α} {ts us : List α}

/-- No value of the sequence lies more than `tolerance` below an earlier one. -/
def Keeps (tolerance : α) (ts : List α) : Prop := ts.Pairwise fun earlier later => earlier - tolerance ≤ later

theorem keeps_nil : Keeps tolerance ([] : List α) := List.Pairwise.nil

theorem keeps_append :
    Keeps tolerance (ts ++ us) ↔
      Keeps tolerance ts ∧ Keeps tolerance us ∧ ∀ earlier ∈ ts, ∀ later ∈ us, earlier - tolerance ≤ later :=
  List.pairwise_append

theorem Keeps.sublist (keeps : Keeps tolerance us) (sub : ts.Sublist us) : Keeps tolerance ts :=
  List.Pairwise.sublist sub keeps

variable [IsOrderedAddMonoid α]

/-- A value near the mark is near everything below the mark. -/
theorem near_of_mark (near : mark - tolerance ≤ t) {earlier : α} (below : earlier ≤ mark) : earlier - tolerance ≤ t :=
  le_trans (sub_le_sub_right below tolerance) near

end Tolerance
