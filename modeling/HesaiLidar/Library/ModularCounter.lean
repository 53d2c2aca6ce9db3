import Mathlib.Algebra.BigOperators.Group.List.Basic
import Mathlib.Data.List.Chain
import Mathlib.Data.Nat.ModEq

/-!
# Logs of a counter kept modulo m

Every entry of the log says by how much it moved the counter on and what the counter then reads. The sum
of the moves is the unwrapped advance; two equal readings lie whole laps apart.
-/

namespace ModularCounter

variable {α : Type*} {m : Nat} {reading move : α → Nat} {first last : α} {between : List α}

/-- The counter reads what the earlier entry left, moved on by the later entry. -/
def Counts (m : Nat) (reading move : α → Nat) (earlier later : α) : Prop :=
  reading later = (reading earlier + move later) % m

def advance (move : α → Nat) (log : List α) : Nat := (log.map move).sum

@[simp] theorem advance_nil : advance move [] = 0 := rfl

@[simp] theorem advance_cons (a : α) (log : List α) : advance move (a :: log) = move a + advance move log := by
  simp [advance]

@[simp] theorem advance_append (front back : List α) :
    advance move (front ++ back) = advance move front + advance move back := by
  simp [advance]

theorem reading_of_chain (chain : (first :: (between ++ [last])).IsChain (Counts m reading move)) :
    reading last = (reading first + advance move (between ++ [last])) % m := by
  induction between generalizing first with
  | nil =>
    have next : Counts m reading move first last := List.isChain_pair.mp chain
    rw [next]
    simp
  | cons second between ih =>
    obtain ⟨next, rest⟩ := List.isChain_cons_cons.mp chain
    rw [ih rest, show reading second = _ from next, Nat.mod_add_mod, List.cons_append, advance_cons, Nat.add_assoc]

/-- Between two equal readings the counter has gone round a whole number of times, and at least once if it
has moved at all. -/
theorem laps_of_same_reading (chain : (first :: (between ++ [last])).IsChain (Counts m reading move))
    (same : reading first = reading last) (moved : 0 < move last) :
    ∃ laps, 0 < laps ∧ advance move (between ++ [last]) = laps * m := by
  have wrapped : reading first % m = (reading first + advance move (between ++ [last])) % m % m :=
    congrArg (· % m) (same.trans (reading_of_chain chain))
  rw [Nat.mod_mod] at wrapped
  have level : 0 ≡ advance move (between ++ [last]) [MOD m] := Nat.ModEq.add_left_cancel' (reading first) wrapped
  obtain ⟨laps, whole⟩ := Nat.modEq_zero_iff_dvd.mp level.symm
  refine ⟨laps, ?_, by rw [whole, Nat.mul_comm]⟩
  have positive : 0 < advance move (between ++ [last]) := by
    rw [advance_append, advance_cons]
    omega
  rw [whole] at positive
  exact Nat.pos_of_mul_pos_left positive

end ModularCounter
