import HesaiLidar.Library.ModularWindow
import Mathlib.Tactic.Ring

/-!
# Turning forward on a circle

Positions on a circle of `n` steps that only move forward, by less than a turn at a time. Unwrapping
them gives a line on which a mark `s` repeats every `n` steps; a step passes the mark exactly when the
mark lies on the arc it sweeps.
-/

namespace Turning

variable {α : Type*} {n a b s : Nat} {θ : Int} {xs : List Nat}

def neighbours (xs : List α) : List (α × α) := xs.zip xs.tail

@[simp] theorem neighbours_cons_cons (x y : α) (xs : List α) : neighbours (x :: y :: xs) = (x, y) :: neighbours (y :: xs) :=
  rfl

theorem mem_neighbours {pair : α × α} {xs : List α} :
    pair ∈ neighbours xs ↔ ∃ before after, xs = before ++ pair.1 :: pair.2 :: after := by
  induction xs with
  | nil => simp [neighbours]
  | cons x xs ih =>
    cases xs with
    | nil =>
      refine ⟨nofun, ?_⟩
      rintro ⟨before, after, split⟩
      have length := congrArg List.length split
      simp only [List.length_append, List.length_cons, List.length_nil] at length
      omega
    | cons y xs =>
      rw [neighbours_cons_cons, List.mem_cons, ih]
      constructor
      · rintro (rfl | ⟨before, after, split⟩)
        · exact ⟨[], xs, rfl⟩
        · exact ⟨x :: before, after, by rw [split]; rfl⟩
      · rintro ⟨_ | ⟨_, before⟩, after, split⟩
        · obtain ⟨rfl, rest⟩ := List.cons.inj split
          obtain ⟨rfl, -⟩ := List.cons.inj rest
          exact .inl rfl
        · exact .inr ⟨before, after, (List.cons.inj split).2⟩

theorem neighbours_map {β : Type*} (f : α → β) (xs : List α) :
    neighbours (xs.map f) = (neighbours xs).map (Prod.map f f) := by
  rw [neighbours, neighbours, ← List.map_tail, List.zip_map]

theorem neighbours_subset {pair : α × α} {stretch : List α} (before after : List α) (member : pair ∈ neighbours stretch) :
    pair ∈ neighbours (before ++ stretch ++ after) := by
  obtain ⟨front, back, rfl⟩ := mem_neighbours.mp member
  exact mem_neighbours.mpr ⟨before ++ front, back ++ after, by simp⟩

def forward (n a b : Nat) : Nat := ModularWindow.wrappedSub n b a

/-- `s` lies on the arc swept forward from `a`, excluded, to `b`, included. -/
def OnArc (n a b s : Nat) : Prop := 0 < forward n a s ∧ forward n a s ≤ forward n a b

instance : Decidable (OnArc n a b s) := inferInstanceAs (Decidable (_ ∧ _))

def turned (n : Nat) (xs : List Nat) : Nat := ((neighbours xs).map fun (a, b) => forward n a b).sum

/-- How often the mark has come up to a point of the unwrapped line. -/
def passes (n s : Nat) (θ : Int) : Int := (θ - s) / n

theorem forward_cast (pos : 0 < n) : (forward n a b : Int) = ((b : Int) - a) % n := ModularWindow.wrappedSub_cast pos

theorem forward_lt (pos : 0 < n) : forward n a b < n := Nat.mod_lt _ pos

theorem reaches (pos : 0 < n) (here : θ % n = a % n) : (θ + forward n a b) % n = b % n := by
  rw [forward_cast pos, Int.add_emod_emod, Int.add_emod, here, ← Int.add_emod]
  congr 1
  omega

/-- How far ahead the mark lies, from the position between two marks. -/
theorem forward_mark (pos : 0 < n) (here : θ % n = a % n) :
    (forward n a s : Int) = if (θ - s) % n = 0 then 0 else n - (θ - s) % n := by
  have low := Int.emod_nonneg (θ - s) (b := n) (by omega)
  have high := Int.emod_lt_of_pos (θ - s) (b := n) (by omega)
  have behind : (s : Int) - θ = -((θ - s) % n) + n * -((θ - s) / n) := by
    have split := Int.mul_ediv_add_emod (θ - s) n
    rw [Int.mul_neg]
    omega
  rw [forward_cast pos, ← Int.sub_emod_emod, ← here, Int.sub_emod_emod, behind, Int.add_mul_emod_self_left]
  split
  · rename_i zero
    rw [zero]
    rfl
  · rw [← Int.add_emod_right, Int.emod_eq_of_lt (by omega) (by omega)]
    omega

/-- A step passes the mark exactly when the mark lies on its arc, and then once. -/
theorem passes_step (pos : 0 < n) (here : θ % n = a % n) :
    passes n s (θ + forward n a b) = passes n s θ + if OnArc n a b s then 1 else 0 := by
  have low := Int.emod_nonneg (θ - s) (b := n) (by omega)
  have high := Int.emod_lt_of_pos (θ - s) (b := n) (by omega)
  have mark := forward_mark (s := s) pos here
  have short := forward_lt (n := n) (a := a) (b := b) pos
  have moved : θ + forward n a b - s = ((θ - s) % n + forward n a b) + n * ((θ - s) / n) := by
    have split := Int.mul_ediv_add_emod (θ - s) n
    omega
  have arc : OnArc n a b s ↔ (n : Int) ≤ (θ - s) % n + forward n a b := by
    unfold OnArc
    split at mark <;> omega
  rw [passes, passes, moved, Int.add_mul_ediv_left _ _ (by omega), Int.add_comm]
  congr 1
  split
  · rename_i beyond
    have beyond := arc.mp beyond
    rw [show (θ - s) % n + forward n a b = ((θ - s) % n + forward n a b - n) + n * 1 by omega,
      Int.add_mul_ediv_left _ _ (by omega), Int.ediv_eq_zero_of_lt (by omega) (by omega)]
    rfl
  · rename_i under
    rw [arc] at under
    exact Int.ediv_eq_zero_of_lt (by omega) (by omega)

@[simp] theorem turned_cons_cons : turned n (a :: b :: xs) = forward n a b + turned n (b :: xs) := by
  simp [turned]

variable (xs) in
/-- Along a whole list the mark is passed as often as it lies on an arc between neighbours. -/
theorem count_onArc (pos : 0 < n) (here : θ % n = a % n) :
    ((neighbours (a :: xs)).countP fun pair => OnArc n pair.1 pair.2 s : Nat) =
      passes n s (θ + turned n (a :: xs)) - passes n s θ := by
  induction xs generalizing θ a with
  | nil => simp [neighbours, turned]
  | cons b xs ih =>
    have rest := ih (reaches (b := b) pos here)
    have first := passes_step (s := s) (b := b) pos here
    rw [turned_cons_cons, neighbours_cons_cons, List.countP_cons]
    push_cast
    rw [rest, ← add_assoc, first]
    by_cases arc : OnArc n a b s
    · simp only [arc, if_true, decide_true]
      omega
    · simp only [arc, if_false, decide_false, Bool.false_eq_true]
      omega

theorem passes_add_turns (pos : 0 < n) (k : Nat) : passes n s (θ + (k * n : Nat)) = passes n s θ + k := by
  rw [passes, passes, show θ + (k * n : Nat) - s = θ - s + n * k by push_cast; ring,
    Int.add_mul_ediv_left _ _ (by omega)]

/-- Whoever turns past no mark turns less than once. -/
theorem turned_lt (pos : 0 < n) (clear : ∀ pair ∈ neighbours (a :: xs), ¬ OnArc n pair.1 pair.2 s) :
    turned n (a :: xs) < n := by
  have count := count_onArc (s := s) xs pos (rfl : (a : Int) % n = a % n)
  rw [List.countP_eq_zero.mpr (by simpa using clear)] at count
  have before := Int.mul_ediv_add_emod ((a : Int) - s) n
  have after := Int.mul_ediv_add_emod ((a : Int) + turned n (a :: xs) - s) n
  have low := Int.emod_nonneg ((a : Int) - s) (b := n) (by omega)
  have high := Int.emod_lt_of_pos ((a : Int) + turned n (a :: xs) - s) (b := n) (by omega)
  have same : ((a : Int) + turned n (a :: xs) - s) / n = ((a : Int) - s) / n := by
    unfold passes at count
    omega
  rw [same] at after
  omega

end Turning
