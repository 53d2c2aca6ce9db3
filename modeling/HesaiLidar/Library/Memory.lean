import HesaiLidar.Library.ByteOrder

/-!
# Lists of cells in a memory

A memory is a function from addresses. What it holds at an address is a list of cells, which is read part by part.
-/

namespace Memory

variable {α β : Type*} {memory : Nat → α} {i : Nat}

/-- The cells from address `i` on. -/
def Holds (memory : Nat → α) (i : Nat) (cells : List α) : Prop := (List.range' i cells.length).map memory = cells

theorem holds_nil : Holds memory i [] := rfl

theorem holds_append {as bs : List α} : Holds memory i (as ++ bs) ↔ Holds memory i as ∧ Holds memory (i + as.length) bs := by
  unfold Holds
  rw [List.length_append, ← List.range'_append_1, List.map_append]
  constructor
  · intro both
    exact List.append_inj both (by rw [List.length_map, List.length_range'])
  · rintro ⟨front, rest⟩
    rw [front, rest]

theorem holds_cons {a : α} {as : List α} : Holds memory i (a :: as) ↔ memory i = a ∧ Holds memory (i + 1) as := by
  unfold Holds
  rw [List.length_cons, List.range'_succ, List.map_cons, List.cons.injEq]

/-- The memory holds what is read from it. -/
theorem holds_read (memory : Nat → α) (i n : Nat) : Holds memory i ((List.range' i n).map memory) := by
  unfold Holds
  rw [List.length_map, List.length_range']

theorem length_flatMap {encode : β → List α} {step : Nat} {records : List β}
    (fixed : ∀ record ∈ records, (encode record).length = step) : (records.flatMap encode).length = records.length * step := by
  induction records with
  | nil => exact (Nat.zero_mul step).symm
  | cons record records ih =>
    obtain ⟨first, rest⟩ := List.forall_mem_cons.mp fixed
    rw [List.flatMap_cons, List.length_append, first, ih rest, List.length_cons, Nat.succ_mul, Nat.add_comm]

/-- Records of one size stand at multiples of that size. -/
theorem holds_flatMap {encode : β → List α} {step : Nat} {records : List β}
    (fixed : ∀ record ∈ records, (encode record).length = step) :
    Holds memory i (records.flatMap encode) ↔
      ∀ k (bound : k < records.length), Holds memory (i + k * step) (encode records[k]) := by
  induction records generalizing i with
  | nil => exact iff_of_true holds_nil fun k bound => absurd bound (Nat.not_lt_zero k)
  | cons record records ih =>
    obtain ⟨first, rest⟩ := List.forall_mem_cons.mp fixed
    rw [List.flatMap_cons, holds_append, first, ih rest]
    constructor
    · rintro ⟨front, behind⟩ k bound
      cases k with
      | zero => rwa [Nat.zero_mul]
      | succ k =>
        rw [Nat.succ_mul, Nat.add_comm (k * step), ← Nat.add_assoc]
        exact behind k (Nat.lt_of_succ_lt_succ bound)
    · intro each
      refine ⟨?_, fun k bound => ?_⟩
      · have front := each 0 (Nat.zero_lt_succ _)
        rwa [Nat.zero_mul] at front
      · have behind := each (k + 1) (Nat.succ_lt_succ bound)
        rwa [Nat.succ_mul, Nat.add_comm (k * step), ← Nat.add_assoc] at behind

/-! ### Numbers -/

variable {bytes : Nat → UInt8} {width n : Nat}

/-- The number of some width that stands at an address, least significant byte first. -/
def number (bytes : Nat → UInt8) (i width : Nat) : Nat := ByteOrder.ofLE ((List.range' i width).map bytes)

theorem number_lt (bytes : Nat → UInt8) (i width : Nat) : number bytes i width < 256 ^ width := by
  have bound := ByteOrder.ofLE_lt ((List.range' i width).map bytes)
  rwa [List.length_map, List.length_range'] at bound

theorem number_of_holds (fits : n < 256 ^ width) (holds : Holds bytes i (ByteOrder.toLE width n)) :
    number bytes i width = n := by
  unfold Holds at holds
  rw [ByteOrder.toLE_length] at holds
  rw [number, holds, ByteOrder.ofLE_toLE fits]

theorem holds_number (bytes : Nat → UInt8) (i width : Nat) : Holds bytes i (ByteOrder.toLE width (number bytes i width)) := by
  have same := ByteOrder.toLE_ofLE ((List.range' i width).map bytes)
  rw [List.length_map, List.length_range'] at same
  rw [number, same]
  exact holds_read bytes i width

end Memory
