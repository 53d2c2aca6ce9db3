import Mathlib.Algebra.BigOperators.Group.List.Basic
import Mathlib.Tactic.Common

/-!
# Memory and records of one size

A memory is a list of cells. Stores at all its addresses in order fill it; records of one size that are
written back to back are found again at multiples of that size.
-/

namespace Records

variable {α β : Type*}

/-- The cells `[start, start + size)`, if the memory has them all. -/
def slice (memory : List α) (start size : Nat) : Option (List α) :=
  if start + size ≤ memory.length then some ((memory.drop start).take size) else none

theorem slice_all {memory : List α} {size : Nat} (length : memory.length = size) : slice memory 0 size = some memory := by
  subst length
  rw [slice, if_pos (by omega), List.drop_zero, List.take_length]

theorem slice_front {front rest : List α} {size : Nat} (length : front.length = size) :
    slice (front ++ rest) 0 size = some front := by
  subst length
  rw [slice, if_pos (by rw [List.length_append]; omega), List.drop_zero, List.take_left]

/-- Behind the front part, addresses count from its end. -/
theorem slice_behind {front rest : List α} {skipped size : Nat} (start : Nat) (length : front.length = skipped) :
    slice (front ++ rest) (skipped + start) size = slice rest start size := by
  subst length
  rw [slice, slice, List.length_append, List.drop_length_add_append]
  congr 1
  exact propext ⟨fun fits => by omega, fun fits => by omega⟩

/-- Stores of values at addresses, one after the other. -/
def storeAll (memory : List α) (writes : List (Nat × α)) : List α :=
  writes.foldl (fun memory write => memory.set write.1 write.2) memory

theorem storeAll_from (front rest : List α) {writes : List (Nat × α)}
    (addresses : writes.map Prod.fst = List.range' front.length rest.length) :
    storeAll (front ++ rest) writes = front ++ writes.map Prod.snd := by
  induction writes generalizing front rest with
  | nil =>
    cases rest with
    | nil => rfl
    | cons a rest => simp [List.range'] at addresses
  | cons write writes ih =>
    cases rest with
    | nil => simp at addresses
    | cons a rest =>
      rw [List.map_cons, List.length_cons, List.range'_succ, List.cons.injEq] at addresses
      have stored : (front ++ a :: rest).set write.1 write.2 = (front ++ [write.2]) ++ rest := by
        rw [addresses.1, List.set_append_right _ _ (Nat.le_refl _), Nat.sub_self]
        simp
      have tail := ih (front ++ [write.2]) rest (by simpa using addresses.2)
      show storeAll ((front ++ a :: rest).set write.1 write.2) writes = _
      rw [stored, tail]
      simp

/-- Stores at every address in order leave exactly the stored values. -/
theorem storeAll_range {memory : List α} {writes : List (Nat × α)}
    (addresses : writes.map Prod.fst = List.range memory.length) : storeAll memory writes = writes.map Prod.snd :=
  storeAll_from [] memory (by rw [addresses, List.range_eq_range']; rfl)

section Encoding

variable {encode : β → List α} {step : Nat}

theorem length_flatMap_of_fixed (fixed : ∀ b, (encode b).length = step) (records : List β) :
    (records.flatMap encode).length = records.length * step := by
  simp [List.length_flatMap, fixed]

/-- A part of a record is read at its offset behind the records before it. -/
theorem slice_flatMap (fixed : ∀ b, (encode b).length = step) {records : List β} {i : Nat} (bound : i < records.length)
    {offset size : Nat} (inside : offset + size ≤ step) :
    slice (records.flatMap encode) (i * step + offset) size = slice (encode records[i]) offset size := by
  have front : ((records.take i).flatMap encode).length = i * step := by
    rw [length_flatMap_of_fixed fixed, List.length_take, Nat.min_eq_left (Nat.le_of_lt bound)]
  have whole : records.flatMap encode =
      (records.take i).flatMap encode ++ (encode records[i] ++ (records.drop (i + 1)).flatMap encode) := by
    conv_lhs => rw [← List.take_append_drop i records, List.drop_eq_getElem_cons bound]
    rw [List.flatMap_append, List.flatMap_cons]
  have room : i * step + offset + size ≤ (records.flatMap encode).length := by
    rw [whole, List.length_append, front, List.length_append, fixed]
    omega
  rw [slice, if_pos room, slice, if_pos (by rw [fixed]; exact inside), whole, ← front, List.drop_length_add_append,
    List.drop_append_of_le_length (by rw [fixed]; omega),
    List.take_append_of_le_length (by rw [List.length_drop, fixed]; omega)]

end Encoding

end Records
