import HesaiLidar.Library.CircularIndex

/-!
# BoundedSpscQueue

The fixed-storage queue of `bounded_spsc_queue.h` and its member functions as one thread runs them.
An index is a `Fin StorageCapacity`, so that every access to the storage is in bounds and
`std::size_t` never overflows.
-/

namespace HesaiLidar

/-- The template arguments of `BoundedSpscQueue`, with the three static assertions on them. -/
structure QueueParams where
  storageCapacity : Nat
  maxDepth : Nat
  storageCapacity_gt_one : 1 < storageCapacity
  maxDepth_pos : 0 < maxDepth
  maxDepth_lt : maxDepth < storageCapacity

/-- An index into the storage array. -/
abbrev QueueParams.Index (P : QueueParams) : Type := Fin P.storageCapacity

structure BoundedSpscQueue (T : Type) (P : QueueParams) where
  storage : P.Index → T
  readIndex : P.Index
  writeIndex : P.Index

namespace BoundedSpscQueue

variable {T : Type} {P : QueueParams}

def zero (P : QueueParams) : P.Index := ⟨0, Nat.lt_trans Nat.zero_lt_one P.storageCapacity_gt_one⟩

def next (index : P.Index) : P.Index :=
  if h : index.val + 1 = P.storageCapacity then zero P else ⟨index.val + 1, by omega⟩

def distance (read write : P.Index) : Nat :=
  if write ≥ read then write.val - read.val else P.storageCapacity - read.val + write.val

/-- The storage starts out value-initialised. -/
def empty [Inhabited T] : BoundedSpscQueue T P := ⟨fun _ => default, zero P, zero P⟩

/-- `none` when the call returns false; otherwise the new queue and `size_after_push`. -/
def tryPush (q : BoundedSpscQueue T P) (value : T) : Option (BoundedSpscQueue T P × Nat) :=
  let currentSize := distance q.readIndex q.writeIndex
  if currentSize ≥ P.maxDepth then none
  else
    some ({ q with storage := Function.update q.storage q.writeIndex value, writeIndex := next q.writeIndex },
      currentSize + 1)

/-- `none` when the call returns false; otherwise the new queue and the popped value. -/
def tryPop (q : BoundedSpscQueue T P) : Option (BoundedSpscQueue T P × T) :=
  if q.readIndex = q.writeIndex then none
  else some ({ q with readIndex := next q.readIndex }, q.storage q.readIndex)

/-- The storage keeps its old contents. -/
def reset (q : BoundedSpscQueue T P) : BoundedSpscQueue T P :=
  { q with readIndex := zero P, writeIndex := zero P }

def approximateSize (q : BoundedSpscQueue T P) : Nat := distance q.readIndex q.writeIndex

/-! ### Slots of unbounded counters -/

/-- The slot that holds the `k`-th value ever pushed. -/
def slot (P : QueueParams) (k : Nat) : P.Index :=
  ⟨k % P.storageCapacity, Nat.mod_lt _ (Nat.lt_trans Nat.zero_lt_one P.storageCapacity_gt_one)⟩

@[simp] theorem slot_zero : slot P 0 = zero P := by simp [slot, zero]

theorem next_slot (k : Nat) : next (slot P k) = slot P (k + 1) := by
  have pos : 0 < P.storageCapacity := Nat.lt_trans Nat.zero_lt_one P.storageCapacity_gt_one
  have step := CircularIndex.succ_mod pos k
  unfold next
  apply Fin.ext
  split <;> rename_i h <;> simp only [slot] at h ⊢
  · rw [step, if_pos h]; rfl
  · rw [step, if_neg h]

/-- Within one turn the wrapped distance is the number of values between the two counters. -/
theorem distance_slot {r w : Nat} (le : r ≤ w) (near : w - r < P.storageCapacity) :
    distance (slot P r) (slot P w) = w - r :=
  CircularIndex.wrapped_distance le near

theorem slot_eq_iff {a b : Nat} (le : a ≤ b) (near : b - a < P.storageCapacity) :
    slot P a = slot P b ↔ a = b := by
  simp only [slot, Fin.mk.injEq]
  exact CircularIndex.mod_eq_iff le near

end BoundedSpscQueue

end HesaiLidar
