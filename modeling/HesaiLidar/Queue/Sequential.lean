import HesaiLidar.Library.Observer
import HesaiLidar.Queue.BoundedSpscQueue

/-!
# The queue as one thread sees it

Sequences of calls on one `BoundedSpscQueue`, compared with a list of at most `MaxDepth` values.
-/

namespace HesaiLidar.BoundedSpscQueue

inductive Call (T : Type) where
  | tryPush (value : T)
  | tryPop
  | reset
  | approximateSize
  deriving DecidableEq

inductive Answer (T : Type) where
  | pushed (sizeAfterPush : Nat)
  | popped (value : T)
  | refused
  | done
  | size (size : Nat)
  deriving DecidableEq

variable {T : Type} {P : QueueParams}

/-- A call, with the variable the caller passes to `try_pop`. -/
def call (s : BoundedSpscQueue T P × T) : Call T → Answer T × (BoundedSpscQueue T P × T)
  | .tryPush value =>
    match s.1.tryPush value with
    | none => (.refused, s)
    | some (q, sizeAfterPush) => (.pushed sizeAfterPush, (q, s.2))
  | .tryPop =>
    match s.1.tryPop with
    | none => (.refused, s)
    | some (q, value) => (.popped value, (q, value))
  | .reset => (.done, (s.1.reset, s.2))
  | .approximateSize => (.size s.1.approximateSize, s)

def callList (maxDepth : Nat) (s : List T × T) : Call T → Answer T × (List T × T)
  | .tryPush value =>
    if s.1.length = maxDepth then (.refused, s) else (.pushed (s.1.length + 1), (s.1 ++ [value], s.2))
  | .tryPop =>
    match s.1 with
    | [] => (.refused, s)
    | value :: rest => (.popped value, (rest, value))
  | .reset => (.done, ([], s.2))
  | .approximateSize => (.size s.1.length, s)

/-! ### The list a queue holds -/

def HoldsList (q : BoundedSpscQueue T P) (xs : List T) : Prop :=
  xs.length ≤ P.maxDepth ∧
    ∃ r, q.readIndex = slot P r ∧ q.writeIndex = slot P (r + xs.length) ∧
      ∀ i (bound : i < xs.length), q.storage (slot P (r + i)) = xs[i]

variable {q : BoundedSpscQueue T P} {xs : List T}

theorem holdsList_empty (storage : P.Index → T) : HoldsList ⟨storage, zero P, zero P⟩ [] := by
  refine ⟨Nat.zero_le _, 0, slot_zero.symm, slot_zero.symm, ?_⟩
  intro i bound
  exact absurd bound (Nat.not_lt_zero i)

theorem reset_holdsList (q : BoundedSpscQueue T P) : HoldsList q.reset [] := holdsList_empty q.storage

theorem HoldsList.size (holds : HoldsList q xs) : q.approximateSize = xs.length := by
  obtain ⟨bounded, r, read, write, -⟩ := holds
  have capacity := P.maxDepth_lt
  rw [approximateSize, read, write, distance_slot (Nat.le_add_right ..) (by omega), Nat.add_sub_cancel_left]

theorem HoldsList.tryPush_full (holds : HoldsList q xs) (full : xs.length = P.maxDepth) (value : T) :
    q.tryPush value = none := by
  have size := holds.size
  unfold approximateSize at size
  unfold tryPush
  rw [size]
  exact if_pos (Nat.le_of_eq full.symm)

theorem HoldsList.tryPush_room (holds : HoldsList q xs) (room : xs.length ≠ P.maxDepth) (value : T) :
    ∃ pushed, q.tryPush value = some (pushed, xs.length + 1) ∧ HoldsList pushed (xs ++ [value]) := by
  have size := holds.size
  obtain ⟨bounded, r, read, write, content⟩ := holds
  have capacity := P.maxDepth_lt
  unfold approximateSize at size
  refine ⟨_, by unfold tryPush; rw [size]; exact if_neg (by omega), ?_⟩
  refine ⟨by rw [List.length_append, List.length_singleton]; omega, r, read, ?_, ?_⟩
  · show next q.writeIndex = _
    rw [write, next_slot, List.length_append, List.length_singleton, Nat.add_assoc]
  · intro i bound
    rw [List.length_append, List.length_singleton] at bound
    show Function.update q.storage q.writeIndex value (slot P (r + i)) = _
    rw [write]
    rcases Nat.lt_or_ge i xs.length with old | new
    · have other : slot P (r + i) ≠ slot P (r + xs.length) := by
        intro same
        have := (slot_eq_iff (by omega) (by omega)).mp same
        omega
      rw [Function.update_of_ne other, content i old, List.getElem_append_left old]
    · obtain rfl : i = xs.length := by omega
      rw [Function.update_self, List.getElem_append_right (Nat.le_refl _)]
      simp

theorem HoldsList.tryPop_empty (holds : HoldsList q []) : q.tryPop = none := by
  obtain ⟨-, r, read, write, -⟩ := holds
  exact if_pos (read.trans write.symm)

theorem HoldsList.tryPop_cons {value : T} (holds : HoldsList q (value :: xs)) :
    ∃ popped, q.tryPop = some (popped, value) ∧ HoldsList popped xs := by
  obtain ⟨bounded, r, read, write, content⟩ := holds
  have capacity := P.maxDepth_lt
  rw [List.length_cons] at bounded write
  have nonempty : q.readIndex ≠ q.writeIndex := by
    rw [read, write]
    intro same
    have := (slot_eq_iff (by omega) (by omega)).mp same
    omega
  have head : q.storage q.readIndex = value := by
    rw [read]
    exact content 0 (Nat.zero_lt_succ _)
  refine ⟨{ q with readIndex := next q.readIndex }, ?_, ?_⟩
  · unfold tryPop
    rw [if_neg nonempty, head]
  · refine ⟨by omega, r + 1, ?_, ?_, ?_⟩
    · show next q.readIndex = _
      rw [read, next_slot]
    · show q.writeIndex = _
      rw [write, Nat.add_assoc, Nat.add_comm 1]
    · intro i bound
      have shifted := content (i + 1) (Nat.succ_lt_succ bound)
      rw [List.getElem_cons_succ] at shifted
      rw [Nat.add_assoc, Nat.add_comm 1]
      exact shifted

/-! ### Sequences of calls -/

def Related (s : BoundedSpscQueue T P × T) (l : List T × T) : Prop := HoldsList s.1 l.1 ∧ s.2 = l.2

theorem call_related {s : BoundedSpscQueue T P × T} {l : List T × T} (c : Call T) (related : Related s l) :
    (call s c).1 = (callList P.maxDepth l c).1 ∧ Related (call s c).2 (callList P.maxDepth l c).2 := by
  obtain ⟨q, output⟩ := s
  obtain ⟨xs, _⟩ := l
  obtain ⟨holds, rfl⟩ := related
  cases c with
  | tryPush value =>
    by_cases full : xs.length = P.maxDepth
    · rw [call, callList, holds.tryPush_full full, if_pos full]
      exact ⟨rfl, holds, rfl⟩
    · obtain ⟨pushed, result, after⟩ := holds.tryPush_room full value
      rw [call, callList, result, if_neg full]
      exact ⟨rfl, after, rfl⟩
  | tryPop =>
    cases xs with
    | nil =>
      rw [call, callList, holds.tryPop_empty]
      exact ⟨rfl, holds, rfl⟩
    | cons value rest =>
      obtain ⟨popped, result, after⟩ := holds.tryPop_cons
      rw [call, callList, result]
      exact ⟨rfl, after, rfl⟩
  | reset => exact ⟨rfl, reset_holdsList q, rfl⟩
  | approximateSize => exact ⟨congrArg Answer.size holds.size, holds, rfl⟩

theorem popped_callList {maxDepth : Nat} {l : List T × T} {calls : List (Call T)} {value : T}
    (popped : .popped value ∈ Observer.answers (callList maxDepth) l calls) :
    value ∈ l.1 ∨ .tryPush value ∈ calls := by
  induction calls generalizing l with
  | nil => cases popped
  | cons c calls ih =>
    rw [Observer.answers, List.mem_cons] at popped
    have later (rest : .popped value ∈ Observer.answers (callList maxDepth) (callList maxDepth l c).2 calls) :
        value ∈ (callList maxDepth l c).2.1 ∨ .tryPush value ∈ c :: calls :=
      (ih rest).imp_right (List.mem_cons_of_mem c)
    cases c with
    | tryPush pushed =>
      rw [callList] at popped later
      split at popped <;> rename_i full
      · rw [if_pos full] at later
        exact later (popped.resolve_left (by rintro ⟨⟩))
      · rw [if_neg full] at later
        rcases later (popped.resolve_left (by rintro ⟨⟩)) with held | again
        · rcases List.mem_append.mp held with old | new
          · exact .inl old
          · rw [List.mem_singleton.mp new]
            exact .inr List.mem_cons_self
        · exact .inr again
    | tryPop =>
      obtain ⟨xs, output⟩ := l
      cases xs with
      | nil => exact later (popped.resolve_left (by rintro ⟨⟩))
      | cons first rest =>
        rcases popped with this | rest
        · rw [Answer.popped.inj this]
          exact .inl List.mem_cons_self
        · exact (later rest).imp_left (List.mem_cons_of_mem first)
    | reset =>
      rcases later (popped.resolve_left (by rintro ⟨⟩)) with held | again
      · cases held
      · exact .inr again
    | approximateSize => exact later (popped.resolve_left (by rintro ⟨⟩))

/-- On every sequence of calls the queue answers and outputs what a list of at most `MaxDepth` values
does, and after a reset it returns nothing that was pushed before. -/
theorem sequential_exact (storage : P.Index → T) (output : T) (calls : List (Call T)) :
    Observer.answers call (⟨storage, zero P, zero P⟩, output) calls =
      Observer.answers (callList P.maxDepth) ([], output) calls ∧
    (Observer.after call (⟨storage, zero P, zero P⟩, output) calls).2 =
      (Observer.after (callList P.maxDepth) ([], output) calls).2 ∧
    ∀ later value,
      .popped value ∈ Observer.answers call
        (Observer.after call (⟨storage, zero P, zero P⟩, output) (calls ++ [.reset])) later →
      .tryPush value ∈ later := by
  have start : Related (⟨storage, zero P, zero P⟩, output) ([], output) := ⟨holdsList_empty storage, rfl⟩
  obtain ⟨answers, related⟩ := Observer.answers_simulation call_related start calls
  refine ⟨answers, related.2, ?_⟩
  intro later value popped
  rw [Observer.after_concat] at popped
  have fresh : Related (call (Observer.after call (⟨storage, zero P, zero P⟩, output) calls) .reset).2 ([], _) :=
    ⟨reset_holdsList _, rfl⟩
  rw [(Observer.answers_simulation call_related fresh later).1] at popped
  exact (popped_callList popped).resolve_left nofun

end HesaiLidar.BoundedSpscQueue
