import Mathlib.Data.List.Perm.Basic
import Mathlib.Tactic.Common

/-!
# Sorting into buckets

Elements kept in one bucket for each key, each bucket in arrival order, and read out bucket by bucket.
-/

namespace Buckets

variable {α : Type*} {key : α → Nat} {xs ys : List α} {n r : Nat}

/-- The elements with key `r`, in arrival order. -/
def bucket (key : α → Nat) (r : Nat) (xs : List α) : List α := xs.filter fun x => key x = r

/-- The first `n` buckets, one after the other. -/
def gather (key : α → Nat) (n : Nat) (xs : List α) : List α := (List.range n).flatMap fun r => bucket key r xs

@[simp] theorem bucket_nil : bucket key r [] = [] := rfl

@[simp] theorem bucket_append : bucket key r (xs ++ ys) = bucket key r xs ++ bucket key r ys := List.filter_append ..

theorem bucket_singleton (x : α) : bucket key r [x] = if key x = r then [x] else [] := by
  by_cases same : key x = r <;> simp [bucket, same]

@[simp] theorem gather_nil : gather key n ([] : List α) = [] := by simp [gather]

theorem gather_succ : gather key (n + 1) xs = gather key n xs ++ bucket key n xs := by
  simp [gather, List.range_succ]

theorem mem_gather {x : α} : x ∈ gather key n xs ↔ x ∈ xs ∧ key x < n := by
  simp only [gather, bucket, List.mem_flatMap, List.mem_range, List.mem_filter, decide_eq_true_eq]
  constructor
  · rintro ⟨r, bound, member, rfl⟩
    exact ⟨member, bound⟩
  · rintro ⟨member, bound⟩
    exact ⟨_, bound, member, rfl⟩

variable (key xs n) in
/-- Reading out the first buckets gives the elements with small keys, reordered. -/
theorem gather_perm_filter : (gather key n xs).Perm (xs.filter fun x => key x < n) := by
  induction n with
  | zero => simp [gather]
  | succ n ih =>
    have split := List.filter_append_perm (fun x => decide (key x < n)) (xs.filter fun x => key x < n + 1)
    have below : (xs.filter fun x => key x < n + 1).filter (fun x => key x < n) = xs.filter fun x => key x < n := by
      rw [List.filter_filter]
      refine List.filter_congr fun x _ => Bool.eq_iff_iff.mpr ?_
      simp only [Bool.and_eq_true, decide_eq_true_eq]
      omega
    have last : (xs.filter fun x => key x < n + 1).filter (fun x => !decide (key x < n)) = bucket key n xs := by
      rw [List.filter_filter, bucket]
      refine List.filter_congr fun x _ => Bool.eq_iff_iff.mpr ?_
      simp only [Bool.and_eq_true, Bool.not_eq_true', decide_eq_true_eq, decide_eq_false_iff_not]
      omega
    rw [below, last] at split
    rw [gather_succ]
    exact (ih.append_right _).trans split

theorem gather_perm (bound : ∀ x ∈ xs, key x < n) : (gather key n xs).Perm xs := by
  have all : (xs.filter fun x => key x < n) = xs := List.filter_eq_self.mpr (by simpa using bound)
  have perm := gather_perm_filter key xs n
  rwa [all] at perm

theorem gather_eq_of_bound {m : Nat} (bound : ∀ x ∈ xs, key x < n) (le : n ≤ m) : gather key m xs = gather key n xs := by
  induction m with
  | zero =>
    obtain rfl : n = 0 := by omega
    rfl
  | succ m ih =>
    rcases Nat.eq_or_lt_of_le le with rfl | lt
    · rfl
    · have last : bucket key m xs = [] := by
        apply List.filter_eq_nil_iff.mpr
        intro x member
        have small := bound x member
        simp only [decide_eq_true_eq]
        omega
      rw [gather_succ, last, List.append_nil, ih (by omega)]

theorem bucket_filter_ge : bucket key r (xs.filter fun x => n ≤ key x) = if r < n then [] else bucket key r xs := by
  rw [bucket, List.filter_filter]
  split
  · rename_i small
    apply List.filter_eq_nil_iff.mpr
    intro x member
    simp only [Bool.and_eq_true, decide_eq_true_eq]
    omega
  · rename_i large
    refine List.filter_congr fun x _ => Bool.eq_iff_iff.mpr ?_
    simp only [Bool.and_eq_true, decide_eq_true_eq]
    omega

theorem bucket_bucket {m : Nat} : bucket key r (bucket key m xs) = if r = m then bucket key r xs else [] := by
  unfold bucket
  rw [List.filter_filter]
  split
  · rename_i same
    exact List.filter_congr fun x _ => by rw [same, Bool.and_self]
  · rename_i other
    apply List.filter_eq_nil_iff.mpr
    intro x _
    simp only [Bool.and_eq_true, decide_eq_true_eq]
    omega

theorem bucket_gather : bucket key r (gather key n xs) = if r < n then bucket key r xs else [] := by
  induction n with
  | zero => rfl
  | succ n ih =>
    rw [gather_succ, bucket_append, ih, bucket_bucket]
    rcases Nat.lt_trichotomy r n with below | rfl | above
    · rw [if_pos below, if_neg (by omega), if_pos (by omega), List.append_nil]
    · rw [if_neg (by omega), if_pos rfl, if_pos (by omega), List.nil_append]
    · rw [if_neg (by omega), if_neg (by omega), if_neg (by omega), List.nil_append]

theorem gather_pairwise : (gather key n xs).Pairwise fun x y => key x ≤ key y := by
  induction n with
  | zero => exact .nil
  | succ n ih =>
    rw [gather_succ]
    refine List.pairwise_append.mpr ⟨ih, ?_, fun x below y last => ?_⟩
    · apply List.pairwise_of_forall_mem_list
      intro x first y second
      simp only [bucket, List.mem_filter, decide_eq_true_eq] at first second
      omega
    · have small := (mem_gather.mp below).2
      simp only [bucket, List.mem_filter, decide_eq_true_eq] at last
      omega

variable (key) in
def sorted (xs : List α) : List α := xs.mergeSort fun x y => key x ≤ key y

theorem sorted_pairwise : (sorted key xs).Pairwise fun x y => key x ≤ key y := by
  have pairwise : (sorted key xs).Pairwise fun x y => decide (key x ≤ key y) = true := List.pairwise_mergeSort
    (by simp only [decide_eq_true_eq]; omega) (by simp only [Bool.or_eq_true, decide_eq_true_eq]; omega) xs
  exact pairwise.imp of_decide_eq_true

theorem bucket_sorted : bucket key r (sorted key xs) = bucket key r xs := by
  have equal : (bucket key r xs).Pairwise fun x y => decide (key x ≤ key y) = true := by
    apply List.pairwise_of_forall_mem_list
    intro x first y second
    simp only [bucket, List.mem_filter, decide_eq_true_eq] at first second ⊢
    omega
  have kept : (bucket key r xs).Sublist (sorted key xs) :=
    List.sublist_mergeSort (by simp only [decide_eq_true_eq]; omega)
      (by simp only [Bool.or_eq_true, decide_eq_true_eq]; omega) equal List.filter_sublist
  have inside := kept.filter fun x => decide (key x = r)
  have count : (bucket key r (sorted key xs)).length = (bucket key r xs).length :=
    ((List.mergeSort_perm xs _).filter _).length_eq
  have again : (bucket key r xs).filter (fun x => decide (key x = r)) = bucket key r xs := by
    simp only [bucket, List.filter_filter, Bool.and_self]
  rw [again] at inside
  exact (inside.eq_of_length count.symm).symm

theorem pairwise_split (pairwise : xs.Pairwise fun x y => key x ≤ key y) (bound : ∀ x ∈ xs, key x < n + 1) :
    xs = xs.filter (fun x => key x < n) ++ bucket key n xs := by
  induction xs with
  | nil => rfl
  | cons x xs ih =>
    obtain ⟨first, rest⟩ := List.pairwise_cons.mp pairwise
    obtain ⟨small, smaller⟩ := List.forall_mem_cons.mp bound
    rcases Nat.lt_or_ge (key x) n with below | top
    · have other : key x ≠ n := Nat.ne_of_lt below
      have split := ih rest smaller
      simp only [bucket, List.filter_cons, below, other, decide_true, decide_false, if_true, Bool.false_eq_true, if_false,
        List.cons_append] at split ⊢
      rw [← split]
    · have same : key x = n := by omega
      have all : xs.filter (fun x => key x = n) = xs := by
        apply List.filter_eq_self.mpr
        intro y member
        have := first y member
        have := smaller y member
        simp only [decide_eq_true_eq]
        omega
      have none : xs.filter (fun x => key x < n) = [] := by
        apply List.filter_eq_nil_iff.mpr
        intro y member
        have := first y member
        simp only [decide_eq_true_eq]
        omega
      simp [bucket, same, all, none]

/-- A sorted list is its buckets, one after the other. -/
theorem gather_of_pairwise (pairwise : xs.Pairwise fun x y => key x ≤ key y) (bound : ∀ x ∈ xs, key x < n) :
    gather key n xs = xs := by
  induction n generalizing xs with
  | zero =>
    obtain rfl : xs = [] := List.eq_nil_iff_forall_not_mem.mpr fun x member => Nat.not_lt_zero _ (bound x member)
    rfl
  | succ n ih =>
    have split := pairwise_split pairwise bound
    have front : gather key n (xs.filter fun x => key x < n) = xs.filter fun x => key x < n :=
      ih (pairwise.filter _) fun x member => of_decide_eq_true (List.mem_filter.mp member).2
    have same : gather key n (xs.filter fun x => key x < n) = gather key n xs := by
      unfold gather
      apply List.flatMap_congr
      intro r below
      rw [bucket, bucket, List.filter_filter]
      apply List.filter_congr
      intro x _
      have below := List.mem_range.mp below
      rw [← Bool.decide_and, decide_eq_decide]
      omega
    rw [gather_succ, ← same, front]
    exact split.symm

/-- Reading out the buckets sorts stably. -/
theorem gather_eq_sorted (bound : ∀ x ∈ xs, key x < n) : gather key n xs = sorted key xs := by
  have same : gather key n (sorted key xs) = gather key n xs := by
    unfold gather
    apply List.flatMap_congr
    intro r _
    exact bucket_sorted
  rw [← same]
  exact gather_of_pairwise sorted_pairwise fun x member => bound x (List.mem_mergeSort.mp member)

end Buckets
