import Mathlib.Logic.Basic

/-!
# Runs of a labelled machine

A machine is a relation `step s a t`: action `a` leads from `s` to `t`. Machines given as functions
into `Option` (an action may be disabled) or `Except` (an action may fail) are read as such relations,
and their runs are the successful folds.
-/

namespace Runs

variable {σ τ α β ε : Type*}

/-- Performing the actions `as` in order leads from `s` to `t`. -/
inductive Run (step : σ → α → σ → Prop) : σ → List α → σ → Prop where
  | nil (s : σ) : Run step s [] s
  | cons {s m t : σ} {a : α} {as : List α} (head : step s a m) (tail : Run step m as t) : Run step s (a :: as) t

/-- Every action of the list meets `C` in the state it is performed in. -/
def AllSteps (step : σ → α → σ → Prop) (C : σ → α → Prop) : σ → List α → Prop
  | _, [] => True
  | s, a :: as => C s a ∧ ∀ m, step s a m → AllSteps step C m as

section Rules

variable {step : σ → α → σ → Prop} {s t : σ} {as bs : List α}

/-- The invariant rule: what every step preserves holds at the end of every run. -/
theorem Run.invariant {I : σ → Prop} (preserved : ∀ {s a t}, I s → step s a t → I t)
    (run : Run step s as t) (start : I s) : I t := by
  induction run with
  | nil => exact start
  | cons head _ ih => exact ih (preserved start head)

theorem Run.invariant_of_allSteps {I : σ → Prop} {C : σ → α → Prop}
    (preserved : ∀ {s a t}, I s → C s a → step s a t → I t)
    (run : Run step s as t) (side : AllSteps step C s as) (start : I s) : I t := by
  induction run with
  | nil => exact start
  | cons head _ ih => exact ih (side.2 _ head) (preserved start side.1 head)

/-- The invariant rule for runs whose actions all meet a condition. -/
theorem Run.invariant_of_forall {I : σ → Prop} {P : α → Prop} (preserved : ∀ {s a t}, I s → P a → step s a t → I t)
    (run : Run step s as t) (all : ∀ a ∈ as, P a) (start : I s) : I t := by
  induction run with
  | nil => exact start
  | cons head _ ih =>
    obtain ⟨first, rest⟩ := List.forall_mem_cons.mp all
    exact ih rest (preserved start first head)

/-- The invariant rule for an invariant of the actions performed so far. -/
theorem Run.invariant_of_history {I : List α → σ → Prop}
    (preserved : ∀ {done s a t}, I done s → step s a t → I (done ++ [a]) t)
    (done : List α) (run : Run step s as t) (start : I done s) : I (done ++ as) t := by
  induction run generalizing done with
  | nil =>
    rw [List.append_nil]
    exact start
  | cons head _ ih =>
    rw [List.append_cons]
    exact ih _ (preserved start head)

/-- The termination rule: a run whose steps lower a measure is no longer than the measure. -/
theorem Run.length_le {P : α → Prop} {μ : σ → Nat} (lowers : ∀ {s a t}, P a → step s a t → μ t < μ s)
    (run : Run step s as t) (all : ∀ a ∈ as, P a) : as.length + μ t ≤ μ s := by
  induction run with
  | nil => exact Nat.le_of_eq (Nat.zero_add _)
  | cons head _ ih =>
    obtain ⟨first, rest⟩ := List.forall_mem_cons.mp all
    have lower := lowers first head
    have bound := ih rest
    rw [List.length_cons]
    omega

/-- The progress rule: while some step lowers a measure and keeps the invariant, a run leads to the end. -/
theorem exists_run_of_progress {I Done : σ → Prop} {P : α → Prop} {μ : σ → Nat}
    (next : ∀ {s}, I s → ¬ Done s → ∃ a t, P a ∧ step s a t ∧ I t ∧ μ t < μ s) (start : I s) :
    ∃ (as : List α) (t : σ), (∀ a ∈ as, P a) ∧ Run step s as t ∧ Done t := by
  induction left : μ s using Nat.strongRecOn generalizing s with
  | ind n ih =>
    by_cases done : Done s
    · exact ⟨[], s, fun _ member => absurd member List.not_mem_nil, .nil s, done⟩
    · obtain ⟨a, m, first, head, kept, lower⟩ := next start done
      obtain ⟨as, t, all, tail, done⟩ := ih _ (left ▸ lower) kept rfl
      exact ⟨a :: as, t, List.forall_mem_cons.mpr ⟨first, all⟩, .cons head tail, done⟩

theorem allSteps_of_forall {C : σ → α → Prop} (all : ∀ s a, C s a) : AllSteps step C s as := by
  induction as generalizing s with
  | nil => trivial
  | cons a as ih => exact ⟨all s a, fun _ _ => ih⟩

theorem AllSteps.imp {C D : σ → α → Prop} (gives : ∀ {s a}, C s a → D s a) (side : AllSteps step C s as) :
    AllSteps step D s as := by
  induction as generalizing s with
  | nil => trivial
  | cons a as ih => exact ⟨gives side.1, fun m head => ih (side.2 m head)⟩

/-- What the invariant makes of a side condition holds at every step as well. -/
theorem AllSteps.strengthen {I : σ → Prop} {C D : σ → α → Prop}
    (preserved : ∀ {s a t}, I s → C s a → step s a t → I t) (gives : ∀ {s a}, I s → C s a → D s a)
    (start : I s) (side : AllSteps step C s as) : AllSteps step D s as := by
  induction as generalizing s with
  | nil => trivial
  | cons a as ih => exact ⟨gives start side.1, fun m head => ih (preserved start side.1 head) (side.2 m head)⟩

end Rules

section Functions

/-- The steps an action allows when the machine is a function that fails with `ε`. -/
def Succeeds (f : σ → α → Except ε σ) (s : σ) (a : α) (t : σ) : Prop := f s a = .ok t

/-- The steps an action allows when the machine is a function that may be disabled. -/
def Enabled (f : σ → α → Option σ) (s : σ) (a : α) (t : σ) : Prop := f s a = some t

/-- What is seen in front of every action of a run, up to the first one that fails. -/
def trace (f : σ → α → Except ε σ) (see : σ → α → β) : σ → List α → List β
  | _, [] => []
  | s, a :: as =>
    see s a ::
      match f s a with
      | .ok t => trace f see t as
      | .error _ => []

theorem run_of_foldlM_ok {f : σ → α → Except ε σ} {s t : σ} {as : List α} (h : as.foldlM f s = .ok t) :
    Run (Succeeds f) s as t := by
  induction as generalizing s with
  | nil =>
    obtain rfl : s = t := Except.ok.inj h
    exact .nil s
  | cons a as ih =>
    rw [List.foldlM_cons] at h
    cases first : f s a with
    | error e => rw [first] at h; cases h
    | ok m => rw [first] at h; exact .cons first (ih h)

theorem run_of_foldlM_some {f : σ → α → Option σ} {s t : σ} {as : List α} (h : as.foldlM f s = some t) :
    Run (Enabled f) s as t := by
  induction as generalizing s with
  | nil =>
    obtain rfl : s = t := Option.some.inj h
    exact .nil s
  | cons a as ih =>
    rw [List.foldlM_cons] at h
    cases first : f s a with
    | none => rw [first] at h; cases h
    | some m => rw [first] at h; exact .cons first (ih h)

theorem foldlM_some_of_run {f : σ → α → Option σ} {s t : σ} {as : List α} (run : Run (Enabled f) s as t) :
    as.foldlM f s = some t := by
  induction run with
  | nil => rfl
  | cons head _ ih =>
    rw [List.foldlM_cons, show f _ _ = some _ from head]
    exact ih

/-- What one step of a failing machine comes to: the invariant of the history, or an expected failure. -/
def Outcome (I : σ → Prop) (Fails : ε → Prop) : Except ε σ → Prop
  | .ok s => I s
  | .error e => Fails e

/-- The sequence rule: the second part starts from whatever the first one leaves. -/
theorem Outcome.bind {σ τ : Type _} {I : σ → Prop} {J : τ → Prop} {Fails : ε → Prop} {x : Except ε σ}
    {f : σ → Except ε τ} (first : Outcome I Fails x) (rest : ∀ s, x = .ok s → I s → Outcome J Fails (f s)) :
    Outcome J Fails (x >>= f) := by
  cases x with
  | error e => exact first
  | ok s => exact rest s rfl first

/-- The outcome rule: if every step keeps the invariant of the history or fails as expected, so does every run. -/
theorem foldlM_outcome {f : σ → α → Except ε σ} {I : List α → σ → Prop} {Fails : ε → Prop} {P : α → Prop}
    (step : ∀ {done s a}, I done s → P a → Outcome (I (done ++ [a])) Fails (f s a))
    {done as : List α} {s : σ} (start : I done s) (all : ∀ a ∈ as, P a) :
    Outcome (I (done ++ as)) Fails (as.foldlM f s) := by
  induction as generalizing done s with
  | nil =>
    rw [List.append_nil]
    exact start
  | cons a as ih =>
    have first := step start (all a List.mem_cons_self)
    rw [List.foldlM_cons]
    cases result : f s a with
    | error e => rw [result] at first; exact first
    | ok m =>
      rw [result] at first
      have rest := ih first fun b member => all b (List.mem_cons_of_mem _ member)
      rw [List.append_assoc] at rest
      exact rest

theorem foldlM_outcome_of_allSteps {f : σ → α → Except ε σ} {I : σ → Prop} {Fails : ε → Prop} {C : σ → α → Prop}
    (step : ∀ {s a}, I s → C s a → Outcome I Fails (f s a)) {s : σ} {as : List α} (start : I s)
    (side : AllSteps (Succeeds f) C s as) : Outcome I Fails (as.foldlM f s) := by
  induction as generalizing s with
  | nil => exact start
  | cons a as ih =>
    have first := step start side.1
    rw [List.foldlM_cons]
    cases result : f s a with
    | error e => rw [result] at first; exact first
    | ok m =>
      rw [result] at first
      exact ih first (side.2 m result)

end Functions

end Runs
