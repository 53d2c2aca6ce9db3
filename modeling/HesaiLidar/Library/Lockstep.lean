import HesaiLidar.Library.Runs
import Mathlib.Tactic.Common

/-!
# Two failing machines in lockstep

Two machines given as functions into `Except` perform the same actions. They agree when they succeed in
related states or fail with related errors, or when the second one fails with an error that is excused.
-/

namespace Lockstep

variable {σ σ' τ τ' α β ε δ : Type}

inductive Agree (R : σ → τ → Prop) (E : ε → δ → Prop) (X : δ → Prop) : Except ε σ → Except δ τ → Prop where
  | ok {s : σ} {t : τ} (related : R s t) : Agree R E X (.ok s) (.ok t)
  | error {e : ε} {d : δ} (related : E e d) : Agree R E X (.error e) (.error d)
  | excused {d : δ} (excused : X d) (x : Except ε σ) : Agree R E X x (.error d)

variable {R : σ → τ → Prop} {R' : σ' → τ' → Prop} {E : ε → δ → Prop} {X : δ → Prop}

theorem Agree.imp {Q : σ → τ → Prop} {x : Except ε σ} {y : Except δ τ} (agree : Agree R E X x y)
    (gives : ∀ {s t}, R s t → Q s t) : Agree Q E X x y := by
  cases agree with
  | ok related => exact .ok (gives related)
  | error related => exact .error related
  | excused excused => exact .excused excused _

theorem Agree.imp_error {E' : ε → δ → Prop} {x : Except ε σ} {y : Except δ τ} (agree : Agree R E X x y)
    (gives : ∀ {e d}, E e d → E' e d) : Agree R E' X x y := by
  cases agree with
  | ok related => exact .ok related
  | error related => exact .error (gives related)
  | excused excused => exact .excused excused _

theorem Agree.bind {x : Except ε σ} {y : Except δ τ} {f : σ → Except ε σ'} {g : τ → Except δ τ'}
    (agree : Agree R E X x y) (rest : ∀ {s t}, x = .ok s → y = .ok t → R s t → Agree R' E X (f s) (g t)) :
    Agree R' E X (x >>= f) (y >>= g) := by
  cases agree with
  | ok related => exact rest rfl rfl related
  | error related => exact .error related
  | excused excused => exact .excused excused _

/-- The lockstep rule: machines that agree step by step, where a side condition holds, agree on whole runs. -/
theorem foldlM_agree {f : σ → α → Except ε σ} {g : τ → α → Except δ τ} {C : σ → α → Prop}
    (step : ∀ {s t a}, R s t → C s a → Agree R E X (f s a) (g t a)) {s : σ} {t : τ} {as : List α} (start : R s t)
    (side : Runs.AllSteps (Runs.Succeeds f) C s as) : Agree R E X (as.foldlM f s) (as.foldlM g t) := by
  induction as generalizing s t with
  | nil => exact .ok start
  | cons a as ih =>
    rw [List.foldlM_cons, List.foldlM_cons]
    exact (step start side.1).bind fun result _ related => ih related (side.2 _ result)

/-- The lockstep rule for machines that perform related actions. -/
theorem foldlM_agree_of_forall₂ {A : α → β → Prop} {f : σ → α → Except ε σ} {g : τ → β → Except δ τ}
    (step : ∀ {s t a b}, R s t → A a b → Agree R E X (f s a) (g t b)) {s : σ} {t : τ} {as : List α} {bs : List β}
    (start : R s t) (actions : List.Forall₂ A as bs) : Agree R E X (as.foldlM f s) (bs.foldlM g t) := by
  induction actions generalizing s t with
  | nil => exact .ok start
  | cons first _ ih =>
    rw [List.foldlM_cons, List.foldlM_cons]
    exact (step start first).bind fun _ _ related => ih related

/-- Machines in lockstep without excuses show the same. -/
theorem trace_agree {f : σ → α → Except ε σ} {g : τ → α → Except δ τ} {see : σ → α → β} {see' : τ → α → β}
    {C : σ → α → Prop} (step : ∀ {s t a}, R s t → C s a → Agree R E X (f s a) (g t a)) (strict : ∀ d, ¬ X d)
    (same : ∀ {s t a}, R s t → C s a → see s a = see' t a) {s : σ} {t : τ} {as : List α} (start : R s t)
    (side : Runs.AllSteps (Runs.Succeeds f) C s as) : Runs.trace f see s as = Runs.trace g see' t as := by
  induction as generalizing s t with
  | nil => rfl
  | cons a as ih =>
    rw [Runs.trace, Runs.trace, same start side.1]
    have agree := step start side.1
    have after : ∀ m, f s a = .ok m → Runs.AllSteps (Runs.Succeeds f) C m as := side.2
    generalize f s a = x at agree after ⊢
    generalize g t a = y at agree ⊢
    congr 1
    cases agree with
    | ok related => exact ih related (after _ rfl)
    | error related => rfl
    | excused excused => exact absurd excused (strict _)

end Lockstep
