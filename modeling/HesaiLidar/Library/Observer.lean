import Mathlib.Data.List.Basic
import Mathlib.Tactic.Common

/-!
# Machines that answer every observation

A machine with state `σ` answers an observation `α` with some `β` and a new state. `answers` is the
list of its answers to a whole history, `after` the state it is left in.
-/

namespace Observer

variable {σ α β : Type*}

def after (observe : σ → α → β × σ) (s : σ) (history : List α) : σ :=
  history.foldl (fun s a => (observe s a).2) s

def answers (observe : σ → α → β × σ) : σ → List α → List β
  | _, [] => []
  | s, a :: history => (observe s a).1 :: answers observe (observe s a).2 history

variable {observe : σ → α → β × σ} {s : σ}

@[simp] theorem after_nil : after observe s [] = s := rfl

@[simp] theorem after_cons (a : α) (history : List α) :
    after observe s (a :: history) = after observe (observe s a).2 history := rfl

theorem after_concat (history : List α) (a : α) :
    after observe s (history ++ [a]) = (observe (after observe s history) a).2 := by
  simp [after]

@[simp] theorem answers_length (history : List α) : (answers observe s history).length = history.length := by
  induction history generalizing s with
  | nil => rfl
  | cons a history ih => simp [answers, ih]

theorem answers_append (front back : List α) :
    answers observe s (front ++ back) = answers observe s front ++ answers observe (after observe s front) back := by
  induction front generalizing s with
  | nil => rfl
  | cons a front ih => simp [answers, ih]

theorem answers_concat (history : List α) (a : α) :
    answers observe s (history ++ [a]) = answers observe s history ++ [(observe (after observe s history) a).1] :=
  answers_append history [a]

/-! ### Two machines -/

section Simulation

variable {τ : Type*} {other : τ → α → β × τ} {R : σ → τ → Prop} {t : τ}

/-- Two machines whose steps give the same answer and stay related give the same answers to every history. -/
theorem answers_simulation (related : ∀ {s t} a, R s t → (observe s a).1 = (other t a).1 ∧ R (observe s a).2 (other t a).2)
    (start : R s t) (history : List α) :
    answers observe s history = answers other t history ∧ R (after observe s history) (after other t history) := by
  induction history generalizing s t with
  | nil => exact ⟨rfl, start⟩
  | cons a history ih =>
    obtain ⟨answer, next⟩ := related a start
    obtain ⟨same, last⟩ := ih next
    exact ⟨by rw [answers, answers, answer, same], last⟩

end Simulation

end Observer
