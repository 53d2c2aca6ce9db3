import HesaiLidar.Defenses.TimestampGuard
import Mathlib.Tactic.NormNum

/-!
# Histories of the timestamp guard

Whole sequences of observations and resets, with the values accepted since the last reset.
-/

namespace HesaiLidar.TimestampGuard

inductive Event where
  | observe (stamp : Double)
  | reset
  deriving DecidableEq

/-- A reset gives no decision. -/
def handle (guard : TimestampGuard) : Event → Option TimestampDecision × TimestampGuard
  | .observe stamp => (some (guard.observe stamp).1, (guard.observe stamp).2)
  | .reset => (none, guard.reset)

/-- The values accepted since the last reset, after one more event. -/
def acceptedAfter (guard : TimestampGuard) (accepted : List ℚ) : Event → List ℚ
  | .observe .notFinite => accepted
  | .observe (.finite t) => if (guard.observe (.finite t)).1.accepted then accepted ++ [t] else accepted
  | .reset => []

/-- The values a guard accepts in a history and has not been reset since. -/
def acceptedSinceReset (guard : TimestampGuard) : List ℚ → List Event → List ℚ
  | accepted, [] => accepted
  | accepted, event :: history =>
    acceptedSinceReset (guard.handle event).2 (acceptedAfter guard accepted event) history

variable {guard : TimestampGuard} {accepted : List ℚ} {toleranceSec : ℚ} {t M : ℚ}

/-! ### One event -/

/-- The guard has its tolerance, knows the largest accepted value, and the accepted values keep within it. -/
structure Tracks (toleranceSec : ℚ) (guard : TimestampGuard) (accepted : List ℚ) : Prop where
  tolerance : guard.toleranceSec = toleranceSec
  remembers : guard.Remembers accepted
  keeps : Tolerance.Keeps toleranceSec accepted

theorem tracks_fresh (toleranceSec : ℚ) : Tracks toleranceSec (fresh toleranceSec) [] where
  tolerance := rfl
  remembers := remembers_of_uninitialized rfl
  keeps := Tolerance.keeps_nil

theorem Tracks.handle (tracks : Tracks toleranceSec guard accepted) (event : Event) :
    Tracks toleranceSec (guard.handle event).2 (acceptedAfter guard accepted event) := by
  cases event with
  | reset => exact ⟨tracks.tolerance, remembers_of_uninitialized rfl, Tolerance.keeps_nil⟩
  | observe stamp =>
    cases stamp with
    | notFinite => exact tracks
    | finite t =>
      cases accepts : (guard.observe (.finite t)).1.accepted with
      | false =>
        rw [TimestampGuard.handle, acceptedAfter, accepts, observe_of_rejected accepts, if_neg Bool.false_ne_true]
        exact tracks
      | true =>
        rw [TimestampGuard.handle, acceptedAfter, accepts, if_pos rfl]
        refine ⟨(observe_toleranceSec _).trans tracks.tolerance, tracks.remembers.accept accepts, ?_⟩
        refine Tolerance.keeps_append.mpr ⟨tracks.keeps, List.pairwise_singleton .., ?_⟩
        intro earlier old later new
        obtain rfl := List.mem_singleton.mp new
        rw [← tracks.tolerance]
        exact tracks.remembers.near accepts old

theorem Tracks.history (tracks : Tracks toleranceSec guard accepted) (history : List Event) :
    Tracks toleranceSec (Observer.after TimestampGuard.handle guard history) (acceptedSinceReset guard accepted history) := by
  induction history generalizing guard accepted with
  | nil => exact tracks
  | cons event history ih => exact ih (tracks.handle event)

/-! ### Decisions -/

theorem Tracks.accepted_iff (tracks : Tracks toleranceSec guard accepted) (stamp : Double) :
    (guard.observe stamp).1.accepted = true ↔
      ∃ t, stamp = .finite t ∧
        (accepted = [] ∨ ∃ M, IsGreatest {u | u ∈ accepted} M ∧ M - toleranceSec ≤ t) := by
  cases stamp with
  | notFinite => simp [notFinite_rejected]
  | finite t =>
    rw [TimestampGuard.accepted_iff, ← tracks.tolerance]
    rcases eq_or_ne accepted [] with rfl | nonempty
    · have uninitialized : guard.initialized = false := by simpa using tracks.remembers.initialized
      simp [uninitialized]
    · have greatest := tracks.remembers.greatest nonempty
      have initialized := tracks.remembers.initialized.mpr nonempty
      simp only [initialized, nonempty, false_or, reduceCtorEq]
      constructor
      · intro near
        exact ⟨t, rfl, _, greatest, near⟩
      · rintro ⟨_, ⟨⟩, M, largest, near⟩
        rwa [greatest.unique largest]

theorem Tracks.regressionSec (nonneg : 0 ≤ toleranceSec) (tracks : Tracks toleranceSec guard accepted)
    (greatest : IsGreatest {u | u ∈ accepted} M) :
    (guard.observe (.finite t)).1.regressionSec = max 0 (M - t) := by
  have nonempty : accepted ≠ [] := List.ne_nil_of_mem greatest.1
  have initialized := tracks.remembers.initialized.mpr nonempty
  have last : guard.lastTimestamp = M := (tracks.remembers.greatest nonempty).unique greatest
  rcases observe_cases guard t with first | ⟨later, late⟩ | ⟨later, near⟩
  · exact absurd (first.symm.trans initialized) nofun
  · rw [observe_late later late, last]
    rw [tracks.tolerance, last] at late
    exact (max_eq_right (by linarith)).symm
  · rw [observe_near later near, last]

theorem rejected_forgotten {stamp : Double} (rejected : (guard.observe stamp).1.accepted = false) (later : List Event) :
    Observer.answers handle (guard.observe stamp).2 later = Observer.answers handle guard later := by
  rw [observe_of_rejected rejected]

/-- After every history: what is accepted next, that a rejection changes nothing, what regression is
reported, and that the accepted values never drift below the tolerance. -/
theorem guard_run_law (nonneg : 0 ≤ toleranceSec) (history : List Event) :
    let guard := Observer.after handle (fresh toleranceSec) history
    let accepted := acceptedSinceReset (fresh toleranceSec) [] history
    (∀ stamp, (guard.observe stamp).1.accepted = true ↔
      ∃ t, stamp = .finite t ∧
        (accepted = [] ∨ ∃ M, IsGreatest {u | u ∈ accepted} M ∧ M - toleranceSec ≤ t)) ∧
    (∀ stamp, (guard.observe stamp).1.accepted = false → ∀ later,
      Observer.answers handle (guard.observe stamp).2 later = Observer.answers handle guard later) ∧
    (∀ t M, IsGreatest {u | u ∈ accepted} M → (guard.observe (.finite t)).1.regressionSec = max 0 (M - t)) ∧
    Tolerance.Keeps toleranceSec accepted := by
  have tracks := (tracks_fresh toleranceSec).history history
  exact ⟨tracks.accepted_iff, fun _ => rejected_forgotten, fun _ _ => tracks.regressionSec nonneg, tracks.keeps⟩

/-- Small regressions in a row, an invalid value, a late one, and a reset. -/
theorem guard_run_law_jitter :
    acceptedSinceReset (fresh (1 / 10)) [] [.observe (.finite 5), .reset, .observe (.finite 2), .observe (.finite (39 / 20)),
        .observe .notFinite, .observe (.finite (19 / 10)), .observe (.finite (37 / 20))] = [2, 39 / 20, 19 / 10] ∧
      Tolerance.Keeps (1 / 10 : ℚ) [2, 39 / 20, 19 / 10] := by
  have accepted : acceptedSinceReset (fresh (1 / 10)) [] [.observe (.finite 5), .reset, .observe (.finite 2),
      .observe (.finite (39 / 20)), .observe .notFinite, .observe (.finite (19 / 10)), .observe (.finite (37 / 20))] =
      [2, 39 / 20, 19 / 10] := by
    decide +kernel
  refine ⟨accepted, ?_⟩
  rw [← accepted]
  exact (guard_run_law (by norm_num) _).2.2.2

end HesaiLidar.TimestampGuard
