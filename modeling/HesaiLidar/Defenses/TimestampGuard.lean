import HesaiLidar.Library.Observer
import HesaiLidar.Library.Tolerance
import Mathlib.Algebra.Order.Ring.Rat
import Mathlib.Tactic.Linarith

/-!
# TimestampGuard

The reception timestamp check of `packet_defenses.h`. The guard remembers the largest accepted value,
so that an accepted regression never lowers what the next value is compared with.
-/

namespace HesaiLidar

/-- A C++ `double`. Finite values are taken as exact rationals. -/
inductive Double where
  | finite (value : ℚ)
  | notFinite
  deriving DecidableEq, Repr

inductive TimestampStatus where
  | kFirst
  | kAccepted
  | kRegression
  | kInvalid
  deriving DecidableEq, Repr

structure TimestampDecision where
  status : TimestampStatus
  previous : ℚ
  current : Double
  regressionSec : ℚ

def TimestampDecision.accepted (decision : TimestampDecision) : Bool :=
  decision.status = .kFirst || decision.status = .kAccepted

structure TimestampGuard where
  toleranceSec : ℚ
  initialized : Bool
  lastTimestamp : ℚ

def kTimestampRegressionToleranceSec : ℚ := 1 / 10

namespace TimestampGuard

def fresh (toleranceSec : ℚ) : TimestampGuard := ⟨toleranceSec, false, 0⟩

def observe (guard : TimestampGuard) : Double → TimestampDecision × TimestampGuard
  | .notFinite => (⟨.kInvalid, guard.lastTimestamp, .notFinite, 0⟩, guard)
  | .finite timestamp =>
    if ¬ guard.initialized then
      (⟨.kFirst, timestamp, .finite timestamp, 0⟩, { guard with initialized := true, lastTimestamp := timestamp })
    else
      let previous := guard.lastTimestamp
      let regression := previous - timestamp
      if regression > guard.toleranceSec then (⟨.kRegression, previous, .finite timestamp, regression⟩, guard)
      else
        (⟨.kAccepted, previous, .finite timestamp, if regression > 0 then regression else 0⟩,
          if timestamp > guard.lastTimestamp then { guard with lastTimestamp := timestamp } else guard)

def reset (guard : TimestampGuard) : TimestampGuard := { guard with initialized := false, lastTimestamp := 0 }

/-- The finite value an accepted decision let through. -/
def passed (decision : TimestampDecision) : Option ℚ :=
  match decision.accepted, decision.current with
  | true, .finite timestamp => some timestamp
  | _, _ => none

variable {guard : TimestampGuard} {timestamp : ℚ}

@[simp] theorem observe_toleranceSec (stamp : Double) : (guard.observe stamp).2.toleranceSec = guard.toleranceSec := by
  cases stamp with
  | notFinite => rfl
  | finite timestamp =>
    simp only [observe]
    split_ifs <;> rfl

theorem notFinite_rejected : (guard.observe .notFinite).1.accepted = false := rfl

theorem observe_first (first : guard.initialized = false) :
    guard.observe (.finite timestamp) =
      (⟨.kFirst, timestamp, .finite timestamp, 0⟩, { guard with initialized := true, lastTimestamp := timestamp }) := by
  simp [observe, first]

theorem observe_late (later : guard.initialized = true) (late : timestamp < guard.lastTimestamp - guard.toleranceSec) :
    guard.observe (.finite timestamp) =
      (⟨.kRegression, guard.lastTimestamp, .finite timestamp, guard.lastTimestamp - timestamp⟩, guard) := by
  have regression : guard.lastTimestamp - timestamp > guard.toleranceSec := by linarith
  simp only [observe, later, not_true_eq_false, if_false, regression, if_true]

theorem observe_near (later : guard.initialized = true) (near : guard.lastTimestamp - guard.toleranceSec ≤ timestamp) :
    guard.observe (.finite timestamp) =
      (⟨.kAccepted, guard.lastTimestamp, .finite timestamp, max 0 (guard.lastTimestamp - timestamp)⟩,
        { guard with lastTimestamp := max guard.lastTimestamp timestamp }) := by
  have regression : ¬ guard.lastTimestamp - timestamp > guard.toleranceSec := by linarith
  simp only [observe, later, not_true_eq_false, if_false, regression]
  congr 2
  · rcases lt_or_ge 0 (guard.lastTimestamp - timestamp) with back | forth
    · rw [if_pos back, max_eq_right (le_of_lt back)]
    · rw [if_neg (not_lt.mpr forth), max_eq_left forth]
  · rcases lt_or_ge guard.lastTimestamp timestamp with newer | older
    · rw [if_pos newer, max_eq_right (le_of_lt newer)]
    · rw [if_neg (not_lt.mpr older), max_eq_left older, ← later]

variable (guard timestamp) in
theorem observe_cases :
    guard.initialized = false ∨
      guard.initialized = true ∧ timestamp < guard.lastTimestamp - guard.toleranceSec ∨
      guard.initialized = true ∧ guard.lastTimestamp - guard.toleranceSec ≤ timestamp := by
  cases guard.initialized with
  | false => exact .inl rfl
  | true => exact .inr ((lt_or_ge _ _).imp (⟨rfl, ·⟩) (⟨rfl, ·⟩))

theorem accepted_iff :
    (guard.observe (.finite timestamp)).1.accepted = true ↔
      guard.initialized = false ∨ guard.lastTimestamp - guard.toleranceSec ≤ timestamp := by
  rcases observe_cases guard timestamp with first | ⟨later, late⟩ | ⟨later, near⟩
  · simp [observe_first first, first, TimestampDecision.accepted]
  · simp [observe_late later late, later, TimestampDecision.accepted, -tsub_le_iff_right, not_le.mpr late]
  · simp [observe_near later near, near, TimestampDecision.accepted]

theorem observe_of_rejected {stamp : Double} (rejected : (guard.observe stamp).1.accepted = false) :
    (guard.observe stamp).2 = guard := by
  cases stamp with
  | notFinite => rfl
  | finite timestamp =>
    rcases observe_cases guard timestamp with first | ⟨later, late⟩ | ⟨later, near⟩
    · simp [observe_first first, TimestampDecision.accepted] at rejected
    · rw [observe_late later late]
    · simp [observe_near later near, TimestampDecision.accepted] at rejected

/-! ### The accepted history -/

/-- The guard remembers the largest of the values it has accepted. -/
structure Remembers (guard : TimestampGuard) (accepted : List ℚ) : Prop where
  initialized : guard.initialized = true ↔ accepted ≠ []
  greatest : accepted ≠ [] → IsGreatest {t | t ∈ accepted} guard.lastTimestamp

theorem remembers_of_uninitialized (uninitialized : guard.initialized = false) : guard.Remembers [] where
  initialized := by simp [uninitialized]
  greatest := by simp

variable {accepted : List ℚ}

theorem Remembers.below (remembers : guard.Remembers accepted) {t : ℚ} (member : t ∈ accepted) :
    t ≤ guard.lastTimestamp :=
  (remembers.greatest (List.ne_nil_of_mem member)).2 member

theorem Remembers.accept (remembers : guard.Remembers accepted)
    (accepts : (guard.observe (.finite timestamp)).1.accepted = true) :
    (guard.observe (.finite timestamp)).2.Remembers (accepted ++ [timestamp]) := by
  rcases observe_cases guard timestamp with first | ⟨later, late⟩ | ⟨later, near⟩
  · obtain rfl : accepted = [] := by
      by_contra nonempty
      simp [remembers.initialized.mpr nonempty] at first
    rw [observe_first first]
    exact ⟨by simp, fun _ => by simp⟩
  · simp [observe_late later late, TimestampDecision.accepted] at accepts
  · rw [observe_near later near]
    refine ⟨by simp [later], fun _ => ?_⟩
    have greatest := (remembers.greatest (remembers.initialized.mp later)).insert timestamp
    have grown : {t | t ∈ accepted ++ [timestamp]} = insert timestamp {t | t ∈ accepted} := by
      ext t
      simp [or_comm]
    show IsGreatest _ (max guard.lastTimestamp timestamp)
    rw [grown, max_comm]
    exact greatest

/-- What an accepted value is compared with: every earlier accepted value. -/
theorem Remembers.near (remembers : guard.Remembers accepted)
    (accepts : (guard.observe (.finite timestamp)).1.accepted = true) {t : ℚ} (member : t ∈ accepted) :
    t - guard.toleranceSec ≤ timestamp := by
  have later := remembers.initialized.mpr (List.ne_nil_of_mem member)
  rcases accepted_iff.mp accepts with first | near
  · simp [first] at later
  · exact Tolerance.near_of_mark near (remembers.below member)

theorem Remembers.accepts (remembers : guard.Remembers accepted)
    (near : ∀ t ∈ accepted, t - guard.toleranceSec ≤ timestamp) :
    (guard.observe (.finite timestamp)).1.accepted = true := by
  rcases eq_or_ne accepted [] with rfl | nonempty
  · have uninitialized : guard.initialized = false := by simpa using remembers.initialized
    exact accepted_iff.mpr (.inl uninitialized)
  · exact accepted_iff.mpr (.inr (near _ (remembers.greatest nonempty).1))

theorem Remembers.accepts_all (remembers : guard.Remembers accepted) {ts : List ℚ}
    (keeps : Tolerance.Keeps guard.toleranceSec (accepted ++ ts)) :
    ∀ decision ∈ Observer.answers observe guard (ts.map .finite), decision.accepted = true := by
  induction ts generalizing guard accepted with
  | nil => nofun
  | cons t ts ih =>
    have near := (Tolerance.keeps_append.mp keeps).2.2
    have accepts := remembers.accepts fun u member => near u member t List.mem_cons_self
    rw [List.append_cons] at keeps
    rintro decision (_ | ⟨_, later⟩)
    · exact accepts
    · exact ih (remembers.accept accepts) (by rwa [observe_toleranceSec]) decision later

theorem fresh_accepts {toleranceSec : ℚ} {ts : List ℚ} (keeps : Tolerance.Keeps toleranceSec ts) :
    ∀ decision ∈ Observer.answers observe (fresh toleranceSec) (ts.map .finite), decision.accepted = true :=
  (remembers_of_uninitialized rfl).accepts_all keeps

end TimestampGuard

end HesaiLidar
