import HesaiLidar.Defenses.SequenceEpochs
import HesaiLidar.Library.Turning

/-!
# Runs of consecutive packets

A sensor that has restarted numbers its packets from anywhere. Such a run stays dropped as long as its
numbers lie behind the baseline, unless the tracker sees a pause: every observation, dropped or not,
restarts the idle clock.
-/

namespace HesaiLidar.XtSequenceTracker

open Observer

/-- Packets numbered one after another, the first one `sequence`. -/
def consecutive : UInt32 → List ℚ → List (UInt32 × Double)
  | _, [] => []
  | sequence, stamp :: stamps => (sequence, .finite stamp) :: consecutive (sequence + 1) stamps

/-- The receive times of a run behind the one the tracker remembers. -/
def observedStamps (tracker : XtSequenceTracker) (stamps : List ℚ) : List ℚ :=
  match tracker.lastObservedTimestamp with
  | .finite last => last :: stamps
  | .notFinite => stamps

/-- Two observations in a row lie at least the restart time apart. -/
def IdleGap (tracker : XtSequenceTracker) (stamps : List ℚ) : Prop :=
  ∃ pair ∈ Turning.neighbours (tracker.observedStamps stamps), tracker.restartIdleSec ≤ pair.2 - pair.1

/-- How far a number lies behind the baseline, around the number circle. -/
def behind (tracker : XtSequenceTracker) (sequence : UInt32) : Nat := (tracker.lastSequence - sequence).toNat

variable {tracker : XtSequenceTracker} {sequence : UInt32} {first second : ℚ} {stamps : List ℚ}

/-! ### One observation -/

theorem toNat_sub_of_behind :
    (sequence - tracker.lastSequence).toNat = (2 ^ 32 - tracker.behind sequence) % 2 ^ 32 := by
  have small := tracker.lastSequence.toNat_lt
  have smallToo := sequence.toNat_lt
  rw [behind, UInt32.toNat_sub, UInt32.toNat_sub]
  omega

theorem behind_lt : tracker.behind sequence < 2 ^ 32 := UInt32.toNat_lt _

/-- Dropped are the packets at the baseline and in the half circle behind it, if there was no pause. -/
theorem rejected_iff :
    (tracker.observe (sequence, .finite first)).1.accepted = false ↔
      tracker.initialized = true ∧ tracker.restartedAfterIdle (.finite first) = false ∧
        tracker.behind sequence ≤ 2 ^ 31 := by
  have size := @toNat_sub_of_behind tracker sequence
  have bound := @behind_lt tracker sequence
  have ways := tracker.observe_cases sequence (.finite first)
  generalize tracker.observe (sequence, .finite first) = outcome at ways
  cases ways with
  | first fresh => exact iff_of_false nofun fun dropped => nomatch fresh.symm.trans dropped.1
  | restart _ idle => exact iff_of_false nofun fun dropped => nomatch idle.symm.trans dropped.2.1
  | duplicate started busy same =>
    rw [same, UInt32.toNat_zero] at size
    exact iff_of_true rfl ⟨started, busy, by omega⟩
  | inOrder started busy next =>
    rw [next, UInt32.toNat_one] at size
    exact iff_of_false nofun fun dropped => by omega
  | forwardGap started busy nonzero skips ahead =>
    have positive : (sequence - tracker.lastSequence).toNat ≠ 0 := fun zero => nonzero (UInt32.toNat_inj.mp zero)
    have half : (sequence - tracker.lastSequence).toNat < 2 ^ 31 := UInt32.lt_iff_toNat_lt.mp ahead
    exact iff_of_false nofun fun dropped => by omega
  | backward started busy nonzero behind =>
    have half : ¬ (sequence - tracker.lastSequence).toNat < 2 ^ 31 := fun lt => behind (UInt32.lt_iff_toNat_lt.mpr lt)
    exact iff_of_true rfl ⟨started, busy, by omega⟩

theorem observe_of_rejected {observation : UInt32 × Double}
    (rejected : (tracker.observe observation).1.accepted = false) :
    (tracker.observe observation).2 = tracker.kept observation.2 := by
  obtain ⟨sequence, stamp⟩ := observation
  have ways := tracker.observe_cases sequence stamp
  generalize tracker.observe (sequence, stamp) = outcome at ways rejected
  cases ways with
  | duplicate => rfl
  | backward => rfl
  | _ => cases rejected

/-! ### A whole run -/

theorem behind_next :
    (tracker.kept (.finite first)).behind (sequence + 1) = (tracker.behind sequence + (2 ^ 32 - 1)) % 2 ^ 32 := by
  have small := tracker.lastSequence.toNat_lt
  have smallToo := sequence.toNat_lt
  show (tracker.lastSequence - (sequence + 1)).toNat = _
  rw [behind, UInt32.toNat_sub, UInt32.toNat_sub, UInt32.toNat_add, UInt32.toNat_one]
  omega

theorem idleGap_singleton : IdleGap tracker [first] ↔ tracker.restartedAfterIdle (.finite first) = true := by
  unfold IdleGap observedStamps restartedAfterIdle
  cases tracker.lastObservedTimestamp with
  | finite last => simp [Turning.neighbours]
  | notFinite => simp [Turning.neighbours]

theorem idleGap_cons_cons :
    IdleGap tracker (first :: second :: stamps) ↔
      tracker.restartedAfterIdle (.finite first) = true ∨ IdleGap (tracker.kept (.finite first)) (second :: stamps) := by
  unfold IdleGap observedStamps restartedAfterIdle kept
  cases tracker.lastObservedTimestamp with
  | finite last => simp
  | notFinite => simp

/-- A run is dropped whole exactly if it stays behind the baseline and no pause is seen. -/
theorem all_rejected_iff (tracker : XtSequenceTracker) (sequence : UInt32) (first : ℚ) (stamps : List ℚ) :
    (∀ decision ∈ answers observe tracker (consecutive sequence (first :: stamps)), decision.accepted = false) ↔
      tracker.initialized = true ∧ ¬ IdleGap tracker (first :: stamps) ∧ tracker.behind sequence ≤ 2 ^ 31 ∧
        stamps.length ≤ tracker.behind sequence := by
  induction stamps generalizing tracker sequence first with
  | nil =>
    rw [consecutive, consecutive, answers, answers, List.forall_mem_singleton, rejected_iff, idleGap_singleton]
    simp
  | cons second stamps ih =>
    have next := @behind_next tracker sequence first
    have bound := @behind_lt tracker sequence
    rw [consecutive, answers, List.forall_mem_cons, idleGap_cons_cons, List.length_cons]
    cases accepted : (tracker.observe (sequence, .finite first)).1.accepted with
    | true =>
      refine iff_of_false (fun dropped => Bool.false_ne_true dropped.1.symm) ?_
      rintro ⟨started, steady, near, -⟩
      have rejected := rejected_iff.mpr ⟨started, Bool.eq_false_iff.mpr fun idle => steady (.inl idle), near⟩
      exact Bool.false_ne_true (rejected.symm.trans accepted)
    | false =>
      obtain ⟨started, busy, near⟩ := rejected_iff.mp accepted
      rw [observe_of_rejected accepted, ih, next]
      simp only [kept, started, busy, true_and, Bool.false_eq_true, false_or]
      refine and_congr_right fun _ => ?_
      omega

/-- When a run of consecutive packets gets a packet through. -/
theorem run_accepted_iff (tracker : XtSequenceTracker) (sequence : UInt32) (first : ℚ) (stamps : List ℚ) :
    (∃ decision ∈ answers observe tracker (consecutive sequence (first :: stamps)), decision.accepted = true) ↔
      tracker.initialized = false ∨ IdleGap tracker (first :: stamps) ∨ 2 ^ 31 < tracker.behind sequence ∨
        tracker.behind sequence < stamps.length := by
  have dropped := all_rejected_iff tracker sequence first stamps
  rw [← not_iff_not]
  push Not
  simpa using dropped

/-- A sensor that restarts at 0 behind packet 1000 and sends a packet every second is not heard for two
seconds: its own dropped packets keep the idle clock from running out. -/
theorem steady_restart_unheard :
    ¬ ∀ (history : List Event) (sequence : UInt32) (first : ℚ) (stamps : List ℚ), (first :: stamps).IsChain (· ≤ ·) →
      (∀ last ∈ (first :: stamps).getLast?, kXtSequenceRestartIdleSec ≤ last - first) →
      ∃ decision ∈ answers observe (after handle (fresh kXtSequenceRestartIdleSec) history)
        (consecutive sequence (first :: stamps)), decision.accepted = true := by
  intro heard
  have late := heard [.observe 1000 (.finite 0)] 0 0 [1, 2] (by simp) (by simp [kXtSequenceRestartIdleSec])
  exact absurd late (by decide +kernel)

end HesaiLidar.XtSequenceTracker
