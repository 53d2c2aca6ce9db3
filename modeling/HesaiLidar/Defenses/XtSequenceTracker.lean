import HesaiLidar.Defenses.TimestampGuard
import HesaiLidar.Library.ModularWindow

/-!
# XtSequenceTracker

The UDP sequence check of `packet_defenses.h`. One unsigned 32-bit subtraction decides whether a
packet is new, repeated or late; a long enough receive idle starts over from the next packet.
-/

namespace HesaiLidar

inductive SequenceStatus where
  | kFirst
  | kInOrder
  | kForwardGap
  | kDuplicate
  | kBackward
  | kRestartAfterIdle
  deriving DecidableEq, Repr

structure SequenceDecision where
  status : SequenceStatus
  previous : UInt32
  current : UInt32
  missing : UInt32

def SequenceDecision.accepted (decision : SequenceDecision) : Bool :=
  decision.status ≠ .kDuplicate && decision.status ≠ .kBackward

structure XtSequenceTracker where
  restartIdleSec : ℚ
  initialized : Bool
  lastSequence : UInt32
  lastObservedTimestamp : Double

def kXtSequenceRestartIdleSec : ℚ := 2

namespace XtSequenceTracker

def fresh (restartIdleSec : ℚ) : XtSequenceTracker := ⟨restartIdleSec, false, 0, .finite 0⟩

def restartedAfterIdle (tracker : XtSequenceTracker) : Double → Bool
  | .finite receive =>
    match tracker.lastObservedTimestamp with
    | .finite last => decide (receive - last ≥ tracker.restartIdleSec)
    | .notFinite => false
  | .notFinite => false

def observe (tracker : XtSequenceTracker) (observation : UInt32 × Double) : SequenceDecision × XtSequenceTracker :=
  let (sequence, receiveTimestamp) := observation
  if ¬ tracker.initialized then
    (⟨.kFirst, sequence, sequence, 0⟩,
      { tracker with initialized := true, lastSequence := sequence, lastObservedTimestamp := receiveTimestamp })
  else
    let previous := tracker.lastSequence
    -- Every observation refreshes the idle clock, whether or not the packet is kept.
    let seen := { tracker with lastObservedTimestamp := receiveTimestamp }
    if tracker.restartedAfterIdle receiveTimestamp then
      (⟨.kRestartAfterIdle, previous, sequence, 0⟩, { seen with lastSequence := sequence })
    else
      let delta := sequence - previous
      if delta = 0 then (⟨.kDuplicate, previous, sequence, 0⟩, seen)
      else if delta < 0x80000000 then
        (if delta = 1 then ⟨.kInOrder, previous, sequence, 0⟩ else ⟨.kForwardGap, previous, sequence, delta - 1⟩,
          { seen with lastSequence := sequence })
      else (⟨.kBackward, previous, sequence, 0⟩, seen)

def reset (tracker : XtSequenceTracker) : XtSequenceTracker :=
  { tracker with initialized := false, lastSequence := 0, lastObservedTimestamp := .finite 0 }

/-! ### The ways of one observation -/

/-- The tracker after an observation that moves its baseline. -/
def moved (tracker : XtSequenceTracker) (sequence : UInt32) (receiveTimestamp : Double) : XtSequenceTracker :=
  { tracker with initialized := true, lastSequence := sequence, lastObservedTimestamp := receiveTimestamp }

/-- The tracker after an observation that leaves its baseline. -/
def kept (tracker : XtSequenceTracker) (receiveTimestamp : Double) : XtSequenceTracker :=
  { tracker with initialized := true, lastObservedTimestamp := receiveTimestamp }

/-- How an observation may be decided, and what it leaves. -/
inductive Observes (tracker : XtSequenceTracker) (sequence : UInt32) (stamp : Double) :
    SequenceDecision × XtSequenceTracker → Prop
  | first (fresh : tracker.initialized = false) :
    Observes tracker sequence stamp (⟨.kFirst, sequence, sequence, 0⟩, tracker.moved sequence stamp)
  | restart (started : tracker.initialized = true) (idle : tracker.restartedAfterIdle stamp = true) :
    Observes tracker sequence stamp
      (⟨.kRestartAfterIdle, tracker.lastSequence, sequence, 0⟩, tracker.moved sequence stamp)
  | duplicate (started : tracker.initialized = true) (busy : tracker.restartedAfterIdle stamp = false)
      (same : sequence - tracker.lastSequence = 0) :
    Observes tracker sequence stamp (⟨.kDuplicate, tracker.lastSequence, sequence, 0⟩, tracker.kept stamp)
  | inOrder (started : tracker.initialized = true) (busy : tracker.restartedAfterIdle stamp = false)
      (next : sequence - tracker.lastSequence = 1) :
    Observes tracker sequence stamp (⟨.kInOrder, tracker.lastSequence, sequence, 0⟩, tracker.moved sequence stamp)
  | forwardGap (started : tracker.initialized = true) (busy : tracker.restartedAfterIdle stamp = false)
      (nonzero : sequence - tracker.lastSequence ≠ 0) (skips : sequence - tracker.lastSequence ≠ 1)
      (ahead : sequence - tracker.lastSequence < 0x80000000) :
    Observes tracker sequence stamp
      (⟨.kForwardGap, tracker.lastSequence, sequence, sequence - tracker.lastSequence - 1⟩,
        tracker.moved sequence stamp)
  | backward (started : tracker.initialized = true) (busy : tracker.restartedAfterIdle stamp = false)
      (nonzero : sequence - tracker.lastSequence ≠ 0) (behind : ¬ sequence - tracker.lastSequence < 0x80000000) :
    Observes tracker sequence stamp (⟨.kBackward, tracker.lastSequence, sequence, 0⟩, tracker.kept stamp)

theorem observe_cases (tracker : XtSequenceTracker) (sequence : UInt32) (stamp : Double) :
    Observes tracker sequence stamp (tracker.observe (sequence, stamp)) := by
  cases started : tracker.initialized with
  | false =>
    rw [observe, if_pos (by simp [started])]
    exact .first started
  | true =>
    simp only [observe, started, not_true_eq_false, if_false]
    split_ifs with idle same ahead next
    · exact .restart started idle
    · exact .duplicate started (Bool.eq_false_of_not_eq_true idle) same
    · exact .inOrder started (Bool.eq_false_of_not_eq_true idle) next
    · exact .forwardGap started (Bool.eq_false_of_not_eq_true idle) same next ahead
    · exact .backward started (Bool.eq_false_of_not_eq_true idle) same ahead

/-- Waiting less than the idle time restarts nothing. -/
theorem restartedAfterIdle_of_steady {tracker : XtSequenceTracker} {last receive : ℚ}
    (seen : tracker.lastObservedTimestamp = .finite last) (steady : receive - last < tracker.restartIdleSec) :
    tracker.restartedAfterIdle (.finite receive) = false := by
  simp only [restartedAfterIdle, seen, decide_eq_false_iff_not, not_le]
  exact steady

section Wire

variable {a b : Nat}

/-- The code's subtraction is the wrapped difference of the packet numbers. -/
theorem toNat_sub_ofNat (a b : Nat) :
    (UInt32.ofNat a - UInt32.ofNat b).toNat = ModularWindow.wrappedSub (2 ^ 32) a b := by
  rw [UInt32.toNat_sub, ModularWindow.wrappedSub, UInt32.toNat_ofNat', UInt32.toNat_ofNat']

variable (lower : -(2 ^ 31 : Int) ≤ a - b) (upper : (a : Int) - b < 2 ^ 31)
include lower upper

theorem sub_eq_zero_iff : UInt32.ofNat a - UInt32.ofNat b = 0 ↔ a = b := by
  rw [← UInt32.toNat_inj, toNat_sub_ofNat]
  exact ModularWindow.wrappedSub_eq_zero_iff (h := 2 ^ 31) rfl (by exact_mod_cast lower) (by exact_mod_cast upper)

theorem sub_lt_half_iff : UInt32.ofNat a - UInt32.ofNat b < 0x80000000 ↔ b ≤ a := by
  rw [UInt32.lt_iff_toNat_lt, toNat_sub_ofNat]
  exact ModularWindow.wrappedSub_lt_iff (h := 2 ^ 31) rfl (by exact_mod_cast lower) (by exact_mod_cast upper)

omit lower in
theorem toNat_sub_of_le (le : b ≤ a) : (UInt32.ofNat a - UInt32.ofNat b).toNat = a - b := by
  rw [toNat_sub_ofNat]
  exact ModularWindow.wrappedSub_of_le (h := 2 ^ 31) rfl (by exact_mod_cast upper) le

end Wire

end XtSequenceTracker

end HesaiLidar
