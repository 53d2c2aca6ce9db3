import HesaiLidar.Defenses.TimestampHistory
import HesaiLidar.Defenses.XtSequenceTracker
import Mathlib.Data.List.Chain

/-!
# Both packet checks in a row

`TimestampGuard` and, for what it lets through, `XtSequenceTracker`, as the processing loop composes them.
`record` is the list of the packets both accept. It is accepted again as a whole exactly when its stamps keep
within the tolerance and each packet follows the one before it.
-/

namespace HesaiLidar

/-- What the checks see of a well-formed XT packet. -/
structure XtPacket where
  stamp : ℚ
  sequence : UInt32
  deriving DecidableEq, Repr

structure PacketDefenses where
  packetTimestampGuard : TimestampGuard
  xtSequenceTracker : XtSequenceTracker

namespace PacketDefenses

def fresh : PacketDefenses where
  packetTimestampGuard := .fresh kTimestampRegressionToleranceSec
  xtSequenceTracker := .fresh kXtSequenceRestartIdleSec

/-- Whether a packet is accepted, and the checks after it. The tracker sees only what the guard accepts. -/
def observe (d : PacketDefenses) (p : XtPacket) : Bool × PacketDefenses :=
  let (timestampDecision, guard) := d.packetTimestampGuard.observe (.finite p.stamp)
  if timestampDecision.accepted then
    let (sequenceDecision, tracker) := d.xtSequenceTracker.observe (p.sequence, .finite p.stamp)
    (sequenceDecision.accepted, ⟨guard, tracker⟩)
  else (false, ⟨guard, d.xtSequenceTracker⟩)

def record (d : PacketDefenses) : List XtPacket → List XtPacket
  | [] => []
  | p :: ps => if (d.observe p).1 then p :: (d.observe p).2.record ps else (d.observe p).2.record ps

/-- The sequence number advances, by less than half the number range. -/
def Advances (a b : UInt32) : Prop := b - a ≠ 0 ∧ b - a < 0x80000000

/-- The packet `p` is accepted right behind the accepted packet `q`. -/
def Follows (q p : XtPacket) : Prop :=
  Advances q.sequence p.sequence ∨ q.stamp + kXtSequenceRestartIdleSec ≤ p.stamp

/-- No packet that the sequence check drops is stamped before the packet accepted last. -/
def DropsInOrder (d : PacketDefenses) (last : Option XtPacket) : List XtPacket → Prop
  | [] => True
  | p :: ps =>
    if (d.observe p).1 then DropsInOrder (d.observe p).2 (some p) ps
    else
      ((d.packetTimestampGuard.observe (.finite p.stamp)).1.accepted = true → ∀ q, last = some q → q.stamp ≤ p.stamp) ∧
        DropsInOrder (d.observe p).2 last ps

variable {d : PacketDefenses} {p q : XtPacket} {ps : List XtPacket} {passed : List ℚ} {last : ℚ}

/-! ### One packet -/

theorem observe_rejected (rejected : (d.packetTimestampGuard.observe (.finite p.stamp)).1.accepted = false) :
    d.observe p = (false, d) := by
  have same := TimestampGuard.observe_of_rejected rejected
  unfold observe
  dsimp only
  rw [rejected, if_neg Bool.false_ne_true, same]

theorem observe_passed (passes : (d.packetTimestampGuard.observe (.finite p.stamp)).1.accepted = true) :
    d.observe p = ((d.xtSequenceTracker.observe (p.sequence, .finite p.stamp)).1.accepted,
      ⟨(d.packetTimestampGuard.observe (.finite p.stamp)).2, (d.xtSequenceTracker.observe (p.sequence, .finite p.stamp)).2⟩) := by
  unfold observe
  dsimp only
  rw [passes]
  rfl

/-- The tracker has accepted `q` last and has seen the stamp `last` last. -/
structure TrackerAt (tracker : XtSequenceTracker) (q : XtPacket) (last : ℚ) : Prop where
  restartIdleSec : tracker.restartIdleSec = kXtSequenceRestartIdleSec
  initialized : tracker.initialized = true
  lastSequence : tracker.lastSequence = q.sequence
  lastObservedTimestamp : tracker.lastObservedTimestamp = .finite last

theorem TrackerAt.observe {tracker : XtSequenceTracker} (at' : TrackerAt tracker q last) (p : XtPacket) :
    let result := tracker.observe (p.sequence, .finite p.stamp)
    (result.1.accepted = true ↔ Advances q.sequence p.sequence ∨ last + kXtSequenceRestartIdleSec ≤ p.stamp) ∧
      TrackerAt result.2 (if result.1.accepted then p else q) p.stamp := by
  have idle : tracker.restartedAfterIdle (.finite p.stamp) = decide (last + kXtSequenceRestartIdleSec ≤ p.stamp) := by
    unfold XtSequenceTracker.restartedAfterIdle
    rw [at'.lastObservedTimestamp, at'.restartIdleSec]
    dsimp only
    rw [decide_eq_decide, ge_iff_le, le_sub_iff_add_le, add_comm]
  unfold XtSequenceTracker.observe Advances
  dsimp only
  rw [at'.initialized, idle, at'.lastSequence]
  by_cases restart : last + kXtSequenceRestartIdleSec ≤ p.stamp
  · have result : decide (last + kXtSequenceRestartIdleSec ≤ p.stamp) = true := decide_eq_true restart
    rw [result, if_neg (not_not.mpr rfl), if_pos rfl]
    exact ⟨iff_of_true rfl (.inr restart), at'.restartIdleSec, rfl, rfl, rfl⟩
  · have result : decide (last + kXtSequenceRestartIdleSec ≤ p.stamp) = false := decide_eq_false restart
    rw [result, if_neg (not_not.mpr rfl), if_neg Bool.false_ne_true]
    by_cases duplicate : p.sequence - q.sequence = 0
    · rw [if_pos duplicate]
      refine ⟨iff_of_false nofun ?_, at'.restartIdleSec, rfl, rfl, rfl⟩
      exact not_or.mpr ⟨fun advances => advances.1 duplicate, restart⟩
    · rw [if_neg duplicate]
      by_cases forward : p.sequence - q.sequence < 0x80000000
      · rw [if_pos forward]
        split
        · exact ⟨iff_of_true rfl (.inl ⟨duplicate, forward⟩), at'.restartIdleSec, rfl, rfl, rfl⟩
        · exact ⟨iff_of_true rfl (.inl ⟨duplicate, forward⟩), at'.restartIdleSec, rfl, rfl, rfl⟩
      · rw [if_neg forward]
        refine ⟨iff_of_false nofun ?_, at'.restartIdleSec, rfl, rfl, rfl⟩
        exact not_or.mpr ⟨fun advances => forward advances.2, restart⟩

theorem trackerAt_first {tracker : XtSequenceTracker} (idle : tracker.restartIdleSec = kXtSequenceRestartIdleSec)
    (first : tracker.initialized = false) (p : XtPacket) :
    (tracker.observe (p.sequence, .finite p.stamp)).1.accepted = true ∧
      TrackerAt (tracker.observe (p.sequence, .finite p.stamp)).2 p p.stamp := by
  unfold XtSequenceTracker.observe
  dsimp only
  rw [first, if_pos Bool.false_ne_true]
  exact ⟨rfl, idle, rfl, rfl, rfl⟩

/-! ### Accepting a whole list -/

theorem record_length (d : PacketDefenses) (ps : List XtPacket) : (d.record ps).length ≤ ps.length := by
  induction ps generalizing d with
  | nil => exact Nat.le_refl _
  | cons p ps ih =>
    unfold record
    split
    · exact Nat.succ_le_succ (ih _)
    · exact Nat.le_succ_of_le (ih _)

theorem record_cons_eq : d.record (p :: ps) = p :: ps ↔ (d.observe p).1 = true ∧ (d.observe p).2.record ps = ps := by
  rw [record]
  split
  · rename_i accepted
    rw [List.cons_inj_right, accepted, eq_self, true_and]
  · rename_i rejected
    refine iff_of_false ?_ fun both => rejected both.1
    intro same
    have short := record_length (d.observe p).2 ps
    rw [same, List.length_cons] at short
    omega

theorem tracks_passed (tracks : d.packetTimestampGuard.Tracks kTimestampRegressionToleranceSec passed)
    (passes : (d.packetTimestampGuard.observe (.finite p.stamp)).1.accepted = true) :
    (d.packetTimestampGuard.observe (.finite p.stamp)).2.Tracks kTimestampRegressionToleranceSec (passed ++ [p.stamp]) := by
  have next := tracks.handle (.observe (.finite p.stamp))
  rwa [TimestampGuard.acceptedAfter, if_pos passes] at next

/-- Behind an accepted packet, stamps within the tolerance are all accepted exactly when each packet follows
the one before it. -/
theorem record_eq_iff (tracks : d.packetTimestampGuard.Tracks kTimestampRegressionToleranceSec passed)
    (at' : TrackerAt d.xtSequenceTracker q q.stamp)
    (keeps : Tolerance.Keeps kTimestampRegressionToleranceSec (passed ++ ps.map XtPacket.stamp)) :
    d.record ps = ps ↔ (q :: ps).IsChain Follows := by
  induction ps generalizing d q passed with
  | nil => exact iff_of_true rfl (List.IsChain.singleton q)
  | cons p ps ih =>
    have passes : (d.packetTimestampGuard.observe (.finite p.stamp)).1.accepted = true := by
      apply tracks.remembers.accepts
      intro t member
      rw [tracks.tolerance]
      exact (Tolerance.keeps_append.mp keeps).2.2 t member p.stamp List.mem_cons_self
    have next := tracks_passed tracks passes
    obtain ⟨accepts, moved⟩ := at'.observe p
    rw [List.map_cons, List.append_cons] at keeps
    rw [record_cons_eq, List.isChain_cons_cons, observe_passed passes]
    dsimp only
    constructor
    · rintro ⟨accepted, rest⟩
      rw [if_pos accepted] at moved
      exact ⟨accepts.mp accepted, (ih next moved keeps).mp rest⟩
    · rintro ⟨follows, rest⟩
      have accepted := accepts.mpr follows
      rw [if_pos accepted] at moved
      exact ⟨accepted, (ih next moved keeps).mpr rest⟩

theorem fresh_observe (p : XtPacket) :
    (fresh.observe p).1 = true ∧ TrackerAt (fresh.observe p).2.xtSequenceTracker p p.stamp ∧
      (fresh.observe p).2.packetTimestampGuard.Tracks kTimestampRegressionToleranceSec [p.stamp] := by
  have tracks := TimestampGuard.tracks_fresh kTimestampRegressionToleranceSec
  have passes : (fresh.packetTimestampGuard.observe (.finite p.stamp)).1.accepted = true :=
    tracks.remembers.accepts nofun
  obtain ⟨accepted, at'⟩ := trackerAt_first (show fresh.xtSequenceTracker.restartIdleSec = _ from rfl) rfl p
  rw [observe_passed passes]
  exact ⟨accepted, at', tracks_passed tracks passes⟩

/-- A list is accepted as a whole exactly when its packets follow one another, if its stamps keep within the
tolerance. -/
theorem fresh_record_eq_iff (keeps : Tolerance.Keeps kTimestampRegressionToleranceSec (ps.map XtPacket.stamp)) :
    fresh.record ps = ps ↔ ps.IsChain Follows := by
  cases ps with
  | nil => exact iff_of_true rfl .nil
  | cons p ps =>
    obtain ⟨accepted, at', tracks⟩ := fresh_observe p
    rw [record_cons_eq, accepted, eq_self, true_and]
    exact record_eq_iff tracks at' keeps

/-! ### What a record is like -/

theorem record_keeps (tracks : d.packetTimestampGuard.Tracks kTimestampRegressionToleranceSec passed) (ps : List XtPacket) :
    Tolerance.Keeps kTimestampRegressionToleranceSec (passed ++ (d.record ps).map XtPacket.stamp) := by
  induction ps generalizing d passed with
  | nil =>
    rw [record, List.map_nil, List.append_nil]
    exact tracks.keeps
  | cons p ps ih =>
    cases passes : (d.packetTimestampGuard.observe (.finite p.stamp)).1.accepted with
    | false =>
      rw [record, observe_rejected passes, if_neg Bool.false_ne_true]
      exact ih tracks
    | true =>
      have next : (d.observe p).2.packetTimestampGuard.Tracks kTimestampRegressionToleranceSec (passed ++ [p.stamp]) := by
        rw [observe_passed passes]
        exact tracks_passed tracks passes
      have rest := ih next
      rw [record]
      split
      · rwa [List.map_cons, List.append_cons]
      · refine rest.sublist ?_
        exact (List.sublist_append_left ..).append_right _

/-- Where the dropped packets are in order, each recorded packet follows the one before it. -/
theorem record_chain (at' : TrackerAt d.xtSequenceTracker q last) (late : q.stamp ≤ last)
    (inOrder : DropsInOrder d (some q) ps) : (q :: d.record ps).IsChain Follows := by
  induction ps generalizing d q last with
  | nil => exact .singleton q
  | cons p ps ih =>
    cases passes : (d.packetTimestampGuard.observe (.finite p.stamp)).1.accepted with
    | false =>
      rw [DropsInOrder, observe_rejected passes, if_neg Bool.false_ne_true] at inOrder
      rw [record, observe_rejected passes, if_neg Bool.false_ne_true]
      exact ih at' late inOrder.2
    | true =>
      obtain ⟨accepts, moved⟩ := at'.observe p
      rw [DropsInOrder, observe_passed passes] at inOrder
      rw [record, observe_passed passes]
      dsimp only at inOrder ⊢
      split
      · rename_i accepted
        rw [if_pos accepted] at moved inOrder
        refine .cons_cons ?_ (ih moved (le_refl _) inOrder)
        rcases accepts.mp accepted with advances | idle
        · exact .inl advances
        · exact .inr (le_trans (add_le_add_left late _) idle)
      · rename_i dropped
        rw [if_neg dropped] at moved inOrder
        exact ih moved (inOrder.1 passes q rfl) inOrder.2

theorem fresh_record_chain (inOrder : DropsInOrder fresh none ps) : (fresh.record ps).IsChain Follows := by
  cases ps with
  | nil => exact .nil
  | cons p ps =>
    obtain ⟨accepted, at', -⟩ := fresh_observe p
    rw [DropsInOrder, if_pos accepted] at inOrder
    rw [record, if_pos accepted]
    exact record_chain at' (le_refl _) inOrder

end PacketDefenses

end HesaiLidar
