import HesaiLidar.Defenses.XtSequenceTracker
import Mathlib.Algebra.BigOperators.Group.List.Basic
import Mathlib.Data.List.Chain
import Mathlib.Order.Interval.Finset.Nat
import Mathlib.Tactic.Ring

/-!
# The tracker against unbounded packet numbers

The sensor numbers its packets 0, 1, 2, … and puts the number modulo 2^32 on the wire. An ideal
receiver would accept exactly the packets newer than all earlier ones; `tracks_packet_numbers` shows
that the tracker does so, and that its reported gaps add up to the numbers never accepted.
-/

namespace HesaiLidar.XtSequenceTracker

open Observer

/-- A packet as it arrives: its unbounded number and its receive time. -/
structure Delivery where
  number : Nat
  stamp : ℚ

def Delivery.wire (d : Delivery) : UInt32 × Double := (UInt32.ofNat d.number, .finite d.stamp)

def newest (ds : List Delivery) : Nat := (ds.map Delivery.number).foldl max 0

def decisions (tracker : XtSequenceTracker) (ds : List Delivery) : List SequenceDecision :=
  answers observe tracker (ds.map Delivery.wire)

/-- The tracker's decision on the packet that arrives after `before`. -/
def decisionOn (tracker : XtSequenceTracker) (before : List Delivery) (d : Delivery) : SequenceDecision :=
  (observe (after observe tracker (before.map Delivery.wire)) d.wire).1

def acceptedNumbers (tracker : XtSequenceTracker) (ds : List Delivery) : List Nat :=
  ((ds.zip (decisions tracker ds)).filter fun entry => entry.2.accepted).map fun entry => entry.1.number

def missingTotal (tracker : XtSequenceTracker) (ds : List Delivery) : Nat :=
  ((decisions tracker ds).map fun decision => decision.missing.toNat).sum

/-- What the network may do: every packet is less than half the number range away from the newest one
before it, and no receive gap reaches the restart time. -/
structure Deliverable (restartIdleSec : ℚ) (ds : List Delivery) : Prop where
  window : ∀ before d rest, ds = before ++ d :: rest → before ≠ [] →
    -(2 ^ 31 : Int) ≤ d.number - newest before ∧ (d.number : Int) - newest before < 2 ^ 31
  steady : ∀ before d e rest, ds = before ++ d :: e :: rest → e.stamp - d.stamp < restartIdleSec

/-! ### One delivery -/

section Step

variable {tracker : XtSequenceTracker} {newest n : Nat} {last receive : ℚ}
variable (started : tracker.initialized = true) (baseline : tracker.lastSequence = UInt32.ofNat newest)
variable (idle : tracker.restartedAfterIdle (.finite receive) = false)
include started baseline idle

theorem observe_duplicate (same : n = newest) :
    observe tracker (UInt32.ofNat n, .finite receive) =
      (⟨.kDuplicate, tracker.lastSequence, UInt32.ofNat n, 0⟩,
        { tracker with lastObservedTimestamp := .finite receive }) := by
  subst same
  simp [observe, started, idle, baseline]

variable (lower : -(2 ^ 31 : Int) ≤ n - newest) (upper : (n : Int) - newest < 2 ^ 31)

include lower upper in
theorem observe_backward (late : n < newest) :
    observe tracker (UInt32.ofNat n, .finite receive) =
      (⟨.kBackward, tracker.lastSequence, UInt32.ofNat n, 0⟩,
        { tracker with lastObservedTimestamp := .finite receive }) := by
  have nonzero : ¬ UInt32.ofNat n - UInt32.ofNat newest = 0 := by
    rw [sub_eq_zero_iff lower upper]
    omega
  have half : ¬ UInt32.ofNat n - UInt32.ofNat newest < 0x80000000 := by
    rw [sub_lt_half_iff lower upper]
    omega
  simp [observe, started, idle, baseline, nonzero, half]

include lower upper in
/-- A newer packet is accepted and reports the numbers it skipped. -/
theorem observe_newer (newer : newest < n) :
    (observe tracker (UInt32.ofNat n, .finite receive)).1.accepted = true ∧
    (observe tracker (UInt32.ofNat n, .finite receive)).1.missing.toNat = n - newest - 1 ∧
    (observe tracker (UInt32.ofNat n, .finite receive)).2 =
      { tracker with lastSequence := UInt32.ofNat n, lastObservedTimestamp := .finite receive } := by
  have nonzero : ¬ UInt32.ofNat n - UInt32.ofNat newest = 0 := by
    rw [sub_eq_zero_iff lower upper]
    omega
  have half : UInt32.ofNat n - UInt32.ofNat newest < 0x80000000 := by
    rw [sub_lt_half_iff lower upper]
    omega
  have size := toNat_sub_of_le upper (Nat.le_of_lt newer)
  simp only [observe, started, idle, baseline, not_true_eq_false, if_false, Bool.false_eq_true, nonzero, half, if_true]
  by_cases next : UInt32.ofNat n - UInt32.ofNat newest = 1
  · rw [next, UInt32.toNat_one] at size
    rw [if_pos next]
    refine ⟨rfl, ?_, trivial⟩
    show 0 = n - newest - 1
    omega
  · rw [if_neg next]
    refine ⟨rfl, ?_, trivial⟩
    show (UInt32.ofNat n - UInt32.ofNat newest - 1).toNat = n - newest - 1
    rw [UInt32.toNat_sub_of_le, size, UInt32.toNat_one]
    rw [UInt32.le_iff_toNat_le, size, UInt32.toNat_one]
    omega

end Step

/-! ### A whole delivered sequence -/

variable {start : XtSequenceTracker} {ds : List Delivery} {d : Delivery}

theorem newest_concat : newest (ds ++ [d]) = max (newest ds) d.number := by
  simp [newest]

theorem le_newest {d : Delivery} (member : d ∈ ds) : d.number ≤ newest ds := by
  induction ds using List.reverseRecOn with
  | nil => cases member
  | append_singleton ds e ih =>
    rw [newest_concat]
    rcases List.mem_append.mp member with earlier | this
    · exact Nat.le_trans (ih earlier) (Nat.le_max_left ..)
    · obtain rfl := List.mem_singleton.mp this
      exact Nat.le_max_right ..

theorem decisions_concat : decisions start (ds ++ [d]) = decisions start ds ++ [decisionOn start ds d] := by
  simp [decisions, decisionOn, answers_concat]

variable (start ds d) in
theorem acceptedNumbers_concat :
    acceptedNumbers start (ds ++ [d]) =
      acceptedNumbers start ds ++ if (decisionOn start ds d).accepted then [d.number] else [] := by
  have lengths : ds.length = (decisions start ds).length := by simp [decisions]
  rw [acceptedNumbers, decisions_concat, List.zip_append lengths, List.filter_append, List.map_append]
  by_cases accepted : (decisionOn start ds d).accepted <;> simp [acceptedNumbers, accepted]

variable (start ds d) in
theorem missingTotal_concat :
    missingTotal start (ds ++ [d]) = missingTotal start ds + (decisionOn start ds d).missing.toNat := by
  simp [missingTotal, decisions_concat]

theorem Deliverable.front {restartIdleSec : ℚ} {before after : List Delivery}
    (deliverable : Deliverable restartIdleSec (before ++ after)) : Deliverable restartIdleSec before where
  window := fun front d rest split => deliverable.window front d (rest ++ after) (by simp [split])
  steady := fun front d e rest split => deliverable.steady front d e (rest ++ after) (by simp [split])

/-- What the tracker, its answers and the ideal receiver agree on after a nonempty history. -/
structure Tracks (start : XtSequenceTracker) (ds : List Delivery) (nonempty : ds ≠ []) : Prop where
  started : (after observe start (ds.map Delivery.wire)).initialized = true
  idleTime : (after observe start (ds.map Delivery.wire)).restartIdleSec = start.restartIdleSec
  baseline : (after observe start (ds.map Delivery.wire)).lastSequence = UInt32.ofNat (newest ds)
  clock : (after observe start (ds.map Delivery.wire)).lastObservedTimestamp = .finite (ds.getLast nonempty).stamp
  increasing : (acceptedNumbers start ds).Pairwise (· < ·)
  between : ∀ n ∈ acceptedNumbers start ds, (ds.head nonempty).number ≤ n ∧ n ≤ newest ds
  accounted : missingTotal start ds + (acceptedNumbers start ds).length + (ds.head nonempty).number = newest ds + 1

theorem decisionOn_first (uninitialized : start.initialized = false) (d : Delivery) :
    decisionOn start [] d = ⟨.kFirst, UInt32.ofNat d.number, UInt32.ofNat d.number, 0⟩ := by
  simp [decisionOn, Delivery.wire, observe, uninitialized]

theorem tracks_first (uninitialized : start.initialized = false) (d : Delivery) :
    Tracks start [d] (List.cons_ne_nil d []) := by
  have decision := decisionOn_first uninitialized d
  have accepted : acceptedNumbers start [d] = [d.number] := by
    have concat := acceptedNumbers_concat start [] d
    rw [decision] at concat
    exact concat
  have missing : missingTotal start [d] = 0 := by
    have concat := missingTotal_concat start [] d
    rw [decision] at concat
    exact concat
  have number : newest [d] = d.number := Nat.zero_max _
  constructor <;> simp [after, observe, Delivery.wire, uninitialized, accepted, missing, number]
  omega

/-- The three verdicts on a delivery that is not the first, and what each does to the history. -/
theorem Tracks.decide {nonempty : ds ≠ []} (tracks : Tracks start ds nonempty)
    (deliverable : Deliverable start.restartIdleSec (ds ++ [d])) :
    (d.number = newest ds ∧ (decisionOn start ds d).status = .kDuplicate ∧ (decisionOn start ds d).missing = 0 ∨
      d.number < newest ds ∧ (decisionOn start ds d).status = .kBackward ∧ (decisionOn start ds d).missing = 0 ∨
      newest ds < d.number ∧ (decisionOn start ds d).accepted = true ∧
        (decisionOn start ds d).missing.toNat = d.number - newest ds - 1) ∧
    (observe (after observe start (ds.map Delivery.wire)) d.wire).2 =
      { after observe start (ds.map Delivery.wire) with
        lastSequence := UInt32.ofNat (newest (ds ++ [d]))
        lastObservedTimestamp := .finite d.stamp } := by
  obtain ⟨lower, upper⟩ := deliverable.window ds d [] rfl nonempty
  have last : ds ++ [d] = ds.dropLast ++ ds.getLast nonempty :: d :: [] :=
    (congrArg (· ++ [d]) (List.dropLast_append_getLast nonempty).symm).trans (List.append_assoc ..)
  have steady := deliverable.steady _ _ _ _ last
  have idle := restartedAfterIdle_of_steady tracks.clock (tracks.idleTime ▸ steady)
  rw [newest_concat]
  rcases Nat.lt_trichotomy d.number (newest ds) with late | same | newer
  · have step := observe_backward tracks.started tracks.baseline idle lower upper late
    rw [Nat.max_eq_left (Nat.le_of_lt late), ← tracks.baseline]
    exact ⟨.inr (.inl ⟨late, by rw [decisionOn, Delivery.wire, step], by rw [decisionOn, Delivery.wire, step]⟩),
      by rw [Delivery.wire, step]⟩
  · have step := observe_duplicate tracks.started tracks.baseline idle same
    rw [same, Nat.max_self, ← tracks.baseline]
    exact ⟨.inl ⟨rfl, by rw [decisionOn, Delivery.wire, step], by rw [decisionOn, Delivery.wire, step]⟩,
      by rw [Delivery.wire, step]⟩
  · obtain ⟨accepted, missing, state⟩ := observe_newer tracks.started tracks.baseline idle lower upper newer
    rw [Nat.max_eq_right (Nat.le_of_lt newer)]
    exact ⟨.inr (.inr ⟨newer, accepted, missing⟩), state⟩

theorem Tracks.next {nonempty : ds ≠ []} (tracks : Tracks start ds nonempty)
    (deliverable : Deliverable start.restartIdleSec (ds ++ [d])) : Tracks start (ds ++ [d]) (by simp) := by
  obtain ⟨verdict, state⟩ := tracks.decide deliverable
  have head : (ds ++ [d]).head (by simp) = ds.head nonempty := List.head_append_of_ne_nil nonempty
  have wire : (ds ++ [d]).map Delivery.wire = ds.map Delivery.wire ++ [d.wire] := by simp
  have increasing := tracks.increasing
  have between := tracks.between
  have accounted := tracks.accounted
  -- A rejected packet is no newer than the newest, so it changes neither count nor range.
  have kept (rejected : (decisionOn start ds d).accepted = false) (missing : (decisionOn start ds d).missing = 0)
      (old : d.number ≤ newest ds) : newest (ds ++ [d]) = newest ds ∧
        acceptedNumbers start (ds ++ [d]) = acceptedNumbers start ds ∧
        missingTotal start (ds ++ [d]) = missingTotal start ds := by
    refine ⟨?_, ?_, ?_⟩
    · rw [newest_concat, Nat.max_eq_left old]
    · rw [acceptedNumbers_concat, rejected]
      simp
    · rw [missingTotal_concat, missing]
      simp
  have record : (acceptedNumbers start (ds ++ [d])).Pairwise (· < ·) ∧
      (∀ n ∈ acceptedNumbers start (ds ++ [d]), (ds.head nonempty).number ≤ n ∧ n ≤ newest (ds ++ [d])) ∧
      missingTotal start (ds ++ [d]) + (acceptedNumbers start (ds ++ [d])).length + (ds.head nonempty).number =
        newest (ds ++ [d]) + 1 := by
    rcases verdict with ⟨same, status, missing⟩ | ⟨late, status, missing⟩ | ⟨newer, accepted, missing⟩
    · obtain ⟨new, numbers, total⟩ := kept (by simp [SequenceDecision.accepted, status]) missing (Nat.le_of_eq same)
      rw [new, numbers, total]
      exact ⟨increasing, between, accounted⟩
    · obtain ⟨new, numbers, total⟩ := kept (by simp [SequenceDecision.accepted, status]) missing (Nat.le_of_lt late)
      rw [new, numbers, total]
      exact ⟨increasing, between, accounted⟩
    · have numbers : acceptedNumbers start (ds ++ [d]) = acceptedNumbers start ds ++ [d.number] := by
        rw [acceptedNumbers_concat, accepted, if_pos rfl]
      have first : (ds.head nonempty).number ≤ newest ds := le_newest (List.head_mem nonempty)
      rw [numbers, newest_concat, missingTotal_concat, missing, Nat.max_eq_right (Nat.le_of_lt newer)]
      refine ⟨?_, ?_, ?_⟩
      · refine List.pairwise_append.mpr ⟨increasing, List.pairwise_singleton _ _, fun n old m new => ?_⟩
        obtain rfl := List.mem_singleton.mp new
        exact Nat.lt_of_le_of_lt (between n old).2 newer
      · intro n member
        rcases List.mem_append.mp member with old | new
        · exact ⟨(between n old).1, Nat.le_trans (between n old).2 (Nat.le_of_lt newer)⟩
        · obtain rfl := List.mem_singleton.mp new
          exact ⟨Nat.le_trans first (Nat.le_of_lt newer), Nat.le_refl _⟩
      · rw [List.length_append, List.length_singleton]
        omega
  exact
    { started := by rw [wire, after_concat, state]; exact tracks.started
      idleTime := by rw [wire, after_concat, state]; exact tracks.idleTime
      baseline := by rw [wire, after_concat, state]
      clock := by rw [wire, after_concat, state]; simp
      increasing := record.1
      between := by rw [head]; exact record.2.1
      accounted := by rw [head]; exact record.2.2 }

theorem tracks (uninitialized : start.initialized = false) (nonempty : ds ≠ [])
    (deliverable : Deliverable start.restartIdleSec ds) : Tracks start ds nonempty := by
  induction ds using List.reverseRecOn with
  | nil => exact absurd rfl nonempty
  | append_singleton before d ih =>
    rcases eq_or_ne before [] with rfl | earlier
    · exact tracks_first uninitialized d
    · exact (ih earlier deliverable.front).next deliverable

/-- The numbers in the delivered range that were never accepted, counted by the reported gaps. -/
theorem Tracks.missingTotal_eq {nonempty : ds ≠ []} (tracks : Tracks start ds nonempty) :
    missingTotal start ds =
      (Finset.Icc (ds.head nonempty).number (newest ds) \ (acceptedNumbers start ds).toFinset).card := by
  have inside : (acceptedNumbers start ds).toFinset ⊆ Finset.Icc (ds.head nonempty).number (newest ds) := by
    intro n member
    exact Finset.mem_Icc.mpr (tracks.between n (List.mem_toFinset.mp member))
  have count : (acceptedNumbers start ds).toFinset.card = (acceptedNumbers start ds).length :=
    List.toFinset_card_of_nodup (tracks.increasing.imp Nat.ne_of_lt)
  have accounted := tracks.accounted
  rw [Finset.card_sdiff_of_subset inside, Nat.card_Icc, count]
  omega

/-- From a reset tracker, through any loss, duplication and reordering within the window and any number
of rollovers, exactly the packets newer than all before are accepted, and the gaps account for the rest. -/
theorem tracks_packet_numbers (tracker : XtSequenceTracker) (ds : List Delivery)
    (deliverable : Deliverable tracker.restartIdleSec ds) :
    (∀ before d rest, ds = before ++ d :: rest →
      ((decisionOn tracker.reset before d).accepted = true ↔ before = [] ∨ newest before < d.number) ∧
      ((decisionOn tracker.reset before d).status = .kDuplicate ↔ before ≠ [] ∧ d.number = newest before) ∧
      ((decisionOn tracker.reset before d).status = .kBackward ↔ before ≠ [] ∧ d.number < newest before)) ∧
    ∀ before rest, ds = before ++ rest → ∀ nonempty : before ≠ [],
      (missingTotal tracker.reset before : Int) =
        (newest before - (before.head nonempty).number) - ((acceptedNumbers tracker.reset before).length - 1) ∧
      missingTotal tracker.reset before =
        (Finset.Icc (before.head nonempty).number (newest before) \
          (acceptedNumbers tracker.reset before).toFinset).card := by
  refine ⟨fun before d rest split => ?_, fun before rest split nonempty => ?_⟩
  · rcases eq_or_ne before [] with rfl | nonempty
    · rw [decisionOn_first rfl]
      simp [SequenceDecision.accepted]
    · rw [List.append_cons] at split
      subst split
      have tracks : Tracks tracker.reset before nonempty := tracks rfl nonempty deliverable.front.front
      have known := tracks.decide deliverable.front
      simp only [nonempty, false_or, ne_eq, not_false_eq_true, true_and]
      rcases known.1 with ⟨same, status, -⟩ | ⟨late, status, -⟩ | ⟨newer, accepted, -⟩
      · simp [SequenceDecision.accepted, status, same]
      · simp [SequenceDecision.accepted, status, late, Nat.ne_of_lt late, Nat.le_of_lt late]
      · have kept := accepted
        simp only [SequenceDecision.accepted, Bool.and_eq_true, decide_eq_true_eq] at kept
        simp [accepted, kept.1, kept.2, newer, Nat.ne_of_gt newer, Nat.le_of_lt newer]
  · subst split
    have tracks : Tracks tracker.reset before nonempty := tracks rfl nonempty deliverable.front
    have accounted := tracks.accounted
    exact ⟨by omega, tracks.missingTotal_eq⟩

/-- A rollover with one packet lost and then delivered late. -/
theorem tracks_packet_numbers_rollover :
    let ds : List Delivery := [⟨4294967294, 0⟩, ⟨4294967296, 1⟩, ⟨4294967295, 1⟩]
    (decisions (fresh 2) ds).map (fun decision => (decision.status, decision.missing)) =
        [(.kFirst, 0), (.kForwardGap, 1), (.kBackward, 0)] ∧
      (missingTotal (fresh 2).reset ds : Int) =
        (newest ds - 4294967294) - ((acceptedNumbers (fresh 2).reset ds).length - 1) := by
  refine ⟨by decide +kernel, ?_⟩
  have deliverable : Deliverable 2 [⟨4294967294, 0⟩, ⟨4294967296, 1⟩, ⟨4294967295, 1⟩] := by
    constructor
    · rintro (_ | ⟨a, _ | ⟨b, _ | ⟨c, before⟩⟩⟩) d rest split nonempty
      · exact absurd rfl nonempty
      · obtain ⟨rfl, rfl, rfl⟩ := by simpa using split
        decide
      · obtain ⟨rfl, rfl, rfl, rfl⟩ := by simpa using split
        decide
      · simp at split
    · rintro (_ | ⟨a, _ | ⟨b, _ | ⟨c, before⟩⟩⟩) d e rest split
      · obtain ⟨rfl, rfl, rfl⟩ := by simpa using split
        decide +kernel
      · obtain ⟨rfl, rfl, rfl, rfl⟩ := by simpa using split
        decide +kernel
      · simp at split
      · simp at split
  exact ((tracks_packet_numbers (fresh 2) _ deliverable).2 _ [] (List.append_nil _).symm (by simp)).1

end HesaiLidar.XtSequenceTracker
