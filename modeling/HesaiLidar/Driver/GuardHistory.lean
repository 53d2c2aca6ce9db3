import HesaiLidar.Driver.XtPath
import Mathlib.Data.Finset.Max
import Mathlib.Tactic.NormNum

/-!
# What the packet guard compares with

The guard runs in front of the copy, the dispatch, the parser and the sequence check, so its reference value
is the largest finite stamp of all packets popped so far, whatever the later stages made of them. It agrees
with the packets whose blocks were calculated as long as one of these carries that stamp.
-/

namespace HesaiLidar

def Double.value : Double → Option ℚ
  | .finite t => some t
  | .notFinite => none

def finiteStamps (packets : List PandarPacket) : List ℚ := packets.filterMap fun packet => packet.stamp.value

/-- A driver in front of a run: the guard is fresh, everything else may be left from earlier runs. -/
def Driver.beforeRun (d : Driver) : Driver :=
  { d with packetTimestampGuard := .fresh kTimestampRegressionToleranceSec, accepted := [] }

/-- The guard drops the packet as a regression. -/
def Driver.Regresses (s : Driver) (packet : PandarPacket) : Prop :=
  (s.packetTimestampGuard.observe packet.stamp).1.status = .kRegression

/-- The stamp lies more than the tolerance below the largest of the values. -/
def FallsBack (values : List ℚ) (stamp : Double) : Prop :=
  ∃ t M, stamp = .finite t ∧ IsGreatest {u | u ∈ values} M ∧ t < M - kTimestampRegressionToleranceSec

/-! ### The guard -/

section Guard

open TimestampGuard

variable {guard : TimestampGuard} {values : List ℚ} {t : ℚ}

/-- A value that is refused lies below the largest one, so the guard knows the largest of all values it has seen. -/
theorem TimestampGuard.Remembers.observe (remembers : guard.Remembers values) (nonneg : 0 ≤ guard.toleranceSec)
    (stamp : Double) : (guard.observe stamp).2.Remembers (values ++ stamp.value.toList) := by
  cases stamp with
  | notFinite =>
    show guard.Remembers (values ++ [])
    rwa [List.append_nil]
  | finite t =>
    cases accepts : (guard.observe (.finite t)).1.accepted with
    | true => exact remembers.accept accepts
    | false =>
      rw [observe_of_rejected accepts]
      rcases observe_cases guard t with first | ⟨later, late⟩ | ⟨later, near⟩
      · rw [accepted_iff.mpr (.inl first)] at accepts
        cases accepts
      · have nonempty := remembers.initialized.mp later
        have below : t ≤ guard.lastTimestamp := by linarith
        refine ⟨by simp [later, Double.value], fun _ => ⟨?_, ?_⟩⟩
        · exact List.mem_append_left _ (remembers.greatest nonempty).1
        · intro u member
          rcases List.mem_append.mp member with old | new
          · exact remembers.below old
          · obtain rfl := List.mem_singleton.mp new
            exact below
      · rw [accepted_iff.mpr (.inr near)] at accepts
        cases accepts

theorem TimestampGuard.Remembers.regression_iff (remembers : guard.Remembers values) :
    (guard.observe (.finite t)).1.status = .kRegression ↔
      ∃ M, IsGreatest {u | u ∈ values} M ∧ t < M - guard.toleranceSec := by
  rcases observe_cases guard t with first | ⟨later, late⟩ | ⟨later, near⟩
  · rw [observe_first first]
    refine ⟨nofun, fun ⟨M, greatest, _⟩ => ?_⟩
    rw [remembers.initialized.mpr (List.ne_nil_of_mem greatest.1)] at first
    cases first
  · rw [observe_late later late]
    exact ⟨fun _ => ⟨_, remembers.greatest (remembers.initialized.mp later), late⟩, fun _ => rfl⟩
  · rw [observe_near later near]
    refine ⟨nofun, fun ⟨M, greatest, below⟩ => ?_⟩
    obtain rfl := (remembers.greatest (remembers.initialized.mp later)).unique greatest
    exact absurd below (not_lt.mpr near)

end Guard

/-! ### What a stamp falls back from -/

variable {values others : List ℚ} {stamp : Double}

theorem exists_greatest {u : ℚ} (member : u ∈ values) : ∃ M, IsGreatest {u | u ∈ values} M := by
  have greatest := values.toFinset.isGreatest_max' ⟨u, List.mem_toFinset.mpr member⟩
  rw [List.coe_toFinset] at greatest
  exact ⟨_, greatest⟩

theorem fallsBack_iff :
    FallsBack values stamp ↔ ∃ t u, stamp = .finite t ∧ u ∈ values ∧ t < u - kTimestampRegressionToleranceSec := by
  constructor
  · rintro ⟨t, M, finite, greatest, below⟩
    exact ⟨t, M, finite, greatest.1, below⟩
  · rintro ⟨t, u, finite, member, below⟩
    obtain ⟨M, greatest⟩ := exists_greatest member
    have larger : u ≤ M := greatest.2 member
    exact ⟨t, M, finite, greatest, by linarith⟩

theorem FallsBack.mono (fallsBack : FallsBack values stamp) (sub : ∀ u ∈ values, u ∈ others) : FallsBack others stamp := by
  obtain ⟨t, u, finite, member, below⟩ := fallsBack_iff.mp fallsBack
  exact fallsBack_iff.mpr ⟨t, u, finite, sub u member, below⟩

/-- One list of values drops no stamp that another one lets pass exactly if none of its values is larger than
all of the other's. -/
theorem fallsBack_imp_iff :
    (∀ stamp, FallsBack others stamp → FallsBack values stamp) ↔ ∀ u ∈ others, ∃ v ∈ values, u ≤ v := by
  constructor
  · intro gives u member
    by_contra larger
    push Not at larger
    -- The largest of the values, less the tolerance, falls back from `u` alone.
    have nonempty : ∃ v, v ∈ values := by
      obtain ⟨-, v, -, member, -⟩ := fallsBack_iff.mp (gives (.finite (u - kTimestampRegressionToleranceSec - 1))
        (fallsBack_iff.mpr ⟨_, u, rfl, member, by linarith⟩))
      exact ⟨v, member⟩
    obtain ⟨v, known⟩ := nonempty
    obtain ⟨M, greatest⟩ := exists_greatest known
    have largest := larger M greatest.1
    obtain ⟨t, w, same, old, below⟩ := fallsBack_iff.mp (gives (.finite (M - kTimestampRegressionToleranceSec))
      (fallsBack_iff.mpr ⟨_, u, rfl, member, by linarith⟩))
    obtain rfl := Double.finite.inj same
    have under : w ≤ M := greatest.2 old
    linarith
  · intro cofinal stamp fallsBack
    obtain ⟨t, u, finite, member, below⟩ := fallsBack_iff.mp fallsBack
    obtain ⟨v, known, larger⟩ := cofinal u member
    exact fallsBack_iff.mpr ⟨t, v, finite, known, by linarith⟩

/-! ### The run -/

variable {cfg : Config} {d s t : Driver} {packet : PandarPacket} {packets : List PandarPacket}

theorem finiteStamps_concat (packets : List PandarPacket) (packet : PandarPacket) :
    finiteStamps (packets ++ [packet]) = finiteStamps packets ++ packet.stamp.value.toList := by
  cases same : packet.stamp.value <;> simp [finiteStamps, same]

/-- The guard knows the largest stamp of the packets popped so far, those that were accepted among them. -/
structure Compares (popped : List PandarPacket) (s : Driver) : Prop where
  toleranceSec : s.packetTimestampGuard.toleranceSec = kTimestampRegressionToleranceSec
  remembers : s.packetTimestampGuard.Remembers (finiteStamps popped)
  accepted : ∀ a ∈ s.accepted, a.stamp ∈ finiteStamps popped

theorem beforeRun_compares (d : Driver) : Compares [] d.beforeRun where
  toleranceSec := rfl
  remembers := TimestampGuard.remembers_of_uninitialized rfl
  accepted := nofun

theorem Compares.step (compares : Compares packets s) (h : s.processPacket cfg packet = .ok t) :
    Compares (packets ++ [packet]) t := by
  have nonneg : 0 ≤ s.packetTimestampGuard.toleranceSec := by
    rw [compares.toleranceSec]
    norm_num [kTimestampRegressionToleranceSec]
  refine ⟨?_, ?_, fun a member => ?_⟩
  · rw [processPacket_toleranceSec h, compares.toleranceSec]
  · rw [processPacket_guard h, finiteStamps_concat]
    exact compares.remembers.observe nonneg packet.stamp
  · rw [finiteStamps_concat]
    rcases processPacket_accepted h with same | ⟨b, grown, stamp⟩
    · rw [same] at member
      exact List.mem_append_left _ (compares.accepted a member)
    · rw [grown] at member
      rcases List.mem_append.mp member with old | new
      · exact List.mem_append_left _ (compares.accepted a old)
      · obtain rfl := List.mem_singleton.mp new
        rw [stamp]
        exact List.mem_append_right _ (List.mem_singleton_self _)

theorem compares_of_run (run : processLiarPacket cfg d.beforeRun packets = .ok s) : Compares packets s := by
  obtain ⟨m, started, popped⟩ := Except.bind_ok run
  obtain ⟨tf, -, rfl⟩ := withTransforms_ok started
  have start : Compares [] { d.beforeRun with transforms := tf } :=
    ⟨(beforeRun_compares d).toleranceSec, (beforeRun_compares d).remembers, (beforeRun_compares d).accepted⟩
  exact (Runs.run_of_foldlM_ok popped).invariant_of_history (fun compares step => compares.step step) [] start

theorem Compares.regresses_iff (compares : Compares packets s) (packet : PandarPacket) :
    s.Regresses packet ↔ FallsBack (finiteStamps packets) packet.stamp := by
  unfold Driver.Regresses FallsBack
  cases packet.stamp with
  | notFinite => simp [TimestampGuard.observe]
  | finite t =>
    rw [compares.remembers.regression_iff, compares.toleranceSec]
    simp

theorem Driver.Regresses.dropped (regresses : s.Regresses packet) :
    s.processPacket cfg packet =
      .ok { s.guarded packet with packetTimestampRegressions := s.packetTimestampRegressions + 1 } := by
  refine processPacket_rejected ?_
  unfold TimestampDecision.accepted
  rw [show (s.packetTimestampGuard.observe packet.stamp).1.status = .kRegression from regresses]
  rfl

theorem Compares.agrees_iff (compares : Compares packets s) :
    (∀ packet, s.Regresses packet ↔ FallsBack (s.accepted.map AcceptedPacket.stamp) packet.stamp) ↔
      ∀ u ∈ finiteStamps packets, ∃ a ∈ s.accepted, u ≤ a.stamp := by
  have known : ∀ u ∈ s.accepted.map AcceptedPacket.stamp, u ∈ finiteStamps packets := by
    intro u member
    obtain ⟨a, accepted, rfl⟩ := List.mem_map.mp member
    exact compares.accepted a accepted
  have carried : (∀ u ∈ finiteStamps packets, ∃ a ∈ s.accepted, u ≤ a.stamp) ↔
      ∀ u ∈ finiteStamps packets, ∃ v ∈ s.accepted.map AcceptedPacket.stamp, u ≤ v := by
    simp only [List.mem_map, exists_exists_and_eq_and]
  rw [carried, ← fallsBack_imp_iff]
  constructor
  · intro agrees stamp fallsBack
    exact (agrees ⟨stamp, fun _ => 0, 0⟩).mp ((compares.regresses_iff _).mpr fallsBack)
  · intro gives packet
    rw [compares.regresses_iff]
    exact ⟨gives packet.stamp, fun fallsBack => fallsBack.mono known⟩

theorem Compares.raises_iff (compares : Compares packets s) (h : s.processPacket cfg packet = .ok t) :
    (∃ later, t.Regresses later ∧ ¬ s.Regresses later) ↔
      ∃ u, packet.stamp = .finite u ∧ ∀ v ∈ finiteStamps packets, v < u := by
  have next := compares.step h
  have raised : (∃ later, t.Regresses later ∧ ¬ s.Regresses later) ↔
      ¬ ∀ stamp, FallsBack (finiteStamps (packets ++ [packet])) stamp → FallsBack (finiteStamps packets) stamp := by
    push Not
    constructor
    · rintro ⟨later, regresses, passes⟩
      rw [next.regresses_iff] at regresses
      rw [compares.regresses_iff] at passes
      exact ⟨later.stamp, regresses, passes⟩
    · rintro ⟨stamp, regresses, passes⟩
      refine ⟨⟨stamp, fun _ => 0, 0⟩, ?_, ?_⟩
      · rwa [next.regresses_iff]
      · rwa [compares.regresses_iff]
  rw [raised, fallsBack_imp_iff, finiteStamps_concat]
  cases packet.stamp with
  | notFinite =>
    refine ⟨fun larger => absurd (fun u member => ?_) larger, nofun⟩
    exact ⟨u, by simpa [Double.value] using member, le_rfl⟩
  | finite u =>
    constructor
    · intro larger
      refine ⟨u, rfl, fun v member => ?_⟩
      by_contra covered
      refine larger fun w member' => ?_
      rcases List.mem_append.mp member' with old | new
      · exact ⟨w, old, le_rfl⟩
      · obtain rfl := List.mem_singleton.mp new
        exact ⟨v, member, not_lt.mp covered⟩
    · rintro ⟨_, ⟨⟩, largest⟩ covered
      obtain ⟨v, known, larger⟩ := covered u (List.mem_append_right _ (List.mem_singleton_self _))
      exact absurd (largest v known) (not_lt.mpr larger)

/-! ### Results -/

/-- In every run the guard compares with the largest finite stamp of all earlier packets. -/
theorem guard_compares_with_every_packet (cfg : Config) (d : Driver) (packets : List PandarPacket) (s : Driver)
    (run : processLiarPacket cfg d.beforeRun packets = .ok s) :
    (∀ packet, s.Regresses packet ↔ FallsBack (finiteStamps packets) packet.stamp) ∧
    (∀ packet, s.Regresses packet → s.processPacket cfg packet =
      .ok { s.guarded packet with packetTimestampRegressions := s.packetTimestampRegressions + 1 }) ∧
    (∀ packet t, s.processPacket cfg packet = .ok t →
      ((∃ later, t.Regresses later ∧ ¬ s.Regresses later) ↔
        ∃ u, packet.stamp = .finite u ∧ ∀ v ∈ finiteStamps packets, v < u)) ∧
    ((∀ packet, s.Regresses packet ↔ FallsBack (s.accepted.map AcceptedPacket.stamp) packet.stamp) ↔
      ∀ u ∈ finiteStamps packets, ∃ a ∈ s.accepted, u ≤ a.stamp) := by
  have compares := compares_of_run run
  exact ⟨compares.regresses_iff, fun _ => Driver.Regresses.dropped, fun _ _ => compares.raises_iff, compares.agrees_iff⟩

/-- A datagram of one byte with a stamp of its own. -/
def shortPacket (stamp : ℚ) : PandarPacket := ⟨.finite stamp, fun _ => 0, 1⟩

/-- The short packet raises the mark for the sensor's own packets. -/
theorem guard_compares_with_every_packet_short :
    ∃ s, processLiarPacket (.plain .pandarXT16 1 0) (Driver.start "" fun _ => ⟨0, 0, 0, 0, 0, 0⟩).beforeRun
        [xt16Packet 0 0 fun _ => 100, shortPacket 10] = .ok s ∧
      s.Regresses (xt16Packet (1 / 10) 1 fun _ => 120) := by
  have passed : (processLiarPacket (.plain .pandarXT16 1 0) (Driver.start "" fun _ => ⟨0, 0, 0, 0, 0, 0⟩).beforeRun
      [xt16Packet 0 0 fun _ => 100, shortPacket 10]).toOption.map (fun s => s.accepted.length) = some 1 := by
    decide +kernel
  obtain ⟨s, run, -⟩ := Except.ok_of_map passed
  refine ⟨s, run, ((guard_compares_with_every_packet _ _ _ s run).1 _).mpr ?_⟩
  exact fallsBack_iff.mpr ⟨1 / 10, 10, rfl, by simp [finiteStamps, xt16Packet, shortPacket, Double.value],
    by norm_num [kTimestampRegressionToleranceSec]⟩

/-- Although only the first packet was accepted, with a stamp below that of the third, the third is dropped. -/
theorem short_packet_drops_its_successor :
    ∃ s, processLiarPacket (.plain .pandarXT16 1 0) (Driver.start "" fun _ => ⟨0, 0, 0, 0, 0, 0⟩).beforeRun
        [xt16Packet 0 0 fun _ => 100, shortPacket 10] = .ok s ∧
      s.accepted.map AcceptedPacket.stamp = [0] ∧ s.Regresses (xt16Packet (1 / 10) 1 fun _ => 120) ∧
      ¬ FallsBack (s.accepted.map AcceptedPacket.stamp) (xt16Packet (1 / 10) 1 fun _ => 120).stamp := by
  have passed : (processLiarPacket (.plain .pandarXT16 1 0) (Driver.start "" fun _ => ⟨0, 0, 0, 0, 0, 0⟩).beforeRun
      [xt16Packet 0 0 fun _ => 100, shortPacket 10]).toOption.map (fun s => (s.accepted.map AcceptedPacket.stamp,
        (s.packetTimestampGuard.observe (.finite (1 / 10))).1.status)) = some ([0], .kRegression) := by
    decide +kernel
  obtain ⟨s, run, seen⟩ := Except.ok_of_map passed
  obtain ⟨accepted, status⟩ := Prod.mk.inj seen
  refine ⟨s, run, accepted, status, fun fallsBack => ?_⟩
  obtain ⟨t, u, finite, member, below⟩ := fallsBack_iff.mp fallsBack
  obtain rfl : 1 / 10 = t := Double.finite.inj finite
  rw [accepted] at member
  obtain rfl := List.mem_singleton.mp member
  norm_num [kTimestampRegressionToleranceSec] at below

end HesaiLidar
