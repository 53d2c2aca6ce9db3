import HesaiLidar.Driver.Replay
import HesaiLidar.Driver.ScanReplay
import HesaiLidar.Frame.PointRelations

/-!
# Replaying a recording

A recording holds the scans of the published frames. Replayed to a freshly constructed driver on the XT path, it
gives these frames again, their receive times cut to whole nanoseconds.
-/

namespace HesaiLidar

open Lockstep

/-! ### An XT packet is its bytes -/

namespace XtFormat

variable {mktime : Mktime} {bytes bytes' : Nat → UInt8} {len offset width : Nat}

end XtFormat

variable {cfg : Config} {s t : Driver} {f g : Frame} {a : AcceptedPacket} {as : List AcceptedPacket}
variable {packet : PandarPacket} {stamp : ℚ}

/-! ### What a replay does to times -/

/-- Receive times are cut to whole nanoseconds, LiDAR times stay. -/
def replayedTime (cfg : Config) (time : ℚ) : ℚ := if cfg.realtime then Ticks.down 1000000000 time else time

def replayedPoint (cfg : Config) (p : PPoint) : PPoint := { p with timestamp := replayedTime cfg p.timestamp }

def Callback.replayed (cfg : Config) (c : Callback) : Callback :=
  ⟨{ c.cloud with points := c.cloud.points.map (replayedPoint cfg) }, replayedTime cfg c.timestamp, c.scan⟩

def AcceptedPacket.replayed (a : AcceptedPacket) : AcceptedPacket := { a with stamp := Ticks.down 1000000000 a.stamp }

/-- A packet that the processing loop takes for a recorded one. -/
structure Replays (cfg : Config) (replayed : PandarPacket) (a : AcceptedPacket) : Prop where
  stamp : replayed.stamp = .finite a.replayed.stamp
  format : a.format = .xt
  admitted : Admitted cfg replayed a.replayed.stamp a.replayed

theorem Replays.shows {replayed : PandarPacket} (replays : Replays cfg replayed a) :
    Shows cfg replayed a.replayed.xtPacket where
  stamp := replays.stamp
  dispatched := by
    rw [← replays.format]
    exact replays.admitted.format
  parsed := by
    have parsed := replays.admitted.parsed
    rw [show a.replayed.format = a.format from rfl, replays.format] at parsed
    exact ⟨_, parsed, rfl⟩

theorem Admitted.unique {b : AcceptedPacket} (admitted : Admitted cfg packet stamp a) (again : Admitted cfg packet stamp b) :
    a = b := by
  obtain ⟨format, parsed, raw, stamped⟩ := a
  obtain ⟨format', parsed', raw', stamped'⟩ := b
  obtain rfl := Option.some.inj (admitted.format.symm.trans again.format)
  obtain rfl := Option.some.inj (Except.ok.inj (admitted.parsed.symm.trans again.parsed))
  obtain rfl := Except.ok.inj (admitted.raw.symm.trans again.raw)
  obtain rfl := admitted.stamp.trans again.stamp.symm
  rfl

/-- A replayed packet that both checks let pass moves the frame as the recorded packet did, at the cut stamp. -/
theorem Replays.processPacket {replayed : PandarPacket} (replays : Replays cfg replayed a) (noTf : s.NoTf cfg)
    (observed : (s.defenses.observe a.replayed.xtPacket).1 = true)
    (framed : s.frame.processPacket cfg a.replayed = .ok g) :
    ∃ t, s.processPacket cfg replayed = .ok t ∧ t.frame = g ∧ t.accepted = s.accepted ++ [a.replayed] ∧ t.NoTf cfg := by
  cases result : s.processPacket cfg replayed with
  | ok t =>
    obtain ⟨-, history⟩ := processPacket_shown replays.shows result
    rw [if_pos observed] at history
    rcases processPacket_ok result with ⟨-, rfl⟩ | ⟨stamp, finite, -, dropped | ⟨m, b, kept, blocks⟩⟩
    · simp [Driver.guarded] at history
    · rw [(accept_ok dropped).2.1] at history
      simp [Driver.guarded] at history
    · obtain ⟨frame, accepted, -, stamped, keeps, known⟩ := accept_ok kept
      obtain rfl := Double.finite.inj (finite.symm.trans replays.stamp)
      obtain rfl := (known b rfl).unique replays.admitted
      obtain ⟨f, moved, rfl⟩ := processBlocks_noTf_ok (keeps noTf) (stamped.trans rfl) blocks
      rw [frame] at moved
      obtain rfl := Except.ok.inj (framed.symm.trans moved)
      refine ⟨_, rfl, rfl, ?_, keeps noTf⟩
      dsimp only
      rw [accepted]
      rfl
  | error stop =>
    obtain ⟨stamp, finite, early | ⟨m, b, kept, blocks⟩⟩ := processPacket_stopped result
    · have ways := accept_cases cfg (s.guarded replayed) replayed stamp
      rw [early] at ways
      cases ways with
      | tooLarge large =>
        have copied := replays.admitted.raw
        unfold rawPacket at copied
        rw [if_neg (Nat.not_le.mpr large)] at copied
        cases copied
      | lookup _ failed =>
        rw [computeTransformToFixed_noTf (s := s.guarded replayed) noTf] at failed
        cases failed
      | parser dispatched faulty =>
        obtain rfl := Option.some.inj (dispatched.symm.trans replays.admitted.format)
        cases faulty.symm.trans replays.admitted.parsed
    · obtain ⟨frame, -, -, stamped, keeps, known⟩ := accept_ok kept
      obtain rfl := Double.finite.inj (finite.symm.trans replays.stamp)
      obtain rfl := (known b rfl).unique replays.admitted
      obtain ⟨fault, failed, -⟩ := processBlocks_noTf_error (keeps noTf) (stamped.trans rfl) blocks
      rw [frame] at failed
      cases framed.symm.trans failed

/-- The guard passed the stamps of the accepted packets, which so keep within its tolerance. -/
structure GuardKeeps (s : Driver) (passed : List ℚ) : Prop where
  tracks : s.packetTimestampGuard.Tracks kTimestampRegressionToleranceSec passed
  accepted : (s.accepted.map AcceptedPacket.stamp).Sublist passed

theorem GuardKeeps.step {passed : List ℚ} (keeps : GuardKeeps s passed) (h : s.processPacket cfg packet = .ok t) :
    ∃ passed, GuardKeeps t passed := by
  have guard := processPacket_guard h
  rcases processPacket_ok h with ⟨rejected, rfl⟩ | ⟨stamp, finite, passes, dropped | ⟨m, a, kept, blocks⟩⟩
  · rw [TimestampGuard.observe_of_rejected rejected] at guard
    exact ⟨passed, guard ▸ keeps.tracks, keeps.accepted⟩
  · have tracks := keeps.tracks.handle (.observe (.finite stamp))
    rw [TimestampGuard.acceptedAfter, if_pos passes] at tracks
    refine ⟨passed ++ [stamp], ?_, ?_⟩
    · rw [guard, finite]
      exact tracks
    · rw [(accept_ok dropped).2.1]
      exact keeps.accepted.trans (List.sublist_append_left ..)
  · have tracks := keeps.tracks.handle (.observe (.finite stamp))
    rw [TimestampGuard.acceptedAfter, if_pos passes] at tracks
    obtain ⟨-, accepted, -, -, -, known⟩ := accept_ok kept
    refine ⟨passed ++ [stamp], ?_, ?_⟩
    · rw [guard, finite]
      exact tracks
    · rw [processBlocks_ok blocks, ← (known a rfl).stamp]
      dsimp only
      rw [accepted, List.map_append]
      exact keeps.accepted.append (.refl _)

end HesaiLidar
