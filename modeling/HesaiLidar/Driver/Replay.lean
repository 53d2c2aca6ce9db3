import HesaiLidar.Defenses.Replay
import HesaiLidar.Driver.Ingest
import HesaiLidar.Driver.Rejection
import HesaiLidar.Library.Ticks

/-!
# Recording and replay

A recording stores the raw messages of the accepted packets, their stamps cut to whole nanoseconds, and a
replay hands them to a fresh driver. Both checks compare stamps with whole nanoseconds, but the tracker's idle
clock also runs on packets it drops, which a recording does not hold.
-/

namespace HesaiLidar

/-- What the checks see of a recorded packet when it is replayed. -/
def XtPacket.replayed (p : XtPacket) : XtPacket := { p with stamp := Ticks.down 1000000000 p.stamp }

variable {cfg : Config} {s t : Driver} {packet : PandarPacket} {stamp : ℚ} {p : XtPacket} {ps : List XtPacket}

/-! ### The message in between -/

def Driver.defenses (s : Driver) : PacketDefenses := ⟨s.packetTimestampGuard, s.xtSequenceTracker⟩

def AcceptedPacket.xtPacket (a : AcceptedPacket) : XtPacket := ⟨a.stamp, a.packet.udpSequence⟩

structure Shows (cfg : Config) (packet : PandarPacket) (p : XtPacket) : Prop where
  stamp : packet.stamp = .finite p.stamp
  dispatched : dispatch cfg.lidarType packet.size = some .xt
  parsed : ∃ parsed, parse cfg .xt ⟨packet.data, ethernetMtu⟩ packet.size = .ok (some parsed) ∧
    parsed.udpSequence = p.sequence

theorem accept_shown {result : Option AcceptedPacket} (shows' : Shows cfg packet p)
    (h : s.accept cfg p.stamp packet = .ok (t, result)) :
    t.xtSequenceTracker = (s.xtSequenceTracker.observe (p.sequence, .finite p.stamp)).2 ∧
      result.map AcceptedPacket.xtPacket =
        if (s.xtSequenceTracker.observe (p.sequence, .finite p.stamp)).1.accepted then some p else none := by
  obtain ⟨parsed, outcome, sequence⟩ := shows'.parsed
  have xt {format : Format} (dispatched : dispatch cfg.lidarType packet.size = some format) : format = .xt :=
    Option.some.inj (dispatched.symm.trans shows'.dispatched)
  have content {content : LidarPacket} (read : parse cfg .xt ⟨packet.data, ethernetMtu⟩ packet.size = .ok (some content)) :
      content = parsed := Option.some.inj (Except.ok.inj (read.symm.trans outcome))
  have checked (tf : Transforms) :
      ((s.fixed p.stamp tf).checkSequence p.sequence (.finite p.stamp)).1 =
        (s.xtSequenceTracker.observe (p.sequence, .finite p.stamp)).1.accepted ∧
      ((s.fixed p.stamp tf).checkSequence p.sequence (.finite p.stamp)).2.xtSequenceTracker =
        (s.xtSequenceTracker.observe (p.sequence, .finite p.stamp)).2 :=
    checkSequence_accepted (s := s.fixed p.stamp tf) p.sequence (.finite p.stamp)
  have ways := accept_cases cfg s packet p.stamp
  rw [h] at ways
  cases ways with
  | unsupported dispatched => cases dispatched.symm.trans shows'.dispatched
  | malformed dispatched _ read =>
    obtain rfl := xt dispatched
    cases read.symm.trans outcome
  | @outOfSequence tf _ _ _ read rejected =>
    obtain rfl := content read
    rw [sequence, shows'.stamp] at rejected ⊢
    rw [← (checked tf).1, rejected]
    exact ⟨(checked tf).2, rfl⟩
  | @inSequence tf accepted admitted _ format kept =>
    have read := admitted.parsed
    rw [format] at read
    obtain rfl := content read
    rw [sequence, shows'.stamp] at kept ⊢
    rw [← (checked tf).1, kept, if_pos rfl, Option.map_some, AcceptedPacket.xtPacket, sequence, admitted.stamp]
    exact ⟨(checked tf).2, rfl⟩
  | unchecked admitted _ other => exact absurd (xt admitted.format) other

theorem processPacket_shown (shows' : Shows cfg packet p) (h : s.processPacket cfg packet = .ok t) :
    t.defenses = (s.defenses.observe p).2 ∧
      t.accepted.map AcceptedPacket.xtPacket =
        s.accepted.map AcceptedPacket.xtPacket ++ if (s.defenses.observe p).1 then [p] else [] := by
  rcases processPacket_ok h with ⟨rejected, rfl⟩ | ⟨stamp, finite, passes, admitted⟩
  · rw [shows'.stamp] at rejected
    rw [PacketDefenses.observe_rejected (d := s.defenses) rejected]
    refine ⟨?_, (List.append_nil _).symm⟩
    unfold Driver.defenses Driver.guarded
    rw [shows'.stamp, TimestampGuard.observe_of_rejected rejected]
  · obtain rfl : p.stamp = stamp := Double.finite.inj (shows'.stamp.symm.trans finite)
    rw [PacketDefenses.observe_passed (d := s.defenses) passes]
    have guard : (s.guarded packet).packetTimestampGuard = (s.packetTimestampGuard.observe (.finite p.stamp)).2 := by
      unfold Driver.guarded
      rw [finite]
    have decided {n : Driver} {result : Option AcceptedPacket}
        (h : (s.guarded packet).accept cfg p.stamp packet = .ok (n, result)) :
        n.xtSequenceTracker = (s.defenses.xtSequenceTracker.observe (p.sequence, .finite p.stamp)).2 ∧
          result.map AcceptedPacket.xtPacket =
            if (s.defenses.xtSequenceTracker.observe (p.sequence, .finite p.stamp)).1.accepted then some p else none := by
      have shown := accept_shown shows' h
      exact shown
    dsimp only
    rcases admitted with dropped | ⟨m, a, kept, blocks⟩
    · obtain ⟨-, history, same, -⟩ := accept_ok dropped
      obtain ⟨tracker, result⟩ := decided dropped
      split at result
      · cases result
      · rename_i rejected
        rw [if_neg rejected, List.append_nil, history]
        refine ⟨?_, rfl⟩
        unfold Driver.defenses
        rw [same, guard, tracker]
        rfl
    · obtain ⟨-, history, same, -⟩ := accept_ok kept
      obtain ⟨tracker, result⟩ := decided kept
      split at result
      · rename_i accepted
        rw [processBlocks_ok blocks, if_pos accepted]
        dsimp only
        rw [history, List.map_append, List.map_singleton, Option.some.inj result]
        refine ⟨?_, rfl⟩
        unfold Driver.defenses
        dsimp only
        rw [same, guard, tracker]
        rfl
      · cases result

theorem accepted_eq_record {packets : List PandarPacket} (shown : List.Forall₂ (Shows cfg) packets ps)
    (h : packets.foldlM (Driver.processPacket cfg) s = .ok t) :
    t.accepted.map AcceptedPacket.xtPacket = s.accepted.map AcceptedPacket.xtPacket ++ s.defenses.record ps := by
  induction shown generalizing s with
  | nil =>
    obtain rfl := Except.ok.inj h
    exact (List.append_nil _).symm
  | cons first _ ih =>
    rw [List.foldlM_cons] at h
    obtain ⟨m, step, rest⟩ := Except.bind_ok h
    obtain ⟨defenses, history⟩ := processPacket_shown first step
    rw [ih rest, history, defenses, PacketDefenses.record]
    split
    · rw [List.append_assoc]
      rfl
    · rw [List.append_nil]

/-! ### Recording and replaying -/

/-- Recorded stamps still keep within the tolerance when they are cut to nanoseconds. -/
theorem keeps_replayed (keeps : Tolerance.Keeps kTimestampRegressionToleranceSec (ps.map XtPacket.stamp)) :
    Tolerance.Keeps kTimestampRegressionToleranceSec ((ps.map XtPacket.replayed).map XtPacket.stamp) := by
  unfold Tolerance.Keeps at keeps ⊢
  rw [List.pairwise_map] at keeps
  rw [List.pairwise_map, List.pairwise_map]
  apply keeps.imp
  intro earlier later near
  have shifted := Ticks.down_shift (x := earlier.stamp) (y := later.stamp) (show 0 < 1000000000 by decide) (-100000000)
  unfold kTimestampRegressionToleranceSec at near ⊢
  unfold XtPacket.replayed
  push_cast at shifted
  linarith [shifted (by linarith)]

theorem follows_replayed {q : XtPacket} (follows : PacketDefenses.Follows q p) :
    PacketDefenses.Follows q.replayed p.replayed := by
  refine follows.imp id ?_
  intro idle
  have shifted := Ticks.down_shift (x := q.stamp) (y := p.stamp) (show 0 < 1000000000 by decide) 2000000000
  unfold kXtSequenceRestartIdleSec at idle ⊢
  unfold XtPacket.replayed
  push_cast at shifted
  linarith [shifted (by linarith)]

/-- A replay accepts a whole record exactly when each recorded packet follows the one before it, which it does
whenever no packet the sequence check dropped was stamped before the packet accepted last. -/
theorem replay_accepts (xs : List XtPacket) :
    let recorded := (PacketDefenses.fresh.record xs).map XtPacket.replayed
    (PacketDefenses.fresh.record recorded = recorded ↔ recorded.IsChain PacketDefenses.Follows) ∧
    (PacketDefenses.DropsInOrder .fresh none xs → PacketDefenses.fresh.record recorded = recorded) := by
  intro recorded
  have keeps := PacketDefenses.record_keeps (TimestampGuard.tracks_fresh kTimestampRegressionToleranceSec) xs
    (d := .fresh)
  have exact' := PacketDefenses.fresh_record_eq_iff (keeps_replayed keeps)
  refine ⟨exact', fun inOrder => exact'.mpr ?_⟩
  rw [List.isChain_map]
  exact (PacketDefenses.fresh_record_chain inOrder).imp fun _ _ => follows_replayed

/-- A duplicate stamped 0.05 s early, then a restart 2.01 s later: the replay misses the restart. -/
theorem restart_behind_early_duplicate :
    let recorded := (PacketDefenses.fresh.record [⟨10, 100⟩, ⟨995 / 100, 100⟩, ⟨1196 / 100, 5⟩]).map XtPacket.replayed
    recorded = [⟨10, 100⟩, ⟨1196 / 100, 5⟩] ∧ PacketDefenses.fresh.record recorded ≠ recorded := by
  decide +kernel

end HesaiLidar
