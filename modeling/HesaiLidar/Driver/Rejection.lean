import HesaiLidar.Driver.TwoRuns

/-!
# Rejected packets

A packet that is dropped on its way to the blocks leaves the frame under construction as it is, and a packet
the timestamp guard drops leaves no trace at all but in two counters: every continuation goes on as if the
packet had not been popped.
-/

namespace HesaiLidar

open Lockstep

/-- The places where the loop gives up a packet. -/
inductive Dropped (cfg : Config) (s : Driver) (packet : PandarPacket) : Prop where
  | timestamp (rejected : (s.packetTimestampGuard.observe packet.stamp).1.accepted = false)
  | size (unsupported : dispatch cfg.lidarType packet.size = none)
  | layout {format : Format} (dispatched : dispatch cfg.lidarType packet.size = some format)
      (malformed : parse cfg format ⟨packet.data, ethernetMtu⟩ packet.size = .ok none)
  | sequence {parsed : LidarPacket} (dispatched : dispatch cfg.lidarType packet.size = some .xt)
      (wellFormed : parse cfg .xt ⟨packet.data, ethernetMtu⟩ packet.size = .ok (some parsed))
      (rejected : (s.xtSequenceTracker.observe (parsed.udpSequence, packet.stamp)).1.accepted = false)

structure Untouched (s t : Driver) : Prop where
  frame : t.frame = s.frame
  accepted : t.accepted = s.accepted

/-- A failing transform lookup may end the thread in front of the parser, and a packet larger than its array
is not copied. -/
def StopsUntouched (s : Driver) (packet : PandarPacket) : Stop Driver → Prop
  | .returned t => Untouched s t
  | .uncaught t => Untouched s t
  | .undefined _ => ethernetMtu < packet.size

variable {cfg : Config} {s : Driver} {packet : PandarPacket} {stamp : ℚ}

theorem lookup_stops {m : Driver} {tf : Transforms} {stop : Stop Driver} (untouched : Untouched s m)
    (h : m.withTransforms (computeTransformToFixed cfg tf) = .error stop) : StopsUntouched s packet stop := by
  unfold computeTransformToFixed at h
  split at h
  · cases h
  · split at h
    · cases h
    · obtain rfl := Except.error.inj h
      exact ⟨untouched.frame, untouched.accepted⟩
    · obtain rfl := Except.error.inj h
      exact ⟨untouched.frame, untouched.accepted⟩

/-- A dropped packet of a supported size is malformed, or an XT packet out of sequence. -/
theorem Dropped.parsed (dropped : Dropped cfg s packet)
    (passed : (s.packetTimestampGuard.observe packet.stamp).1.accepted = true) {format : Format}
    (dispatched : dispatch cfg.lidarType packet.size = some format) :
    parse cfg format ⟨packet.data, ethernetMtu⟩ packet.size = .ok none ∨
      format = .xt ∧ ∃ content, parse cfg format ⟨packet.data, ethernetMtu⟩ packet.size = .ok (some content) ∧
        (s.xtSequenceTracker.observe (content.udpSequence, packet.stamp)).1.accepted = false := by
  cases dropped with
  | timestamp rejected => cases rejected.symm.trans passed
  | size unsupported => cases unsupported.symm.trans dispatched
  | layout known malformed =>
    obtain rfl := Option.some.inj (known.symm.trans dispatched)
    exact .inl malformed
  | @sequence content known wellFormed rejected =>
    obtain rfl := Option.some.inj (known.symm.trans dispatched)
    exact .inr ⟨rfl, content, wellFormed, rejected⟩

variable (stamp) in
theorem accept_dropped (dropped : Dropped cfg s packet)
    (passed : (s.packetTimestampGuard.observe packet.stamp).1.accepted = true) :
    Runs.Outcome (fun result => Untouched s result.1 ∧ result.2 = none) (StopsUntouched s packet)
      ((s.guarded packet).accept cfg stamp packet) := by
  have ways := accept_cases cfg (s.guarded packet) packet stamp
  generalize (s.guarded packet).accept cfg stamp packet = outcome at ways
  cases ways with
  | tooLarge large => exact large
  | unsupported => exact ⟨⟨rfl, rfl⟩, rfl⟩
  | lookup _ failed =>
    refine lookup_stops ?_ failed
    exact ⟨rfl, rfl⟩
  | parser dispatched faulty =>
    rcases dropped.parsed passed dispatched with malformed | ⟨-, content, wellFormed, -⟩
    · cases faulty.symm.trans malformed
    · cases faulty.symm.trans wellFormed
  | malformed => exact ⟨⟨rfl, rfl⟩, rfl⟩
  | @outOfSequence tf content =>
    obtain ⟨frame, accepted, -⟩ := checkSequence_keeps
      (s := (s.guarded packet).fixed stamp tf) content.udpSequence packet.stamp
    exact ⟨⟨frame, accepted⟩, rfl⟩
  | @inSequence tf accepted admitted _ xt kept =>
    rcases dropped.parsed passed admitted.format with malformed | ⟨-, content, wellFormed, rejected⟩
    · cases admitted.parsed.symm.trans malformed
    · obtain rfl := Option.some.inj (Except.ok.inj (admitted.parsed.symm.trans wellFormed))
      have decided := (checkSequence_accepted (s := (s.guarded packet).fixed stamp tf)
        accepted.packet.udpSequence packet.stamp).1
      cases (decided.trans rejected).symm.trans kept
  | unchecked admitted _ other =>
    rcases dropped.parsed passed admitted.format with malformed | ⟨xt, -⟩
    · cases admitted.parsed.symm.trans malformed
    · exact absurd xt other

theorem processPacket_dropped (dropped : Dropped cfg s packet) :
    Runs.Outcome (Untouched s) (StopsUntouched s packet) (s.processPacket cfg packet) := by
  refine processPacket_outcome ⟨rfl, rfl⟩ (fun stamp passed => accept_dropped stamp dropped passed) ?_
  rintro stamp ⟨m, _⟩ - - - ⟨untouched, rfl⟩
  exact untouched

/-! ### Deleting a packet the guard drops -/

theorem eq_lockstep (cfg : Config) : FrameLockstep cfg cfg (fun _ _ _ => True) (fun _ => False) Eq where
  append _ same := by rw [same]
  label same := by rw [same]
  cuts same _ := by rw [same]
  cut same _ _ := by rw [same]
  points ctx _ same _ := by
    rw [same]
    rcases calcBlock cfg ctx _ _ _ with fault | g
    · exact .error rfl
    · exact .ok rfl
  finish _ _ same := by rw [same]

/-- A dropped packet touches neither the frame nor its clouds and scans, and a packet the timestamp guard
drops can be deleted: every continuation accepts the same packets and ends in the same frame. -/
theorem rejected_untouched (cfg : Config) (s : Driver) (packet : PandarPacket) (dropped : Dropped cfg s packet) :
    Runs.Outcome (Untouched s) (StopsUntouched s packet) (s.processPacket cfg packet) ∧
    ((s.packetTimestampGuard.observe packet.stamp).1.accepted = false → ∀ later,
      Agree (Alike cfg [] Eq) (AlikeStop cfg [] Eq) (StopExcused fun _ => False)
        (later.foldlM (Driver.processPacket cfg) s) ((packet :: later).foldlM (Driver.processPacket cfg) s)) := by
  refine ⟨processPacket_dropped dropped, fun rejected later => ?_⟩
  have start : Alike cfg [] Eq s { s.guarded packet with packetTimestampRegressions := s.packetTimestampRegressions + 1 } :=
    { guard := TimestampGuard.observe_of_rejected rejected
      tracker := rfl
      transforms := .inl rfl
      frame := rfl
      accepted := rfl }
  have everywhere (m : Driver) (packet : PandarPacket) : AtBlocks cfg (fun _ _ _ => True) m packet :=
    fun _ _ _ _ _ _ => Runs.allSteps_of_forall fun _ _ => trivial
  rw [List.foldlM_cons, processPacket_rejected rejected, Except.ok_bind]
  exact foldlM_agree (processPacket_agree cfg.pclType (eq_lockstep cfg)) start (Runs.allSteps_of_forall everywhere)

/-- A packet without a finite stamp in front of any others. -/
theorem rejected_untouched_notFinite :
    let cfg := Config.plain .pandarXT16 0 0
    let s := Driver.start "" fun _ => ⟨0, 0, 0, 0, 0, 0⟩
    let packet : PandarPacket := ⟨.notFinite, fun _ => 0, XT.xt16PacketSize⟩
    Dropped cfg s packet ∧ Runs.Outcome (Untouched s) (StopsUntouched s packet) (s.processPacket cfg packet) ∧
    ∀ later, Agree (Alike cfg [] Eq) (AlikeStop cfg [] Eq) (StopExcused fun _ => False)
      (later.foldlM (Driver.processPacket cfg) s) ((packet :: later).foldlM (Driver.processPacket cfg) s) := by
  intro cfg s packet
  have dropped : Dropped cfg s packet := .timestamp rfl
  obtain ⟨untouched, deleted⟩ := rejected_untouched cfg s packet dropped
  exact ⟨dropped, untouched, deleted rfl⟩

end HesaiLidar
