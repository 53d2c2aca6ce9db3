import HesaiLidar.Driver.ProcessLiarPacket
import HesaiLidar.Frame.Buffers

/-!
# What one iteration can do

The outcomes of one iteration of the processing loop, said once: which part of the state each stage may
change, and that without transform frames the block loop works on the frame alone.
-/

namespace HesaiLidar

variable {cfg : Config} {s t : Driver} {accepted : AcceptedPacket} {packet : PandarPacket} {stamp : ℚ}

/-! ### The block loop on the frame -/

def Frame.processBlock (cfg : Config) (ctx : PacketContext) (frame : Frame) (entry : LidarBlock × Nat) :
    Except Fault Frame := do
  let frame := if frame.cuts cfg ctx.packet entry.1.azimuth then frame.cut cfg ctx.packet else frame
  let frame ← calcBlock cfg ctx entry.2 entry.1 frame
  return frame.finishBlock ctx.packet entry.1

def Frame.met (cfg : Config) (packet : LidarPacket) (azimuth : Nat) (frame : Frame) : Frame :=
  if frame.cuts cfg packet azimuth then frame.cut cfg packet else frame

theorem withTransforms_ok {result : Except (Stop Transforms) Transforms} (h : s.withTransforms result = .ok t) :
    ∃ tf, result = .ok tf ∧ t = { s with transforms := tf } := by
  cases result with
  | ok tf => exact ⟨tf, rfl, (Except.ok.inj h).symm⟩
  | error stop => cases stop <;> cases h

theorem cutBefore_ok {block : LidarBlock} (h : s.cutBefore cfg accepted.packet block = .ok t) :
    t = { s with
      transforms := t.transforms
      frame := if s.frame.cuts cfg accepted.packet block.azimuth then s.frame.cut cfg accepted.packet else s.frame } := by
  unfold Driver.cutBefore at h
  split at h
  · rename_i cuts
    obtain ⟨tf, -, rfl⟩ := withTransforms_ok h
    rw [if_pos cuts]
  · rename_i cuts
    rw [if_neg cuts]
    obtain rfl := Except.ok.inj h
    rfl

/-- A block that is processed moves the frame by `Frame.processBlock` and nothing else but the transforms. -/
theorem processBlock_ok {entry : LidarBlock × Nat} (h : s.processBlock cfg accepted entry = .ok t) :
    ∃ ctx : PacketContext, ctx.format = accepted.format ∧ ctx.packet = accepted.packet ∧
      ctx.dPktTimestamp = s.dPktTimestamp ∧ s.frame.processBlock cfg ctx entry = .ok t.frame ∧
      t = { s with transforms := t.transforms, frame := t.frame } := by
  obtain ⟨block, blockid⟩ := entry
  simp only [Driver.processBlock] at h
  obtain ⟨m, before, h⟩ := Except.bind_ok h
  have cut := cutBefore_ok before
  cases points : calcBlock cfg (m.context cfg accepted) blockid block m.frame with
  | error fault => rw [points] at h; cases h
  | ok frame =>
    rw [points] at h
    obtain rfl := Except.ok.inj h
    refine ⟨m.context cfg accepted, rfl, rfl, by rw [cut]; rfl, ?_, by rw [cut]⟩
    have framed : m.frame = if s.frame.cuts cfg accepted.packet block.azimuth then s.frame.cut cfg accepted.packet
        else s.frame := by rw [cut]
    rw [framed] at points
    show (calcBlock cfg (m.context cfg accepted) blockid block _ >>= _) = _
    rw [show (m.context cfg accepted).packet = accepted.packet from rfl, points]
    rfl

theorem processBlocks_ok (h : s.processBlocks cfg accepted = .ok t) :
    t = { s with transforms := t.transforms, frame := t.frame, accepted := s.accepted ++ [accepted] } := by
  obtain ⟨m, blocks, labelled⟩ := Except.bind_ok h
  obtain rfl := Except.ok.inj labelled
  have kept : m = { s.keep accepted with transforms := m.transforms, frame := m.frame } := by
    refine (Runs.run_of_foldlM_ok blocks).invariant
      (I := fun m => m = { s.keep accepted with transforms := m.transforms, frame := m.frame }) ?_ rfl
    intro m n entry same step
    obtain ⟨ctx, -, -, -, -, moved⟩ := processBlock_ok step
    rw [moved, same]
  rw [kept]
  rfl

/-! ### Without transform frames -/

def Driver.NoTf (cfg : Config) (s : Driver) : Prop := cfg.fixedFrame = "" ∧ s.transforms.targetFrame = ""

theorem computeTransformToTarget_untargeted {tf : Transforms} (untargeted : tf.targetFrame = "") :
    computeTransformToTarget cfg tf = .ok tf := if_pos untargeted

theorem computeTransformToFixed_noTf (noTf : s.NoTf cfg) (tf : Transforms) : computeTransformToFixed cfg tf = .ok tf :=
  if_pos noTf.1

theorem manageTfBuffer_untargeted {tf : Transforms} (untargeted : tf.targetFrame = "") :
    (manageTfBuffer cfg tf).targetFrame = "" := by
  unfold manageTfBuffer
  split_ifs
  · exact untargeted
  · rfl
  · exact untargeted
  · exact untargeted

/-- What the points of a packet share when no frame transform applies. -/
def AcceptedPacket.context (accepted : AcceptedPacket) : PacketContext where
  format := accepted.format
  packet := accepted.packet
  dPktTimestamp := accepted.stamp
  transformPoint := fun p => p

theorem context_noTf (noTf : s.NoTf cfg) (stamped : s.dPktTimestamp = accepted.stamp) :
    s.context cfg accepted = accepted.context := by
  have identity : transformPoint cfg s.transforms = fun p => p := by
    funext p
    exact if_pos noTf
  rw [Driver.context, identity, stamped]
  rfl

/-- Without a target frame a block is processed in the context its packet came with. -/
theorem processBlock_untargeted (untargeted : s.transforms.targetFrame = "") (entry : LidarBlock × Nat) :
    s.processBlock cfg accepted entry = s.withFrame (s.frame.processBlock cfg (s.context cfg accepted) entry) := by
  obtain ⟨block, blockid⟩ := entry
  have before : s.cutBefore cfg accepted.packet block = .ok { s with
      frame := if s.frame.cuts cfg accepted.packet block.azimuth then s.frame.cut cfg accepted.packet else s.frame } := by
    unfold Driver.cutBefore
    by_cases cuts : s.frame.cuts cfg accepted.packet block.azimuth
    · rw [if_pos cuts, if_pos cuts]
      dsimp only
      rw [computeTransformToTarget_untargeted untargeted]
      rfl
    · rw [if_neg cuts, if_neg cuts]
  have context (frame : Frame) : Driver.context cfg { s with frame := frame } accepted = s.context cfg accepted := rfl
  simp only [Driver.processBlock, Frame.processBlock, before, Except.ok_bind, context]
  rw [show (s.context cfg accepted).packet = accepted.packet from rfl]
  cases calcBlock cfg (s.context cfg accepted) blockid block _ <;> rfl

theorem foldlM_processBlock_untargeted (untargeted : s.transforms.targetFrame = "") (entries : List (LidarBlock × Nat)) :
    entries.foldlM (Driver.processBlock cfg accepted) s =
      s.withFrame (entries.foldlM (Frame.processBlock cfg (s.context cfg accepted)) s.frame) := by
  induction entries generalizing s with
  | nil => rfl
  | cons entry entries ih =>
    rw [List.foldlM_cons, List.foldlM_cons, processBlock_untargeted untargeted]
    cases s.frame.processBlock cfg (s.context cfg accepted) entry with
    | error fault => rfl
    | ok frame => exact ih (s := { s with frame := frame }) untargeted

theorem processBlock_noTf (noTf : s.NoTf cfg) (stamped : s.dPktTimestamp = accepted.stamp) (entry : LidarBlock × Nat) :
    s.processBlock cfg accepted entry = s.withFrame (s.frame.processBlock cfg accepted.context entry) := by
  rw [← context_noTf noTf stamped]
  exact processBlock_untargeted noTf.2 entry

theorem foldlM_processBlock_noTf (noTf : s.NoTf cfg) (stamped : s.dPktTimestamp = accepted.stamp)
    (entries : List (LidarBlock × Nat)) :
    entries.foldlM (Driver.processBlock cfg accepted) s =
      s.withFrame (entries.foldlM (Frame.processBlock cfg accepted.context) s.frame) := by
  rw [← context_noTf noTf stamped]
  exact foldlM_processBlock_untargeted noTf.2 entries

/-- Without transform frames the frame alone decides what a condition on blocks sees. -/
theorem allSteps_noTf {C : Frame → LidarBlock × Nat → Prop} (noTf : s.NoTf cfg) (stamped : s.dPktTimestamp = accepted.stamp)
    (entries : List (LidarBlock × Nat)) :
    Runs.AllSteps (Runs.Succeeds (Driver.processBlock cfg accepted)) (fun s => C s.frame) s entries ↔
      Runs.AllSteps (Runs.Succeeds (Frame.processBlock cfg accepted.context)) C s.frame entries := by
  induction entries generalizing s with
  | nil => exact .rfl
  | cons entry entries ih =>
    refine and_congr_right fun _ => ⟨fun all frame step => ?_, fun all t step => ?_⟩
    · refine (ih (s := { s with frame := frame }) noTf stamped).mp (all _ ?_)
      rw [Runs.Succeeds, processBlock_noTf noTf stamped, show s.frame.processBlock cfg accepted.context entry = .ok frame from step]
      rfl
    · rw [Runs.Succeeds, processBlock_noTf noTf stamped] at step
      cases result : s.frame.processBlock cfg accepted.context entry with
      | error fault => rw [result] at step; cases step
      | ok frame =>
        rw [result] at step
        obtain rfl := Except.ok.inj step
        exact (ih (s := { s with frame := frame }) noTf stamped).mpr (all frame result)

def Frame.processPacket (cfg : Config) (frame : Frame) (accepted : AcceptedPacket) : Except Fault Frame := do
  let frame ← accepted.packet.blocks.zipIdx.foldlM (Frame.processBlock cfg accepted.context) (frame.append accepted.raw)
  return frame.label cfg

theorem processBlocks_noTf (noTf : s.NoTf cfg) (stamped : s.dPktTimestamp = accepted.stamp) :
    s.processBlocks cfg accepted =
      { s with accepted := s.accepted ++ [accepted] }.withFrame (s.frame.processPacket cfg accepted) := by
  unfold Driver.processBlocks Frame.processPacket
  rw [foldlM_processBlock_noTf (s := s.keep accepted) noTf stamped]
  rw [show (s.keep accepted).frame = s.frame.append accepted.raw from rfl]
  cases accepted.packet.blocks.zipIdx.foldlM (Frame.processBlock cfg accepted.context) _ <;> rfl

theorem processBlocks_noTf_ok (noTf : s.NoTf cfg) (stamped : s.dPktTimestamp = accepted.stamp)
    (h : s.processBlocks cfg accepted = .ok t) :
    ∃ frame, s.frame.processPacket cfg accepted = .ok frame ∧
      t = { s with accepted := s.accepted ++ [accepted], frame := frame } := by
  rw [processBlocks_noTf noTf stamped] at h
  cases result : s.frame.processPacket cfg accepted with
  | error fault => rw [result] at h; cases h
  | ok frame =>
    rw [result] at h
    exact ⟨frame, rfl, (Except.ok.inj h).symm⟩

theorem processBlocks_noTf_error (noTf : s.NoTf cfg) (stamped : s.dPktTimestamp = accepted.stamp)
    {stop : Stop Driver} (h : s.processBlocks cfg accepted = .error stop) :
    ∃ fault, s.frame.processPacket cfg accepted = .error fault ∧ stop = .undefined fault := by
  rw [processBlocks_noTf noTf stamped] at h
  cases result : s.frame.processPacket cfg accepted with
  | error fault =>
    rw [result] at h
    exact ⟨fault, rfl, (Except.error.inj h).symm⟩
  | ok frame => rw [result] at h; cases h

/-! ### Before the block loop -/

/-- Everything a packet carries once it has been admitted. -/
structure Admitted (cfg : Config) (packet : PandarPacket) (stamp : ℚ) (accepted : AcceptedPacket) : Prop where
  format : dispatch cfg.lidarType packet.size = some accepted.format
  parsed : parse cfg accepted.format ⟨packet.data, ethernetMtu⟩ packet.size = .ok (some accepted.packet)
  raw : rawPacket stamp packet = .ok accepted.raw
  stamp : accepted.stamp = stamp

theorem checkSequence_keeps (sequence : UInt32) (received : Double) :
    (s.checkSequence sequence received).2.frame = s.frame ∧
    (s.checkSequence sequence received).2.accepted = s.accepted ∧
    (s.checkSequence sequence received).2.packetTimestampGuard = s.packetTimestampGuard ∧
    (s.checkSequence sequence received).2.dPktTimestamp = s.dPktTimestamp ∧
    (s.checkSequence sequence received).2.transforms = s.transforms := by
  unfold Driver.checkSequence
  dsimp only
  split <;> exact ⟨rfl, rfl, rfl, rfl, rfl⟩

theorem checkSequence_accepted (sequence : UInt32) (received : Double) :
    (s.checkSequence sequence received).1 = (s.xtSequenceTracker.observe (sequence, received)).1.accepted ∧
    (s.checkSequence sequence received).2.xtSequenceTracker = (s.xtSequenceTracker.observe (sequence, received)).2 := by
  unfold Driver.checkSequence SequenceDecision.accepted
  dsimp only
  split
  all_goals
    rename_i status
    rw [status]
    exact ⟨rfl, rfl⟩

theorem rawPacket_error {fault : Fault} (h : rawPacket stamp packet = .error fault) :
    ethernetMtu < packet.size ∧ fault = .packetCopy packet.size := by
  unfold rawPacket at h
  split at h
  · cases h
  · rename_i large
    exact ⟨Nat.lt_of_not_le large, (Except.error.inj h).symm⟩

/-- The driver that parses a packet: the stamp is stored and the transform to the fixed frame looked up. -/
def Driver.fixed (s : Driver) (stamp : ℚ) (tf : Transforms) : Driver := { s with dPktTimestamp := stamp, transforms := tf }

/-- Where a packet the guard has let pass may get to, stage by stage. -/
inductive Acceptance (cfg : Config) (s : Driver) (stamp : ℚ) (packet : PandarPacket) :
    Except (Stop Driver) (Driver × Option AcceptedPacket) → Prop
  | tooLarge (large : ethernetMtu < packet.size) :
    Acceptance cfg s stamp packet (.error (.undefined (.packetCopy packet.size)))
  | unsupported (dispatched : dispatch cfg.lidarType packet.size = none) :
    Acceptance cfg s stamp packet (.ok ({ s with dPktTimestamp := stamp }, none))
  | lookup {format : Format} {stop : Stop Driver} (dispatched : dispatch cfg.lidarType packet.size = some format)
      (failed : (s.fixed stamp (manageTfBuffer cfg s.transforms)).withTransforms
        (computeTransformToFixed cfg (manageTfBuffer cfg s.transforms)) = .error stop) :
    Acceptance cfg s stamp packet (.error stop)
  | parser {format : Format} {fault : Fault} (dispatched : dispatch cfg.lidarType packet.size = some format)
      (faulty : parse cfg format ⟨packet.data, ethernetMtu⟩ packet.size = .error fault) :
    Acceptance cfg s stamp packet (.error (.undefined fault))
  | malformed {format : Format} {tf : Transforms} (dispatched : dispatch cfg.lidarType packet.size = some format)
      (found : computeTransformToFixed cfg (manageTfBuffer cfg s.transforms) = .ok tf)
      (parsed : parse cfg format ⟨packet.data, ethernetMtu⟩ packet.size = .ok none) :
    Acceptance cfg s stamp packet (.ok (s.fixed stamp tf, none))
  | outOfSequence {tf : Transforms} {content : LidarPacket} (dispatched : dispatch cfg.lidarType packet.size = some .xt)
      (found : computeTransformToFixed cfg (manageTfBuffer cfg s.transforms) = .ok tf)
      (parsed : parse cfg .xt ⟨packet.data, ethernetMtu⟩ packet.size = .ok (some content))
      (checked : ((s.fixed stamp tf).checkSequence content.udpSequence packet.stamp).1 = false) :
    Acceptance cfg s stamp packet (.ok (((s.fixed stamp tf).checkSequence content.udpSequence packet.stamp).2, none))
  | inSequence {tf : Transforms} {accepted : AcceptedPacket} (admitted : Admitted cfg packet stamp accepted)
      (found : computeTransformToFixed cfg (manageTfBuffer cfg s.transforms) = .ok tf) (xt : accepted.format = .xt)
      (checked : ((s.fixed stamp tf).checkSequence accepted.packet.udpSequence packet.stamp).1 = true) :
    Acceptance cfg s stamp packet
      (.ok (((s.fixed stamp tf).checkSequence accepted.packet.udpSequence packet.stamp).2, some accepted))
  | unchecked {tf : Transforms} {accepted : AcceptedPacket} (admitted : Admitted cfg packet stamp accepted)
      (found : computeTransformToFixed cfg (manageTfBuffer cfg s.transforms) = .ok tf) (other : accepted.format ≠ .xt) :
    Acceptance cfg s stamp packet (.ok (s.fixed stamp tf, some accepted))

variable (cfg s stamp packet) in
theorem accept_cases : Acceptance cfg s stamp packet (s.accept cfg stamp packet) := by
  unfold Driver.accept
  cases copied : rawPacket stamp packet with
  | error fault =>
    obtain ⟨large, rfl⟩ := rawPacket_error copied
    exact .tooLarge large
  | ok raw =>
    dsimp only
    cases dispatched : dispatch cfg.lidarType packet.size with
    | none => exact .unsupported dispatched
    | some format =>
      dsimp only
      cases fixed : Driver.withTransforms { s with dPktTimestamp := stamp, transforms := manageTfBuffer cfg s.transforms }
          (computeTransformToFixed cfg (manageTfBuffer cfg s.transforms)) with
      | error stop => exact .lookup dispatched fixed
      | ok m =>
        obtain ⟨tf, found, rfl⟩ := withTransforms_ok fixed
        rw [Except.ok_bind]
        cases parsed : parse cfg format ⟨packet.data, ethernetMtu⟩ packet.size with
        | error fault => exact .parser dispatched parsed
        | ok outcome =>
          cases outcome with
          | none => exact .malformed dispatched found parsed
          | some content =>
            have admitted : Admitted cfg packet stamp ⟨format, content, stamp, raw⟩ := ⟨dispatched, parsed, copied, rfl⟩
            dsimp only
            split
            · rename_i xt
              subst xt
              have late := @Acceptance.outOfSequence cfg s stamp packet tf content dispatched found parsed
              have next := @Acceptance.inSequence cfg s stamp packet tf _ admitted found rfl
              rcases checked : Driver.checkSequence _ content.udpSequence packet.stamp with ⟨keeps, n⟩
              rw [show (s.fixed stamp tf).checkSequence content.udpSequence packet.stamp = (keeps, n) from checked]
                at late next
              cases keeps with
              | true => exact next rfl
              | false => exact late rfl
            · exact .unchecked admitted found ‹_›

theorem found_noTf {tf : Transforms} (found : computeTransformToFixed cfg (manageTfBuffer cfg s.transforms) = .ok tf)
    (noTf : s.NoTf cfg) : tf.targetFrame = "" := by
  rw [computeTransformToFixed_noTf noTf] at found
  obtain rfl := Except.ok.inj found
  exact manageTfBuffer_untargeted noTf.2

theorem accept_ok {result : Option AcceptedPacket} (h : s.accept cfg stamp packet = .ok (t, result)) :
    t.frame = s.frame ∧ t.accepted = s.accepted ∧ t.packetTimestampGuard = s.packetTimestampGuard ∧
    t.dPktTimestamp = stamp ∧ (s.NoTf cfg → t.NoTf cfg) ∧
    ∀ accepted, result = some accepted → Admitted cfg packet stamp accepted := by
  have ways := accept_cases cfg s packet stamp
  rw [h] at ways
  have checked (tf : Transforms) (sequence : UInt32) := checkSequence_keeps (s := s.fixed stamp tf) sequence packet.stamp
  cases ways with
  | unsupported => exact ⟨rfl, rfl, rfl, rfl, id, nofun⟩
  | malformed _ found => exact ⟨rfl, rfl, rfl, rfl, fun noTf => ⟨noTf.1, found_noTf found noTf⟩, nofun⟩
  | @outOfSequence tf content _ found =>
    obtain ⟨frame, history, guard, stamped, transforms⟩ := checked tf content.udpSequence
    refine ⟨frame, history, guard, stamped, fun noTf => ⟨noTf.1, ?_⟩, nofun⟩
    rw [transforms]
    exact found_noTf found noTf
  | @inSequence tf accepted admitted found =>
    obtain ⟨frame, history, guard, stamped, transforms⟩ := checked tf accepted.packet.udpSequence
    refine ⟨frame, history, guard, stamped, fun noTf => ⟨noTf.1, ?_⟩, ?_⟩
    · rw [transforms]
      exact found_noTf found noTf
    · rintro _ ⟨⟩
      exact admitted
  | unchecked admitted found =>
    refine ⟨rfl, rfl, rfl, rfl, fun noTf => ⟨noTf.1, found_noTf found noTf⟩, ?_⟩
    rintro _ ⟨⟩
    exact admitted

theorem processPacket_rejected (rejected : (s.packetTimestampGuard.observe packet.stamp).1.accepted = false) :
    s.processPacket cfg packet = .ok { s.guarded packet with
      packetTimestampRegressions := s.packetTimestampRegressions + 1 } := by
  simp only [Driver.processPacket, rejected]
  rfl

theorem processPacket_passed (finite : packet.stamp = .finite stamp)
    (passed : (s.packetTimestampGuard.observe packet.stamp).1.accepted = true) :
    s.processPacket cfg packet = (s.guarded packet).accept cfg stamp packet >>= Driver.processAccepted cfg := by
  rw [finite] at passed
  simp only [Driver.processPacket, finite, passed]

/-- The three ways in which an iteration completes. -/
theorem processPacket_ok (h : s.processPacket cfg packet = .ok t) :
    (s.packetTimestampGuard.observe packet.stamp).1.accepted = false ∧
        t = { s.guarded packet with packetTimestampRegressions := s.packetTimestampRegressions + 1 } ∨
    ∃ stamp, packet.stamp = .finite stamp ∧ (s.packetTimestampGuard.observe (.finite stamp)).1.accepted = true ∧
      ((s.guarded packet).accept cfg stamp packet = .ok (t, none) ∨
        ∃ m accepted, (s.guarded packet).accept cfg stamp packet = .ok (m, some accepted) ∧
          m.processBlocks cfg accepted = .ok t) := by
  cases passed : (s.packetTimestampGuard.observe packet.stamp).1.accepted with
  | false =>
    rw [processPacket_rejected passed] at h
    exact .inl ⟨rfl, (Except.ok.inj h).symm⟩
  | true =>
    right
    cases finite : packet.stamp with
    | notFinite => rw [finite] at passed; cases passed
    | finite stamp =>
      refine ⟨stamp, rfl, finite ▸ passed, ?_⟩
      rw [processPacket_passed finite passed] at h
      cases admitted : (s.guarded packet).accept cfg stamp packet with
      | error stop => rw [admitted] at h; cases h
      | ok result =>
        obtain ⟨m, outcome⟩ := result
        rw [admitted, Except.ok_bind] at h
        cases outcome with
        | none =>
          obtain rfl : m = t := Except.ok.inj h
          exact .inl rfl
        | some accepted => exact .inr ⟨m, accepted, rfl, h⟩

/-- Every packet that is popped passes through the guard, and nothing else touches it. -/
theorem processPacket_guard (h : s.processPacket cfg packet = .ok t) :
    t.packetTimestampGuard = (s.packetTimestampGuard.observe packet.stamp).2 := by
  rcases processPacket_ok h with ⟨-, rfl⟩ | ⟨stamp, -, -, dropped | ⟨m, a, admitted, blocks⟩⟩
  · rfl
  · exact (accept_ok dropped).2.2.1
  · rw [processBlocks_ok blocks]
    exact (accept_ok admitted).2.2.1

theorem processPacket_toleranceSec (h : s.processPacket cfg packet = .ok t) :
    t.packetTimestampGuard.toleranceSec = s.packetTimestampGuard.toleranceSec := by
  rw [processPacket_guard h, TimestampGuard.observe_toleranceSec]

theorem processPacket_accepted (h : s.processPacket cfg packet = .ok t) :
    t.accepted = s.accepted ∨ ∃ a, t.accepted = s.accepted ++ [a] ∧ packet.stamp = .finite a.stamp := by
  rcases processPacket_ok h with ⟨-, rfl⟩ | ⟨stamp, finite, -, dropped | ⟨m, a, admitted, blocks⟩⟩
  · exact .inl rfl
  · exact .inl (accept_ok dropped).2.1
  · obtain ⟨-, accepted, -, -, -, carried⟩ := accept_ok admitted
    rw [processBlocks_ok blocks]
    refine .inr ⟨a, congrArg (· ++ [a]) accepted, ?_⟩
    rw [(carried a rfl).stamp]
    exact finite

/-- The rule of one iteration: what the guard's drop leaves, what admission may come to, and what is made of it. -/
theorem processPacket_outcome {I : Driver × Option AcceptedPacket → Prop} {J : Driver → Prop} {Fails : Stop Driver → Prop}
    (rejected : J { s.guarded packet with packetTimestampRegressions := s.packetTimestampRegressions + 1 })
    (admission : ∀ stamp, (s.packetTimestampGuard.observe packet.stamp).1.accepted = true →
      Runs.Outcome I Fails ((s.guarded packet).accept cfg stamp packet))
    (rest : ∀ stamp result, packet.stamp = .finite stamp → (s.packetTimestampGuard.observe packet.stamp).1.accepted = true →
      (s.guarded packet).accept cfg stamp packet = .ok result → I result →
      Runs.Outcome J Fails (Driver.processAccepted cfg result)) :
    Runs.Outcome J Fails (s.processPacket cfg packet) := by
  cases passed : (s.packetTimestampGuard.observe packet.stamp).1.accepted with
  | false =>
    rw [processPacket_rejected passed]
    exact rejected
  | true =>
    cases finite : packet.stamp with
    | notFinite => rw [finite] at passed; cases passed
    | finite stamp =>
      rw [processPacket_passed finite passed]
      exact Runs.Outcome.bind (admission stamp passed) fun result => rest stamp result finite passed

theorem processPacket_stopped {stop : Stop Driver} (h : s.processPacket cfg packet = .error stop) :
    ∃ stamp, packet.stamp = .finite stamp ∧
      ((s.guarded packet).accept cfg stamp packet = .error stop ∨
        ∃ m accepted, (s.guarded packet).accept cfg stamp packet = .ok (m, some accepted) ∧
          m.processBlocks cfg accepted = .error stop) := by
  cases passed : (s.packetTimestampGuard.observe packet.stamp).1.accepted with
  | false => rw [processPacket_rejected passed] at h; cases h
  | true =>
    cases finite : packet.stamp with
    | notFinite => rw [finite] at passed; cases passed
    | finite stamp =>
      refine ⟨stamp, rfl, ?_⟩
      rw [processPacket_passed finite passed] at h
      cases admitted : (s.guarded packet).accept cfg stamp packet with
      | error early =>
        rw [admitted] at h
        obtain rfl := Except.error.inj h
        exact .inl rfl
      | ok result =>
        obtain ⟨m, _ | accepted⟩ := result
        · rw [admitted] at h; cases h
        · rw [admitted] at h
          exact .inr ⟨m, accepted, rfl, h⟩

/-! ### Conditions and invariants of the frame -/

abbrev BlockCondition : Type := AcceptedPacket → Frame → LidarBlock × Nat → Prop

/-- The condition holds at every block of a packet that reaches the block loop. -/
def AtBlocks (cfg : Config) (C : BlockCondition) (s : Driver) (packet : PandarPacket) : Prop :=
  ∀ stamp m a, packet.stamp = .finite stamp → (s.packetTimestampGuard.observe packet.stamp).1.accepted = true →
    (s.guarded packet).accept cfg stamp packet = .ok (m, some a) →
    Runs.AllSteps (Runs.Succeeds (Driver.processBlock cfg a)) (fun s => C a s.frame) (m.keep a) a.packet.blocks.zipIdx

/-- The condition holds at every block a run meets. -/
def EveryBlock (cfg : Config) (C : BlockCondition) (s : Driver) (packets : List PandarPacket) : Prop :=
  ∀ m, s.withTransforms (computeTransformToTarget cfg s.transforms) = .ok m →
    Runs.AllSteps (Runs.Succeeds (Driver.processPacket cfg)) (AtBlocks cfg C) m packets

theorem EveryBlock.imp {C D : BlockCondition} (gives : ∀ {a f entry}, C a f entry → D a f entry)
    {packets : List PandarPacket} (side : EveryBlock cfg C s packets) : EveryBlock cfg D s packets := by
  intro m started
  refine (side m started).imp fun {s packet} blocks => ?_
  intro stamp m a finite passed admitted
  exact (blocks stamp m a finite passed admitted).imp gives

/-- The states a run may leave behind when it stops. -/
def StopsWith (Inv : Frame → Prop) : Stop Driver → Prop
  | .returned s => Inv s.frame
  | .uncaught s => Inv s.frame
  | .undefined _ => True

/-- An invariant of the frame: everything the loop does to a frame keeps it where blocks meet `C`. -/
structure FrameInvariant (cfg : Config) (C : BlockCondition) (Inv : Frame → Prop) : Prop where
  append : ∀ {f} raw, Inv f → Inv (f.append raw)
  label : ∀ {f}, Inv f → Inv (f.label cfg)
  cut : ∀ {f a entry}, Inv f → C a f entry → f.cuts cfg a.packet entry.1.azimuth = true → Inv (f.cut cfg a.packet)
  block : ∀ {f g a entry} {ctx : PacketContext}, ctx.format = a.format → ctx.packet = a.packet → Inv f → C a f entry →
    f.processBlock cfg ctx entry = .ok g → Inv g

theorem withTransforms_outcome {I : Frame → Prop} (holds : I s.frame) (result : Except (Stop Transforms) Transforms) :
    Runs.Outcome (fun t => I t.frame) (StopsWith I) (s.withTransforms result) := by
  rcases result with (_ | _ | _) | _
  · exact holds
  · exact holds
  · trivial
  · exact holds

variable (cfg packet stamp) in
theorem accept_outcome {Inv : Frame → Prop} (holds : Inv s.frame) :
    Runs.Outcome (fun result => Inv result.1.frame) (StopsWith Inv) (s.accept cfg stamp packet) := by
  cases admitted : s.accept cfg stamp packet with
  | ok result =>
    obtain ⟨t, accepted⟩ := result
    have frame := (accept_ok admitted).1
    show Inv t.frame
    rwa [frame]
  | error stop =>
    have ways := accept_cases cfg s packet stamp
    rw [admitted] at ways
    cases ways with
    | tooLarge => trivial
    | lookup _ failed =>
      have outcome := withTransforms_outcome (s := s.fixed stamp (manageTfBuffer cfg s.transforms)) holds
        (computeTransformToFixed cfg (manageTfBuffer cfg s.transforms))
      rwa [failed] at outcome
    | parser => trivial

namespace FrameInvariant

variable {C D : BlockCondition} {Inv : Frame → Prop}

theorem blockOutcome (inv : FrameInvariant cfg C Inv) {entry : LidarBlock × Nat} (holds : Inv s.frame)
    (side : C accepted s.frame entry) :
    Runs.Outcome (fun t => Inv t.frame) (StopsWith Inv) (s.processBlock cfg accepted entry) := by
  cases result : s.processBlock cfg accepted entry with
  | ok t =>
    obtain ⟨ctx, format, packet, -, step, -⟩ := processBlock_ok result
    exact inv.block format packet holds side step
  | error stop =>
    obtain ⟨block, blockid⟩ := entry
    simp only [Driver.processBlock] at result
    cases before : s.cutBefore cfg accepted.packet block with
    | error early =>
      rw [before] at result
      obtain rfl := Except.error.inj result
      unfold Driver.cutBefore at before
      split at before
      · rename_i cuts
        have outcome := withTransforms_outcome (s := { s with frame := s.frame.cut cfg accepted.packet })
          (inv.cut holds side cuts) (computeTransformToTarget cfg s.transforms)
        rw [show Driver.withTransforms _ (computeTransformToTarget cfg s.transforms) = _ from before] at outcome
        exact outcome
      · cases before
    | ok m =>
      rw [before, Except.ok_bind] at result
      cases points : calcBlock cfg (m.context cfg accepted) blockid block m.frame with
      | error fault =>
        rw [points] at result
        obtain rfl := Except.error.inj result
        trivial
      | ok frame => rw [points] at result; cases result

theorem packetOutcome (inv : FrameInvariant cfg C Inv) (holds : Inv s.frame) (side : AtBlocks cfg C s packet) :
    Runs.Outcome (fun t => Inv t.frame) (StopsWith Inv) (s.processPacket cfg packet) := by
  refine processPacket_outcome (J := fun t => Inv t.frame) holds
    (fun stamp _ => accept_outcome cfg packet stamp (s := s.guarded packet) holds) ?_
  rintro stamp ⟨m, _ | a⟩ finite passed admitted admission
  · exact admission
  · have blocks := Runs.foldlM_outcome_of_allSteps (f := Driver.processBlock cfg a) (I := fun t => Inv t.frame)
      inv.blockOutcome (inv.append a.raw admission) (side stamp m a finite passed admitted)
    exact Runs.Outcome.bind blocks fun t _ kept => inv.label kept

theorem runOutcome (inv : FrameInvariant cfg C Inv) {packets : List PandarPacket} (holds : Inv s.frame)
    (side : EveryBlock cfg C s packets) :
    Runs.Outcome (fun t => Inv t.frame) (StopsWith Inv) (processLiarPacket cfg s packets) := by
  have entry := withTransforms_outcome holds (computeTransformToTarget cfg s.transforms)
  refine Runs.Outcome.bind entry fun m started start => ?_
  exact Runs.foldlM_outcome_of_allSteps (I := fun t => Inv t.frame) inv.packetOutcome start (side m started)

theorem block_step (inv : FrameInvariant cfg C Inv) {entry : LidarBlock × Nat} (holds : Inv s.frame)
    (side : C accepted s.frame entry) (step : Runs.Succeeds (Driver.processBlock cfg accepted) s entry t) : Inv t.frame := by
  have outcome := inv.blockOutcome holds side
  rwa [show s.processBlock cfg accepted entry = .ok t from step] at outcome

theorem packet_step (inv : FrameInvariant cfg C Inv) (holds : Inv s.frame) (side : AtBlocks cfg C s packet)
    (step : Runs.Succeeds (Driver.processPacket cfg) s packet t) : Inv t.frame := by
  have outcome := inv.packetOutcome holds side
  rwa [show s.processPacket cfg packet = .ok t from step] at outcome

/-- What the invariant makes of the condition holds at every block of the run. -/
theorem everyBlock (inv : FrameInvariant cfg C Inv) (gives : ∀ {a f entry}, Inv f → C a f entry → D a f entry)
    {packets : List PandarPacket} (holds : Inv s.frame) (side : EveryBlock cfg C s packets) : EveryBlock cfg D s packets := by
  intro m started
  have entry : Inv m.frame := by
    have outcome := withTransforms_outcome holds (computeTransformToTarget cfg s.transforms)
    rwa [started] at outcome
  refine (side m started).strengthen (I := fun t => Inv t.frame) inv.packet_step (fun {s packet} holds blocks => ?_) entry
  intro stamp m a finite passed admitted
  have admission := accept_outcome cfg packet stamp (s := s.guarded packet) holds
  rw [admitted] at admission
  exact (blocks stamp m a finite passed admitted).strengthen (I := fun t => Inv t.frame) inv.block_step gives
    (inv.append a.raw admission)

end FrameInvariant

end HesaiLidar
