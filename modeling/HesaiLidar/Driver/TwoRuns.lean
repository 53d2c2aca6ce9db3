import HesaiLidar.Driver.Steps
import HesaiLidar.Library.Lockstep

/-!
# Two runs on the same packets

Two processing threads that pop the same packets and may differ in the point mode, in the history and in
what their frames hold. What the packets decide is the same for both; what the frames must have in common
for the rest is a parameter.
-/

namespace HesaiLidar

open Lockstep

def Config.withPclType (cfg : Config) (pclType : Int) : Config := { cfg with pclType := pclType }

/-- Equal transform states, or no frame transform on either side. -/
def SameTransforms (cfg : Config) (s t : Driver) : Prop := t.transforms = s.transforms ∨ s.NoTf cfg ∧ t.NoTf cfg

/-- The second run has accepted the packets `old` before the two began to pop the same packets. -/
structure Alike (cfg : Config) (old : List AcceptedPacket) (F : Frame → Frame → Prop) (s t : Driver) : Prop where
  guard : t.packetTimestampGuard = s.packetTimestampGuard
  tracker : t.xtSequenceTracker = s.xtSequenceTracker
  transforms : SameTransforms cfg s t
  frame : F s.frame t.frame
  accepted : t.accepted = old ++ s.accepted

/-- Inside the block loop the packet's stamp is the same as well. -/
structure AlikeStamped (cfg : Config) (old : List AcceptedPacket) (F : Frame → Frame → Prop) (s t : Driver) : Prop
    extends Alike cfg old F s t where
  stamp : t.dPktTimestamp = s.dPktTimestamp

inductive AlikeStop (cfg : Config) (old : List AcceptedPacket) (F : Frame → Frame → Prop) :
    Stop Driver → Stop Driver → Prop where
  | returned {s t : Driver} (alike : Alike cfg old F s t) : AlikeStop cfg old F (.returned s) (.returned t)
  | uncaught {s t : Driver} (alike : Alike cfg old F s t) : AlikeStop cfg old F (.uncaught s) (.uncaught t)
  | undefined (fault : Fault) : AlikeStop cfg old F (.undefined fault) (.undefined fault)

theorem AlikeStop.imp {cfg : Config} {old : List AcceptedPacket} {F G : Frame → Frame → Prop} {x y : Stop Driver}
    (alike : AlikeStop cfg old F x y) (gives : ∀ {f g}, F f g → G f g) : AlikeStop cfg old G x y := by
  cases alike with
  | returned alike => exact .returned { alike with frame := gives alike.frame }
  | uncaught alike => exact .uncaught { alike with frame := gives alike.frame }
  | undefined fault => exact .undefined fault

/-- An excuse concerns the accesses of the second run. -/
def StopExcused (X : Fault → Prop) : Stop Driver → Prop
  | .returned _ => False
  | .uncaught _ => False
  | .undefined fault => X fault

theorem not_stopExcused (stop : Stop Driver) : ¬ StopExcused (fun _ => False) stop := by
  cases stop <;> exact id

/-- What the frames of two runs must have in common: the stages of the block loop keep it where the
blocks of the first run meet `C`, unless the second run fails with an excuse. -/
structure FrameLockstep (cfg other : Config) (C : BlockCondition) (X : Fault → Prop) (F : Frame → Frame → Prop) : Prop where
  append : ∀ {f g} raw, F f g → F (f.append raw) (g.append raw)
  label : ∀ {f g}, F f g → F (f.label cfg) (g.label other)
  cuts : ∀ {f g a entry}, F f g → C a f entry → g.cuts other a.packet entry.1.azimuth = f.cuts cfg a.packet entry.1.azimuth
  cut : ∀ {f g a entry}, F f g → C a f entry → f.cuts cfg a.packet entry.1.azimuth = true →
    F (f.cut cfg a.packet) (g.cut other a.packet)
  points : ∀ {f g a entry} (ctx : PacketContext), ctx.packet = a.packet → F f g → C a f entry →
    Agree F Eq X (calcBlock cfg ctx entry.2 entry.1 (f.met cfg a.packet entry.1.azimuth))
      (calcBlock other ctx entry.2 entry.1 (g.met other a.packet entry.1.azimuth))
  finish : ∀ {f g} packet block, F f g → F (f.finishBlock packet block) (g.finishBlock packet block)

variable {cfg : Config} {pclType : Int} {old : List AcceptedPacket} {C : BlockCondition} {X : Fault → Prop}
variable {F : Frame → Frame → Prop} {s t : Driver} {packet : PandarPacket} {stamp : ℚ}

/-! ### Transforms -/

theorem Alike.moved (alike : Alike cfg old F s t) {tf tf' : Transforms}
    (transforms : SameTransforms cfg { s with transforms := tf } { t with transforms := tf' }) :
    Alike cfg old F { s with transforms := tf } { t with transforms := tf' } :=
  ⟨alike.guard, alike.tracker, transforms, alike.frame, alike.accepted⟩

section Lookup

variable {K : Driver → Driver → Prop} (weaken : ∀ {s t}, K s t → Alike cfg old F s t)
variable (moved : ∀ tf tf', SameTransforms cfg { s with transforms := tf } { t with transforms := tf' } →
  K { s with transforms := tf } { t with transforms := tf' })
include weaken moved

theorem withTransforms_agree {r r' : Except (Stop Transforms) Transforms}
    (same : r' = r ∨ ∃ tf tf', r = .ok tf ∧ r' = .ok tf' ∧ cfg.fixedFrame = "" ∧ tf.targetFrame = "" ∧ tf'.targetFrame = "") :
    Agree K (AlikeStop cfg old F) (StopExcused X) (s.withTransforms r) (t.withTransforms r') := by
  rcases same with rfl | ⟨tf, tf', rfl, rfl, fixed, target, target'⟩
  · rcases r' with (tf | tf | fault) | tf
    · exact .error (.returned (weaken (moved tf tf (.inl rfl))))
    · exact .error (.uncaught (weaken (moved tf tf (.inl rfl))))
    · exact .error (.undefined fault)
    · exact .ok (moved tf tf (.inl rfl))
  · exact .ok (moved tf tf' (.inr ⟨⟨fixed, target⟩, fixed, target'⟩))

theorem computeTransformToTarget_agree (transforms : SameTransforms cfg s t) :
    Agree K (AlikeStop cfg old F) (StopExcused X) (s.withTransforms (computeTransformToTarget cfg s.transforms))
      (t.withTransforms (computeTransformToTarget cfg t.transforms)) := by
  apply withTransforms_agree weaken moved
  rcases transforms with same | ⟨left, right⟩
  · exact .inl (by rw [same])
  · exact .inr ⟨_, _, computeTransformToTarget_untargeted left.2, computeTransformToTarget_untargeted right.2,
      left.1, left.2, right.2⟩

theorem computeTransformToFixed_agree (transforms : SameTransforms cfg s t) :
    Agree K (AlikeStop cfg old F) (StopExcused X)
      (s.withTransforms (computeTransformToFixed cfg s.transforms))
      (t.withTransforms (computeTransformToFixed cfg t.transforms)) := by
  apply withTransforms_agree weaken moved
  rcases transforms with same | ⟨left, right⟩
  · exact .inl (by rw [same])
  · exact .inr ⟨_, _, computeTransformToFixed_noTf left _, computeTransformToFixed_noTf right _, left.1, left.2, right.2⟩

end Lookup

theorem AlikeStamped.moved (alike : AlikeStamped cfg old F s t) {tf tf' : Transforms}
    (transforms : SameTransforms cfg { s with transforms := tf } { t with transforms := tf' }) :
    AlikeStamped cfg old F { s with transforms := tf } { t with transforms := tf' } :=
  ⟨alike.toAlike.moved transforms, alike.stamp⟩

theorem manageTfBuffer_same (transforms : SameTransforms cfg s t) :
    SameTransforms cfg { s with transforms := manageTfBuffer cfg s.transforms }
      { t with transforms := manageTfBuffer cfg t.transforms } := by
  rcases transforms with same | ⟨left, right⟩
  · exact .inl (by rw [same])
  · exact .inr ⟨⟨left.1, manageTfBuffer_untargeted left.2⟩, right.1, manageTfBuffer_untargeted right.2⟩

theorem context_alike (alike : AlikeStamped cfg old F s t) (accepted : AcceptedPacket) :
    t.context cfg accepted = s.context cfg accepted := by
  unfold Driver.context transformPoint
  rw [alike.stamp]
  congr 1
  funext p
  rcases alike.transforms with same | ⟨left, right⟩
  · rw [same]
  · exact (if_pos right).trans (if_pos left).symm

/-! ### From a popped packet to its blocks -/

theorem Alike.guarded (alike : Alike cfg old F s t) (packet : PandarPacket) :
    Alike cfg old F (s.guarded packet) (t.guarded packet) := by
  refine ⟨?_, alike.tracker, alike.transforms, alike.frame, alike.accepted⟩
  unfold Driver.guarded
  rw [alike.guard]

theorem checkSequence_agree (alike : AlikeStamped cfg old F s t) (sequence : UInt32) (received : Double) :
    (t.checkSequence sequence received).1 = (s.checkSequence sequence received).1 ∧
      AlikeStamped cfg old F (s.checkSequence sequence received).2 (t.checkSequence sequence received).2 := by
  unfold Driver.checkSequence
  rw [alike.tracker]
  dsimp only
  split
  all_goals exact ⟨rfl, ⟨alike.guard, rfl, alike.transforms, alike.frame, alike.accepted⟩, alike.stamp⟩

/-- The packet and the states decide alike whether and how a packet reaches its blocks. -/
theorem accept_agree (alike : Alike cfg old F s t) :
    Agree (fun left right => right.2 = left.2 ∧ AlikeStamped cfg old F left.1 right.1) (AlikeStop cfg old F) (StopExcused X)
      (s.accept cfg stamp packet) (t.accept cfg stamp packet) := by
  have stamped : AlikeStamped cfg old F { s with dPktTimestamp := stamp } { t with dPktTimestamp := stamp } :=
    ⟨⟨alike.guard, alike.tracker, alike.transforms, alike.frame, alike.accepted⟩, rfl⟩
  unfold Driver.accept
  cases rawPacket stamp packet with
  | error fault => exact .error (.undefined fault)
  | ok raw =>
    dsimp only
    cases dispatch cfg.lidarType packet.size with
    | none => exact .ok ⟨rfl, stamped⟩
    | some format =>
      have managed := stamped.moved (manageTfBuffer_same stamped.transforms)
      apply (computeTransformToFixed_agree AlikeStamped.toAlike (fun _ _ => managed.moved) managed.transforms).bind
      intro m n _ _ moved
      cases parse cfg format ⟨packet.data, ethernetMtu⟩ packet.size with
      | error fault => exact .error (.undefined fault)
      | ok outcome =>
        cases outcome with
        | none => exact .ok ⟨rfl, moved⟩
        | some parsed =>
          dsimp only
          split
          · obtain ⟨same, checked⟩ := checkSequence_agree moved parsed.udpSequence packet.stamp
            rcases left : m.checkSequence parsed.udpSequence packet.stamp with ⟨keeps, m'⟩
            rcases right : n.checkSequence parsed.udpSequence packet.stamp with ⟨keeps', n'⟩
            rw [left, right] at same checked
            obtain rfl : keeps' = keeps := same
            cases keeps' with
            | false => exact .ok ⟨rfl, checked⟩
            | true => exact .ok ⟨rfl, checked⟩
          · exact .ok ⟨rfl, moved⟩

/-! ### The block loop -/

variable (lockstep : FrameLockstep cfg (cfg.withPclType pclType) C X F) {a : AcceptedPacket}
include lockstep

theorem cutBefore_agree {entry : LidarBlock × Nat} (alike : AlikeStamped cfg old F s t) (side : C a s.frame entry) :
    Agree (AlikeStamped cfg old F) (AlikeStop cfg old F) (StopExcused X)
      (s.cutBefore cfg a.packet entry.1) (t.cutBefore (cfg.withPclType pclType) a.packet entry.1) := by
  unfold Driver.cutBefore
  rw [lockstep.cuts alike.frame side]
  cases cuts : s.frame.cuts cfg a.packet entry.1.azimuth with
  | false => exact .ok alike
  | true =>
    have cut : AlikeStamped cfg old F { s with frame := s.frame.cut cfg a.packet }
        { t with frame := t.frame.cut (cfg.withPclType pclType) a.packet } :=
      ⟨⟨alike.guard, alike.tracker, alike.transforms, lockstep.cut alike.frame side cuts, alike.accepted⟩, alike.stamp⟩
    exact computeTransformToTarget_agree AlikeStamped.toAlike (fun _ _ => cut.moved) cut.transforms

theorem processBlock_agree {entry : LidarBlock × Nat} (alike : AlikeStamped cfg old F s t) (side : C a s.frame entry) :
    Agree (AlikeStamped cfg old F) (AlikeStop cfg old F) (StopExcused X)
      (s.processBlock cfg a entry) (t.processBlock (cfg.withPclType pclType) a entry) := by
  obtain ⟨block, blockid⟩ := entry
  apply (cutBefore_agree lockstep alike side).bind
  intro m n before before' met
  have frame : m.frame = s.frame.met cfg a.packet block.azimuth := congrArg Driver.frame (cutBefore_ok before)
  have frame' : n.frame = t.frame.met (cfg.withPclType pclType) a.packet block.azimuth :=
    congrArg Driver.frame (cutBefore_ok before')
  have context : n.context (cfg.withPclType pclType) a = m.context cfg a := context_alike met a
  have points := lockstep.points (m.context cfg a) rfl alike.frame side
  have stored : Agree (AlikeStamped cfg old F) (AlikeStop cfg old F) (StopExcused X)
      (m.withFrame (calcBlock cfg (m.context cfg a) blockid block m.frame))
      (n.withFrame (calcBlock (cfg.withPclType pclType) (n.context (cfg.withPclType pclType) a) blockid block n.frame)) := by
    rw [context, frame, frame']
    generalize calcBlock cfg _ blockid block _ = left at points ⊢
    generalize calcBlock _ _ blockid block _ = right at points ⊢
    cases points with
    | ok related => exact .ok ⟨⟨met.guard, met.tracker, met.transforms, related, met.accepted⟩, met.stamp⟩
    | error same =>
      subst same
      exact .error (.undefined _)
    | excused excused =>
      have stop : StopExcused X (.undefined _) := excused
      exact .excused stop _
  apply stored.bind
  intro f g _ _ done
  exact .ok ⟨⟨done.guard, done.tracker, done.transforms, lockstep.finish a.packet block done.frame, done.accepted⟩, done.stamp⟩

theorem AlikeStamped.keep (alike : AlikeStamped cfg old F s t) (a : AcceptedPacket) :
    AlikeStamped cfg old F (s.keep a) (t.keep a) := by
  refine ⟨⟨alike.guard, alike.tracker, alike.transforms, lockstep.append a.raw alike.frame, ?_⟩, alike.stamp⟩
  unfold Driver.keep
  rw [alike.accepted, List.append_assoc]

theorem processBlocks_agree (alike : AlikeStamped cfg old F s t)
    (side : Runs.AllSteps (Runs.Succeeds (Driver.processBlock cfg a)) (fun s => C a s.frame) (s.keep a) a.packet.blocks.zipIdx) :
    Agree (AlikeStamped cfg old F) (AlikeStop cfg old F) (StopExcused X)
      (s.processBlocks cfg a) (t.processBlocks (cfg.withPclType pclType) a) := by
  have kept := AlikeStamped.keep lockstep alike a
  have blocks : Agree (AlikeStamped cfg old F) (AlikeStop cfg old F) (StopExcused X)
      (a.packet.blocks.zipIdx.foldlM (Driver.processBlock cfg a) (s.keep a))
      (a.packet.blocks.zipIdx.foldlM (Driver.processBlock (cfg.withPclType pclType) a) (t.keep a)) :=
    foldlM_agree (processBlock_agree lockstep) kept side
  apply blocks.bind
  intro m n _ _ done
  exact .ok ⟨⟨done.guard, done.tracker, done.transforms, lockstep.label done.frame, done.accepted⟩, done.stamp⟩

/-! ### The run -/

variable (pclType) in
theorem processPacket_agree (alike : Alike cfg old F s t) (side : AtBlocks cfg C s packet) :
    Agree (Alike cfg old F) (AlikeStop cfg old F) (StopExcused X)
      (s.processPacket cfg packet) (t.processPacket (cfg.withPclType pclType) packet) := by
  have guarded := alike.guarded packet
  cases passed : (s.packetTimestampGuard.observe packet.stamp).1.accepted with
  | false =>
    have passed' : (t.packetTimestampGuard.observe packet.stamp).1.accepted = false := by rw [alike.guard, passed]
    rw [processPacket_rejected passed, processPacket_rejected passed']
    exact .ok ⟨guarded.guard, guarded.tracker, guarded.transforms, guarded.frame, guarded.accepted⟩
  | true =>
    have passed' : (t.packetTimestampGuard.observe packet.stamp).1.accepted = true := by rw [alike.guard, passed]
    cases finite : packet.stamp with
    | notFinite => rw [finite] at passed; cases passed
    | finite stamp =>
      rw [processPacket_passed finite passed, processPacket_passed finite passed']
      apply (accept_agree guarded).bind
      rintro ⟨m, outcome⟩ ⟨n, outcome'⟩ admitted - ⟨same, both⟩
      obtain rfl : outcome' = outcome := same
      cases outcome' with
      | none => exact .ok both.toAlike
      | some a =>
        exact (processBlocks_agree lockstep both (side stamp m a finite passed admitted)).imp fun done => done.toAlike

theorem processLiarPacket_agree (alike : Alike cfg old F s t) {packets : List PandarPacket}
    (side : EveryBlock cfg C s packets) :
    Agree (Alike cfg old F) (AlikeStop cfg old F) (StopExcused X)
      (processLiarPacket cfg s packets) (processLiarPacket (cfg.withPclType pclType) t packets) := by
  apply (computeTransformToTarget_agree id (fun _ _ => alike.moved) alike.transforms).bind
  intro m n started _ both
  exact foldlM_agree (f := Driver.processPacket cfg) (processPacket_agree pclType lockstep) both (side m started)

end HesaiLidar
