import HesaiLidar.Driver.Steps

/-!
# When the processing loop outlives every packet

A transform lookup that fails ends the processing function, in front of the loop or inside it. The loop goes on
over every stream of packets exactly for the frame names and lookup outcomes with which no lookup can fail.
-/

namespace HesaiLidar

/-- No transform to a target frame is asked for, and every one to the fixed frame is found. -/
def Dependable (cfg : Config) (targetFrame : String) : Prop :=
  targetFrame = "" ∧ (cfg.fixedFrame = "" ∨
    cfg.sensorFrame ≠ "" ∧ ∀ n, ∃ matrix, cfg.lookupTransform n cfg.fixedFrame cfg.sensorFrame = .found matrix)

variable {cfg : Config} {s t : Driver} {accepted : AcceptedPacket} {packet : PandarPacket} {stamp : ℚ}

/-! ### Dependable lookups -/

theorem calculateTransformMatrix_found {tf : Transforms} {target source : String} {matrix : Affine3}
    (buffer : tf.tfBuffer = true) (found : cfg.lookupTransform tf.lookups target source = .found matrix) :
    calculateTransformMatrix cfg tf target source = (.matrix matrix, { tf with lookups := tf.lookups + 1 }) := by
  simp only [calculateTransformMatrix, buffer, not_true_eq_false, if_false, found]

/-- With a fixed frame and a sensor frame every packet finds a transform buffer. -/
theorem manageTfBuffer_fixed {tf : Transforms} (fixed : cfg.fixedFrame ≠ "") (sensor : cfg.sensorFrame ≠ "") :
    manageTfBuffer cfg tf = { tf with tfBuffer := true } := by
  simp [manageTfBuffer, fixed, sensor]

theorem computeTransformToFixed_found {tf : Transforms} {matrix : Affine3} (fixed : cfg.fixedFrame ≠ "")
    (sensor : cfg.sensorFrame ≠ "") (found : cfg.lookupTransform tf.lookups cfg.fixedFrame cfg.sensorFrame = .found matrix) :
    computeTransformToFixed cfg (manageTfBuffer cfg tf) =
      .ok { tf with tfBuffer := true, lookups := tf.lookups + 1, tfMatrixToFixed := matrix } := by
  have matched : calculateTransformMatrix cfg { tf with tfBuffer := true } cfg.fixedFrame cfg.sensorFrame =
      (.matrix matrix, { tf with tfBuffer := true, lookups := tf.lookups + 1 }) :=
    calculateTransformMatrix_found rfl found
  rw [manageTfBuffer_fixed fixed sensor, computeTransformToFixed, if_neg fixed, matched]

theorem computeTransformToFixed_dependable {tf : Transforms} (dependable : Dependable cfg "")
    (untargeted : tf.targetFrame = "") :
    ∃ fixed, computeTransformToFixed cfg (manageTfBuffer cfg tf) = .ok fixed ∧ fixed.targetFrame = "" := by
  by_cases unfixed : cfg.fixedFrame = ""
  · exact ⟨manageTfBuffer cfg tf, if_pos unfixed, manageTfBuffer_untargeted untargeted⟩
  · obtain ⟨sensor, lookups⟩ := dependable.2.resolve_left unfixed
    obtain ⟨matrix, found⟩ := lookups tf.lookups
    exact ⟨_, computeTransformToFixed_found unfixed sensor found, untargeted⟩

/-- Without a buffer, or with a lookup that does not succeed, the processing function ends. -/
theorem computeTransformToFixed_missed {tf : Transforms} (fixed : cfg.fixedFrame ≠ "")
    (missed : tf.tfBuffer = false ∨ ¬ ∃ matrix, cfg.lookupTransform tf.lookups cfg.fixedFrame cfg.sensorFrame = .found matrix) :
    ∃ left, computeTransformToFixed cfg tf = .error (.returned left) ∨
      computeTransformToFixed cfg tf = .error (.uncaught left) := by
  unfold computeTransformToFixed calculateTransformMatrix
  rw [if_neg fixed]
  cases buffer : tf.tfBuffer with
  | false => exact ⟨_, .inl rfl⟩
  | true =>
    have missing := missed.resolve_left (by simp [buffer])
    rw [if_neg (not_not_intro rfl)]
    cases outcome : cfg.lookupTransform tf.lookups cfg.fixedFrame cfg.sensorFrame with
    | found matrix => exact absurd ⟨matrix, outcome⟩ missing
    | lookupException => exact ⟨_, .inl rfl⟩
    | extrapolationException => exact ⟨_, .inl rfl⟩
    | otherException => exact ⟨_, .inr rfl⟩

/-! ### One packet -/

/-- The state the loop goes on in: no target frame, and as many packets taken as are counted. -/
structure Takes (n : Nat) (t : Driver) : Prop where
  untargeted : t.transforms.targetFrame = ""
  processed : t.processedPackets = n

def IsFault : Stop Driver → Prop
  | .undefined _ => True
  | _ => False

variable {n : Nat}

theorem Takes.cutBefore {block : LidarBlock} (takes : Takes n s) :
    Runs.Outcome (Takes n) IsFault (s.cutBefore cfg accepted.packet block) := by
  unfold Driver.cutBefore
  split_ifs
  · dsimp only
    rw [computeTransformToTarget_untargeted takes.untargeted]
    exact ⟨takes.untargeted, takes.processed⟩
  · exact takes

theorem Takes.processBlock {entry : LidarBlock × Nat} (takes : Takes n s) :
    Runs.Outcome (Takes n) IsFault (s.processBlock cfg accepted entry) := by
  obtain ⟨block, blockid⟩ := entry
  refine Runs.Outcome.bind (@Takes.cutBefore cfg s accepted n block takes) fun m _ before => ?_
  cases calcBlock cfg (m.context cfg accepted) blockid block m.frame with
  | error fault => trivial
  | ok frame => exact ⟨before.untargeted, before.processed⟩

theorem Takes.processBlocks (takes : Takes n s) : Runs.Outcome (Takes n) IsFault (s.processBlocks cfg accepted) := by
  have start : Takes n (s.keep accepted) := ⟨takes.untargeted, takes.processed⟩
  have blocks : Runs.Outcome (Takes n) IsFault
      (accepted.packet.blocks.zipIdx.foldlM (Driver.processBlock cfg accepted) (s.keep accepted)) :=
    Runs.foldlM_outcome_of_allSteps (C := fun _ _ => True) (fun takes _ => takes.processBlock) start
      (Runs.allSteps_of_forall fun _ _ => trivial)
  exact Runs.Outcome.bind blocks fun m _ looped => ⟨looped.untargeted, looped.processed⟩

theorem checkSequence_processed (sequence : UInt32) (received : Double) :
    (s.checkSequence sequence received).2.processedPackets = s.processedPackets := by
  unfold Driver.checkSequence
  dsimp only
  split <;> rfl

theorem Takes.checkSequence (takes : Takes n s) (sequence : UInt32) (received : Double) :
    Takes n (s.checkSequence sequence received).2 := by
  obtain ⟨-, -, -, -, transforms⟩ := checkSequence_keeps (s := s) sequence received
  exact ⟨transforms ▸ takes.untargeted, (checkSequence_processed sequence received).trans takes.processed⟩

theorem Takes.accept (dependable : Dependable cfg "") (takes : Takes n s) :
    Runs.Outcome (fun result => Takes n result.1) IsFault (s.accept cfg stamp packet) := by
  obtain ⟨fixed, found, untargeted⟩ := computeTransformToFixed_dependable dependable takes.untargeted
  have ways := accept_cases cfg s packet stamp
  generalize s.accept cfg stamp packet = outcome at ways
  have goesOn {tf : Transforms} (same : computeTransformToFixed cfg (manageTfBuffer cfg s.transforms) = .ok tf) :
      Takes n (s.fixed stamp tf) := by
    obtain rfl := Except.ok.inj (found.symm.trans same)
    exact ⟨untargeted, takes.processed⟩
  cases ways with
  | tooLarge => trivial
  | unsupported => exact ⟨takes.untargeted, takes.processed⟩
  | lookup _ failed =>
    rw [found] at failed
    cases failed
  | parser => trivial
  | malformed _ same => exact goesOn same
  | outOfSequence _ same => exact (goesOn same).checkSequence _ _
  | inSequence _ same => exact (goesOn same).checkSequence _ _
  | unchecked _ same => exact goesOn same

theorem Takes.processPacket (dependable : Dependable cfg "") (takes : Takes n s) :
    Runs.Outcome (Takes (n + 1)) IsFault (s.processPacket cfg packet) := by
  have counted : Takes (n + 1) (s.guarded packet) := ⟨takes.untargeted, congrArg (· + 1) takes.processed⟩
  refine processPacket_outcome ⟨counted.untargeted, counted.processed⟩ (fun stamp _ => counted.accept dependable) ?_
  rintro stamp ⟨m, _ | accepted⟩ - - - admitted
  · exact admitted
  · exact admitted.processBlocks

/-- A packet the loop gives up right behind its transform lookup: of a supported size, without a header. -/
def probe : PandarPacket := ⟨.finite 0, fun _ => 0, L20.packetSize⟩

theorem accept_probe (s : Driver) :
    s.accept cfg 0 probe =
      (s.fixed 0 (manageTfBuffer cfg s.transforms)).withTransforms
        (computeTransformToFixed cfg (manageTfBuffer cfg s.transforms)) >>= fun m => .ok (m, none) := by
  have dispatched : dispatch cfg.lidarType probe.size = some .l20 := by
    unfold dispatch
    rw [if_neg (by decide), if_neg (by decide)]
    rfl
  have malformed : parse cfg .l20 ⟨probe.data, ethernetMtu⟩ probe.size = .ok none := rfl
  have copied : ∃ raw, rawPacket 0 probe = .ok raw := ⟨_, if_pos (by decide)⟩
  obtain ⟨raw, copied⟩ := copied
  unfold Driver.accept
  rw [copied]
  dsimp only
  rw [dispatched]
  dsimp only
  rw [malformed]
  rfl

/-- The guard lets every further probe pass, and the next lookup is the `n`-th. -/
structure Probed (n : Nat) (s : Driver) : Prop where
  last : s.packetTimestampGuard.lastTimestamp = 0
  tolerance : s.packetTimestampGuard.toleranceSec = kTimestampRegressionToleranceSec
  untargeted : s.transforms.targetFrame = ""
  lookups : s.transforms.lookups = n

theorem Probed.passes (probed : Probed n s) : (s.packetTimestampGuard.observe probe.stamp).1.accepted = true := by
  refine TimestampGuard.accepted_iff.mpr (.inr ?_)
  rw [probed.last, probed.tolerance, kTimestampRegressionToleranceSec]
  norm_num

theorem Probed.guarded (probed : Probed n s) : Probed n (s.guarded probe) where
  last := by
    show (s.packetTimestampGuard.observe (.finite 0)).2.lastTimestamp = 0
    have last := probed.last
    rcases TimestampGuard.observe_cases s.packetTimestampGuard 0 with first | ⟨later, late⟩ | ⟨later, near⟩
    · rw [TimestampGuard.observe_first first]
    · rw [TimestampGuard.observe_late later late]
      exact last
    · rw [TimestampGuard.observe_near later near, last]
      rfl
  tolerance := (TimestampGuard.observe_toleranceSec _).trans probed.tolerance
  untargeted := probed.untargeted
  lookups := probed.lookups

theorem Probed.processPacket (probed : Probed n s) :
    s.processPacket cfg probe = (s.guarded probe).accept cfg 0 probe >>= Driver.processAccepted cfg :=
  processPacket_passed rfl probed.passes

theorem Probed.found (probed : Probed n s) (fixed : cfg.fixedFrame ≠ "") (sensor : cfg.sensorFrame ≠ "")
    {matrix : Affine3} (found : cfg.lookupTransform n cfg.fixedFrame cfg.sensorFrame = .found matrix) :
    ∃ t, s.processPacket cfg probe = .ok t ∧ Probed (n + 1) t := by
  have guarded := probed.guarded
  rw [← guarded.lookups] at found
  rw [probed.processPacket, accept_probe, computeTransformToFixed_found fixed sensor found]
  exact ⟨_, rfl, guarded.last, guarded.tolerance, guarded.untargeted, congrArg (· + 1) guarded.lookups⟩

theorem Probed.missed (probed : Probed n s) (fixed : cfg.fixedFrame ≠ "")
    (missed : cfg.sensorFrame = "" ∧ s.transforms.tfBuffer = false ∨
      cfg.sensorFrame ≠ "" ∧ ¬ ∃ matrix, cfg.lookupTransform n cfg.fixedFrame cfg.sensorFrame = .found matrix) :
    ∃ stop, s.processPacket cfg probe = .error stop ∧ ¬ IsFault stop := by
  have fails : ∃ left, computeTransformToFixed cfg (manageTfBuffer cfg s.transforms) = .error (.returned left) ∨
      computeTransformToFixed cfg (manageTfBuffer cfg s.transforms) = .error (.uncaught left) := by
    refine computeTransformToFixed_missed fixed ?_
    rcases missed with ⟨sensorless, buffer⟩ | ⟨sensor, missing⟩
    · left
      rw [manageTfBuffer, if_pos sensorless]
      exact buffer
    · right
      rw [manageTfBuffer_fixed fixed sensor, probed.lookups]
      exact missing
  rw [probed.processPacket, accept_probe]
  obtain ⟨left, returned | uncaught⟩ := fails
  · rw [show computeTransformToFixed cfg (manageTfBuffer cfg (s.guarded probe).transforms) = _ from returned]
    exact ⟨_, rfl, id⟩
  · rw [show computeTransformToFixed cfg (manageTfBuffer cfg (s.guarded probe).transforms) = _ from uncaught]
    exact ⟨_, rfl, id⟩

end HesaiLidar
