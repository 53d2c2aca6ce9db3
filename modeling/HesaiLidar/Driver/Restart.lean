import HesaiLidar.Driver.TwoRuns
import HesaiLidar.Driver.XtPath
import HesaiLidar.Queue.Sequential

/-!
# Restart

`Start` and `Stop` on a driver with its packet queue. A restarted driver and a fresh one differ in old array
contents, old queue slots and history, none of which is read again.
-/

namespace HesaiLidar

open Lockstep

/-- The template arguments of `PacketsBuffer`. -/
def PacketsBuffer : QueueParams where
  storageCapacity := 36000
  maxDepth := 400
  storageCapacity_gt_one := by decide
  maxDepth_pos := by decide
  maxDepth_lt := by decide

/-- A driver between its threads: the queue, the processing thread's state and whether that thread runs. -/
structure Session where
  packetsBuffer : BoundedSpscQueue PandarPacket PacketsBuffer
  enableLidarProcessThr : Bool
  queueOverloadDrops : Nat
  enqueuedPackets : Nat
  maxQueueDepthObserved : Nat
  driver : Driver

def Session.pushLiDARData (s : Session) (packet : PandarPacket) : Session :=
  match s.packetsBuffer.tryPush packet with
  | none => { s with queueOverloadDrops := s.queueOverloadDrops + 1 }
  | some (packetsBuffer, queueDepth) =>
    { s with
      packetsBuffer := packetsBuffer
      enqueuedPackets := s.enqueuedPackets + 1
      maxQueueDepthObserved := if queueDepth > s.maxQueueDepthObserved then queueDepth else s.maxQueueDepthObserved }

/-- One iteration of the processing loop; an empty queue lets it sleep. -/
def Session.iterate (cfg : Config) (s : Session) : Except (Stop Driver) Session :=
  if s.enableLidarProcessThr then
    match s.packetsBuffer.tryPop with
    | none => .ok s
    | some (packetsBuffer, packet) => do
      let driver ← s.driver.processPacket cfg packet
      return { s with packetsBuffer := packetsBuffer, driver := driver }
  else .ok s

def Session.stop (s : Session) : Session :=
  { s with
    enableLidarProcessThr := false
    packetsBuffer := s.packetsBuffer.reset
    driver := { s.driver with
      packetTimestampGuard := s.driver.packetTimestampGuard.reset
      xtSequenceTracker := s.driver.xtSequenceTracker.reset } }

/-- What `Start` resets in the frame, with the fresh cloud and scan of the new processing thread. -/
def Frame.restart (frame : Frame) : Frame :=
  { frame with
    lastAzimuth := 0
    lastTimestamp := 0
    pointCloudIndex := 0
    pointCloudList := fun _ => []
    outMsg := ⟨[], 0, 0, "", true⟩
    scan := []
    stored := 0 }

/-- The new thread begins with the lookup of the target frame. -/
def Session.start (cfg : Config) (s : Session) : Except (Stop Driver) Session := do
  let s := s.stop
  let driver := { s.driver with
    packetTimestampGuard := s.driver.packetTimestampGuard.reset
    xtSequenceTracker := s.driver.xtSequenceTracker.reset
    frame := s.driver.frame.restart }
  let driver ← driver.withTransforms (computeTransformToTarget cfg driver.transforms)
  return { s with packetsBuffer := s.packetsBuffer.reset, enableLidarProcessThr := true, driver := driver }

/-- A driver as constructed: the contents of its arrays are arbitrary. -/
def Session.constructed (storage : PacketsBuffer.Index → PandarPacket) (targetFrame : String) (pointCloud : Nat → PPoint) :
    Session where
  packetsBuffer := ⟨storage, BoundedSpscQueue.zero _, BoundedSpscQueue.zero _⟩
  enableLidarProcessThr := false
  queueOverloadDrops := 0
  enqueuedPackets := 0
  maxQueueDepthObserved := 0
  driver := .start targetFrame pointCloud

inductive Session.Event where
  | push (packet : PandarPacket)
  | iterate
  | stop
  | start

def Session.step (cfg : Config) (s : Session) : Session.Event → Except (Stop Driver) Session
  | .push packet => .ok (s.pushLiDARData packet)
  | .iterate => s.iterate cfg
  | .stop => .ok s.stop
  | .start => s.start cfg

/-! ### Frames that differ in what is never read -/

/-- The second frame was left behind by a thread that had made the calls `before`. -/
structure SameFrame (structured : Bool) (before : List Callback) (f g : Frame) : Prop where
  lastAzimuth : g.lastAzimuth = f.lastAzimuth
  lastTimestamp : g.lastTimestamp = f.lastTimestamp
  index : g.pointCloudIndex = f.pointCloudIndex
  array : structured = false → ∀ k < f.pointCloudIndex, g.pointCloud k = f.pointCloud k
  rings : g.pointCloudList = f.pointCloudList
  outMsg : g.outMsg = f.outMsg
  scan : g.scan = f.scan
  callbacks : g.callbacks = before ++ f.callbacks

variable {cfg : Config} {structured : Bool} {before : List Callback} {f g : Frame}

theorem SameFrame.restart (callbacks : g.callbacks = before ++ f.callbacks) :
    SameFrame structured before f.restart g.restart where
  lastAzimuth := rfl
  lastTimestamp := rfl
  index := rfl
  array := fun _ _ => nofun
  rings := rfl
  outMsg := rfl
  scan := rfl
  callbacks := callbacks

theorem SameFrame.store (same : SameFrame structured before f g) (format : Format) (p : PPoint) :
    Agree (SameFrame structured before) Eq (fun _ : Fault => False) (format.store structured f p)
      (format.store structured g p) := by
  cases left : format.store structured f p with
  | error fault =>
    obtain ⟨rfl, full, rfl⟩ := store_error left
    cases right : format.store false g p with
    | error fault' =>
      obtain ⟨-, -, rfl⟩ := store_error right
      exact .error (by rw [same.index])
    | ok g' =>
      obtain ⟨⟨⟩, -⟩ | ⟨-, room, -⟩ := store_cases right
      rw [same.index] at room
      omega
  | ok f' =>
    cases right : format.store structured g p with
    | error fault =>
      obtain ⟨rfl, full, -⟩ := store_error right
      obtain ⟨⟨⟩, -⟩ | ⟨-, room, -⟩ := store_cases left
      rw [same.index] at full
      omega
    | ok g' =>
      have output := store_sameOutput left
      have output' := store_sameOutput right
      have fields (index : g'.pointCloudIndex = f'.pointCloudIndex) (rings : g'.pointCloudList = f'.pointCloudList)
          (array : structured = false → ∀ k < f'.pointCloudIndex, g'.pointCloud k = f'.pointCloud k) :
          SameFrame structured before f' g' :=
        { lastAzimuth := by rw [output'.lastAzimuth, output.lastAzimuth, same.lastAzimuth]
          lastTimestamp := by rw [output'.lastTimestamp, output.lastTimestamp, same.lastTimestamp]
          index := index
          array := array
          rings := rings
          outMsg := by rw [output'.outMsg, output.outMsg, same.outMsg]
          scan := by rw [output'.scan, output.scan, same.scan]
          callbacks := by rw [output'.callbacks, output.callbacks, same.callbacks] }
      apply Agree.ok
      rcases store_cases left with ⟨rfl, rfl⟩ | ⟨rfl, -, rfl⟩
      · obtain ⟨-, rfl⟩ | ⟨⟨⟩, -⟩ := store_cases right
        apply fields
        · dsimp only
          rw [same.index]
        · unfold Frame.pushBack
          dsimp only
          rw [same.rings]
        · exact nofun
      · obtain ⟨⟨⟩, -⟩ | ⟨-, -, rfl⟩ := store_cases right
        apply fields
        · dsimp only
          rw [same.index]
        · exact same.rings
        · intro _ k bound
          dsimp only at bound ⊢
          rw [same.index]
          rcases eq_or_ne k f.pointCloudIndex with rfl | other
          · rw [Function.update_self, Function.update_self]
          · rw [Function.update_of_ne other, Function.update_of_ne other]
            exact same.array rfl k (by omega)

theorem SameFrame.fill (same : SameFrame structured before f g) (chLaserNumber : Nat) :
    SameFrame structured before (f.fill structured chLaserNumber) (g.fill structured chLaserNumber) := by
  unfold Frame.fill Frame.gathered
  cases structured with
  | true =>
    simp only [if_true]
    exact { same with outMsg := by dsimp only; rw [same.outMsg, same.rings] }
  | false =>
    simp only [Bool.false_eq_true, if_false]
    refine { same with index := rfl, array := fun _ _ => nofun, outMsg := ?_ }
    dsimp only
    rw [same.outMsg, same.index]
    congr 1
    apply List.map_congr_left
    intro k bound
    exact same.array rfl k (List.mem_range.mp bound)

theorem SameFrame.clearRings (same : SameFrame structured before f g) (chLaserNumber : Nat) :
    SameFrame structured before (f.clearRings chLaserNumber) (g.clearRings chLaserNumber) :=
  { same with rings := by unfold Frame.clearRings; rw [same.rings] }

theorem SameFrame.clearOutMsg (same : SameFrame structured before f g) (chLaserNumber : Nat) :
    SameFrame structured before (f.clearOutMsg chLaserNumber) (g.clearOutMsg chLaserNumber) := by
  unfold Frame.clearOutMsg
  split
  · exact same
  · exact { same with outMsg := by dsimp only; rw [same.outMsg] }

theorem SameFrame.emit (same : SameFrame structured before f g) (chLaserNumber : Nat) :
    SameFrame structured before (emitBackMessege structured chLaserNumber f) (emitBackMessege structured chLaserNumber g) := by
  have filled := same.fill chLaserNumber
  unfold emitBackMessege
  generalize f.fill structured chLaserNumber = f' at filled ⊢
  generalize g.fill structured chLaserNumber = g' at filled ⊢
  have points : g'.outMsg.points = f'.outMsg.points := by rw [filled.outMsg]
  dsimp only
  rw [points]
  cases f'.outMsg.points with
  | nil =>
    have dropped : SameFrame structured before { f' with emptyCloudDrops := f'.emptyCloudDrops + 1 }
        { g' with emptyCloudDrops := g'.emptyCloudDrops + 1 } := { filled with }
    dsimp only
    split
    · exact dropped.clearRings chLaserNumber
    · exact dropped
  | cons first rest =>
    have called : SameFrame structured before
        { f' with callbacks := f'.callbacks ++ [⟨f'.outMsg, first.timestamp, f'.scan⟩] }
        { g' with callbacks := g'.callbacks ++ [⟨g'.outMsg, first.timestamp, g'.scan⟩] } :=
      { filled with callbacks := by dsimp only; rw [filled.callbacks, filled.outMsg, filled.scan, List.append_assoc] }
    dsimp only
    split
    · exact (called.clearRings chLaserNumber).clearOutMsg chLaserNumber
    · exact called

theorem SameFrame.cuts (same : SameFrame cfg.structured before f g) (packet : LidarPacket) (azimuth : Nat) :
    g.cuts cfg packet azimuth = f.cuts cfg packet azimuth := by
  unfold Frame.cuts Frame.gate
  rw [same.lastAzimuth, same.lastTimestamp, same.index, same.rings]

theorem SameFrame.cut (same : SameFrame cfg.structured before f g) (packet : LidarPacket) :
    SameFrame cfg.structured before (f.cut cfg packet) (g.cut cfg packet) := by
  have emitted : SameFrame cfg.structured before
      (emitBackMessege cfg.structured packet.header.chLaserNumber
        { f with scan := f.scan ++ [saveCorrectionFile cfg packet.header.chLaserNumber] })
      (emitBackMessege cfg.structured packet.header.chLaserNumber
        { g with scan := g.scan ++ [saveCorrectionFile cfg packet.header.chLaserNumber] }) := by
    apply SameFrame.emit
    exact { same with scan := by dsimp only; rw [same.scan] }
  exact { emitted with scan := rfl }

theorem SameFrame.met (same : SameFrame cfg.structured before f g) (packet : LidarPacket) (azimuth : Nat) :
    SameFrame cfg.structured before (f.met cfg packet azimuth) (g.met cfg packet azimuth) := by
  unfold Frame.met
  rw [same.cuts packet azimuth]
  split
  · exact same.cut packet
  · exact same

theorem same_lockstep (cfg : Config) (before : List Callback) :
    FrameLockstep cfg cfg (fun _ _ _ => True) (fun _ => False) (SameFrame cfg.structured before) where
  append _ same := { same with scan := by unfold Frame.append; rw [same.scan] }
  label same := { same with outMsg := by unfold Frame.label; rw [same.outMsg] }
  cuts same _ := same.cuts ..
  cut same _ _ := same.cut _
  points ctx _ same _ := by
    rw [calcBlock_eq, calcBlock_eq]
    exact foldlM_agree (fun same _ => same.store ctx.format _) (same.met ..)
      (Runs.allSteps_of_forall (C := fun _ _ => True) fun _ _ => trivial)
  finish _ _ same := { same with lastAzimuth := rfl, lastTimestamp := rfl }

/-! ### What every history keeps -/

structure Driver.Configured (cfg : Config) (s : Driver) : Prop where
  noTf : s.NoTf cfg
  toleranceSec : s.packetTimestampGuard.toleranceSec = kTimestampRegressionToleranceSec
  restartIdleSec : s.xtSequenceTracker.restartIdleSec = kXtSequenceRestartIdleSec

variable {d d' : Driver} {packet : PandarPacket}

theorem Driver.Configured.guard_reset (configured : d.Configured cfg) :
    d.packetTimestampGuard.reset = .fresh kTimestampRegressionToleranceSec := by
  unfold TimestampGuard.reset
  rw [configured.toleranceSec]
  rfl

theorem Driver.Configured.tracker_reset (configured : d.Configured cfg) :
    d.xtSequenceTracker.reset = .fresh kXtSequenceRestartIdleSec := by
  unfold XtSequenceTracker.reset
  rw [configured.restartIdleSec]
  rfl

theorem observe_restartIdleSec (tracker : XtSequenceTracker) (observation : UInt32 × Double) :
    (tracker.observe observation).2.restartIdleSec = tracker.restartIdleSec := by
  unfold XtSequenceTracker.observe
  dsimp only
  split_ifs <;> rfl

theorem checkSequence_restartIdleSec (sequence : UInt32) (received : Double) :
    (d.checkSequence sequence received).2.xtSequenceTracker.restartIdleSec = d.xtSequenceTracker.restartIdleSec := by
  rw [(checkSequence_accepted sequence received).2]
  exact observe_restartIdleSec ..

theorem accept_restartIdleSec {stamp : ℚ} {result : Option AcceptedPacket} (h : d.accept cfg stamp packet = .ok (d', result)) :
    d'.xtSequenceTracker.restartIdleSec = d.xtSequenceTracker.restartIdleSec := by
  have ways := accept_cases cfg d packet stamp
  rw [h] at ways
  cases ways with
  | unsupported => rfl
  | malformed => rfl
  | @outOfSequence tf content =>
    exact checkSequence_restartIdleSec (d := d.fixed stamp tf) content.udpSequence packet.stamp
  | @inSequence tf accepted =>
    exact checkSequence_restartIdleSec (d := d.fixed stamp tf) accepted.packet.udpSequence packet.stamp
  | unchecked => rfl

theorem Driver.Configured.processPacket (configured : d.Configured cfg) (h : d.processPacket cfg packet = .ok d') :
    d'.Configured cfg := by
  have guarded : (d.guarded packet).NoTf cfg := configured.noTf
  have toleranceSec := (processPacket_toleranceSec h).trans configured.toleranceSec
  rcases processPacket_ok h with ⟨-, rfl⟩ | ⟨stamp, -, -, admitted | ⟨m, a, admitted, blocks⟩⟩
  · exact ⟨guarded, toleranceSec, configured.restartIdleSec⟩
  · obtain ⟨-, -, -, -, noTf, -⟩ := accept_ok admitted
    exact ⟨noTf guarded, toleranceSec, (accept_restartIdleSec admitted).trans configured.restartIdleSec⟩
  · obtain ⟨-, -, -, stamped, noTf, known⟩ := accept_ok admitted
    obtain ⟨frame, -, rfl⟩ := processBlocks_noTf_ok (noTf guarded) (stamped.trans (known a rfl).stamp.symm) blocks
    exact ⟨noTf guarded, toleranceSec, (accept_restartIdleSec admitted).trans configured.restartIdleSec⟩

variable {s t : Session} {event : Session.Event}

theorem Session.iterate_cases (h : s.iterate cfg = .ok t) :
    t = s ∨ ∃ q packet driver, s.driver.processPacket cfg packet = .ok driver ∧
      t = { s with packetsBuffer := q, driver := driver } := by
  unfold Session.iterate at h
  split at h
  · split at h
    · exact .inl (Except.ok.inj h).symm
    · rename_i q packet popped
      obtain ⟨driver, processed, h⟩ := Except.bind_ok h
      exact .inr ⟨q, packet, driver, processed, (Except.ok.inj h).symm⟩
  · exact .inl (Except.ok.inj h).symm

theorem pushLiDARData_driver (packet : PandarPacket) : (s.pushLiDARData packet).driver = s.driver := by
  unfold Session.pushLiDARData
  split <;> rfl

theorem Driver.Configured.step (configured : s.driver.Configured cfg) (h : s.step cfg event = .ok t) :
    t.driver.Configured cfg := by
  cases event with
  | push packet =>
    obtain rfl := Except.ok.inj h
    rw [pushLiDARData_driver]
    exact configured
  | iterate =>
    rcases Session.iterate_cases h with rfl | ⟨q, packet, driver, processed, rfl⟩
    · exact configured
    · exact configured.processPacket processed
  | stop =>
    obtain rfl := Except.ok.inj h
    exact ⟨configured.noTf, configured.toleranceSec, configured.restartIdleSec⟩
  | start =>
    obtain ⟨driver, lookup, done⟩ := Except.bind_ok h
    obtain rfl := Except.ok.inj done
    obtain ⟨tf, computed, rfl⟩ := withTransforms_ok lookup
    have noTf : tf.targetFrame = "" := by
      have none : computeTransformToTarget cfg s.driver.transforms = .ok s.driver.transforms :=
        computeTransformToTarget_untargeted configured.noTf.2
      obtain rfl := Except.ok.inj (none.symm.trans computed)
      exact configured.noTf.2
    exact ⟨⟨configured.noTf.1, noTf⟩, configured.toleranceSec, configured.restartIdleSec⟩

/-! ### The session after a restart -/

/-- The second session has made the calls `before` and accepted the packets `old` earlier than the first. -/
structure SameSession (cfg : Config) (old : List AcceptedPacket) (before : List Callback) (s t : Session) : Prop where
  queue : ∃ xs, s.packetsBuffer.HoldsList xs ∧ t.packetsBuffer.HoldsList xs
  running : t.enableLidarProcessThr = s.enableLidarProcessThr
  driver : Alike cfg old (SameFrame cfg.structured before) s.driver t.driver

variable {old : List AcceptedPacket}

theorem SameSession.push (same : SameSession cfg old before s t) (packet : PandarPacket) :
    SameSession cfg old before (s.pushLiDARData packet) (t.pushLiDARData packet) := by
  obtain ⟨xs, holds, holds'⟩ := same.queue
  unfold Session.pushLiDARData
  by_cases full : xs.length = PacketsBuffer.maxDepth
  · rw [holds.tryPush_full full, holds'.tryPush_full full]
    exact ⟨⟨xs, holds, holds'⟩, same.running, same.driver⟩
  · obtain ⟨q, pushed, after⟩ := holds.tryPush_room full packet
    obtain ⟨q', pushed', after'⟩ := holds'.tryPush_room full packet
    rw [pushed, pushed']
    exact ⟨⟨_, after, after'⟩, same.running, same.driver⟩

theorem SameSession.iterate (same : SameSession cfg old before s t) :
    Agree (SameSession cfg old before) (AlikeStop cfg old (SameFrame cfg.structured before)) (StopExcused fun _ => False)
      (s.iterate cfg) (t.iterate cfg) := by
  unfold Session.iterate
  rw [same.running]
  split
  · obtain ⟨xs, holds, holds'⟩ := same.queue
    cases xs with
    | nil =>
      rw [holds.tryPop_empty, holds'.tryPop_empty]
      exact .ok same
    | cons packet xs =>
      obtain ⟨q, popped, after⟩ := holds.tryPop_cons
      obtain ⟨q', popped', after'⟩ := holds'.tryPop_cons
      rw [popped, popped']
      have everywhere : AtBlocks cfg (fun _ _ _ => True) s.driver packet :=
        fun _ _ _ _ _ _ => Runs.allSteps_of_forall fun _ _ => trivial
      apply (processPacket_agree cfg.pclType (same_lockstep cfg before) same.driver everywhere).bind
      intro d d' _ _ alike
      exact .ok ⟨⟨xs, after, after'⟩, rfl, alike⟩
  · exact .ok same

/-- Whatever the queues hold, sessions that agree on what `Start` keeps agree once they have started. -/
theorem start_agree (frame : SameFrame cfg.structured before s.driver.frame.restart t.driver.frame.restart)
    (guard : t.driver.packetTimestampGuard.reset = s.driver.packetTimestampGuard.reset)
    (tracker : t.driver.xtSequenceTracker.reset = s.driver.xtSequenceTracker.reset)
    (transforms : SameTransforms cfg s.driver t.driver) (accepted : t.driver.accepted = old ++ s.driver.accepted) :
    Agree (SameSession cfg old before) (AlikeStop cfg old (SameFrame cfg.structured before)) (StopExcused fun _ => False)
      (s.start cfg) (t.start cfg) := by
  have alike : Alike cfg old (SameFrame cfg.structured before)
      { s.driver with
        packetTimestampGuard := s.driver.packetTimestampGuard.reset
        xtSequenceTracker := s.driver.xtSequenceTracker.reset
        frame := s.driver.frame.restart }
      { t.driver with
        packetTimestampGuard := t.driver.packetTimestampGuard.reset
        xtSequenceTracker := t.driver.xtSequenceTracker.reset
        frame := t.driver.frame.restart } := ⟨guard, tracker, transforms, frame, accepted⟩
  apply (computeTransformToTarget_agree id (fun _ _ => alike.moved) alike.transforms).bind
  intro d d' _ _ both
  exact .ok ⟨⟨[], BoundedSpscQueue.reset_holdsList _, BoundedSpscQueue.reset_holdsList _⟩, rfl, both⟩

theorem step_agree (same : SameSession cfg old before s t) :
    Agree (SameSession cfg old before) (AlikeStop cfg old (SameFrame cfg.structured before)) (StopExcused fun _ => False)
      (s.step cfg event) (t.step cfg event) := by
  have guard : t.driver.packetTimestampGuard.reset = s.driver.packetTimestampGuard.reset := by rw [same.driver.guard]
  have tracker : t.driver.xtSequenceTracker.reset = s.driver.xtSequenceTracker.reset := by rw [same.driver.tracker]
  cases event with
  | push packet => exact .ok (same.push packet)
  | iterate => exact same.iterate
  | stop =>
    refine .ok ⟨⟨[], BoundedSpscQueue.reset_holdsList _, BoundedSpscQueue.reset_holdsList _⟩, rfl, ?_⟩
    exact ⟨guard, tracker, same.driver.transforms, same.driver.frame, same.driver.accepted⟩
  | start =>
    exact start_agree (.restart same.driver.frame.callbacks) guard tracker same.driver.transforms same.driver.accepted

theorem constructed_configured (noTf : cfg.fixedFrame = "") (storage : PacketsBuffer.Index → PandarPacket)
    (pointCloud : Nat → PPoint) : (Session.constructed storage "" pointCloud).driver.Configured cfg :=
  ⟨⟨noTf, rfl⟩, rfl, rfl⟩

/-- After `Stop` and `Start` a driver makes, behind the calls of its history, the calls a freshly constructed
and started one makes on the same events, and fails where that one fails. -/
theorem restart_leaves_no_trace (cfg : Config) (noTf : cfg.fixedFrame = "")
    (storage storage' : PacketsBuffer.Index → PandarPacket) (pointCloud pointCloud' : Nat → PPoint)
    (history later : List Session.Event) (s : Session)
    (processed : history.foldlM (Session.step cfg) (Session.constructed storage "" pointCloud) = .ok s) :
    Agree
      (fun fresh restarted => restarted.driver.frame.callbacks = s.driver.frame.callbacks ++ fresh.driver.frame.callbacks)
      (AlikeStop cfg s.driver.accepted (SameFrame cfg.structured s.driver.frame.callbacks)) (StopExcused fun _ => False)
      ((.start :: later).foldlM (Session.step cfg) (Session.constructed storage' "" pointCloud'))
      ((.stop :: .start :: later).foldlM (Session.step cfg) s) := by
  have configured : s.driver.Configured cfg := (Runs.run_of_foldlM_ok processed).invariant
    (I := fun s => s.driver.Configured cfg) Driver.Configured.step (constructed_configured noTf storage pointCloud)
  have started : Agree (SameSession cfg s.driver.accepted s.driver.frame.callbacks)
      (AlikeStop cfg s.driver.accepted (SameFrame cfg.structured s.driver.frame.callbacks)) (StopExcused fun _ => False)
      ((Session.constructed storage' "" pointCloud').start cfg) (s.stop.start cfg) := by
    apply start_agree
    · exact .restart (List.append_nil _).symm
    · exact configured.guard_reset
    · exact configured.tracker_reset
    · exact .inr ⟨⟨noTf, rfl⟩, configured.noTf⟩
    · exact (List.append_nil _).symm
  have free (s : Session) : Runs.AllSteps (Runs.Succeeds (Session.step cfg)) (fun _ _ => True) s later :=
    Runs.allSteps_of_forall fun _ _ => trivial
  have run := started.bind fun _ _ same =>
    foldlM_agree (f := Session.step cfg) (g := Session.step cfg) (fun same _ => step_agree same) same (free _)
  exact run.imp fun same => same.driver.frame.callbacks

/-- Stopped with eight points of a frame collected and a packet still in the queue. -/
theorem restart_leaves_no_trace_interrupted :
    let cfg := Config.plain .pandarXT16 0 0
    let fresh := Session.constructed (fun _ => ⟨.notFinite, fun _ => 0, 0⟩) "" fun _ => ⟨0, 0, 0, 0, 0, 0⟩
    let history := [.start, .push (xt16Packet 10 0 fun b => 100 + b), .push (xt16Packet 11 1 fun b => 200 + b), .iterate]
    ∃ s, history.foldlM (Session.step cfg) fresh = .ok s ∧
      s.driver.frame.pointCloudIndex = 8 ∧ s.packetsBuffer.approximateSize = 1 ∧
      ∀ later, Agree
        (fun fresh restarted => restarted.driver.frame.callbacks = s.driver.frame.callbacks ++ fresh.driver.frame.callbacks)
        (AlikeStop cfg s.driver.accepted (SameFrame cfg.structured s.driver.frame.callbacks)) (StopExcused fun _ => False)
        ((.start :: later).foldlM (Session.step cfg) fresh) ((.stop :: .start :: later).foldlM (Session.step cfg) s) := by
  intro cfg fresh history
  have interrupted : (history.foldlM (Session.step cfg) fresh).toOption.map
      (fun s => (s.driver.frame.pointCloudIndex, s.packetsBuffer.approximateSize)) = some (8, 1) := by decide +kernel
  obtain ⟨s, run, counts⟩ := Except.ok_of_map interrupted
  obtain ⟨index, size⟩ := Prod.mk.inj counts
  exact ⟨s, run, index, size, fun later => restart_leaves_no_trace cfg rfl _ _ _ _ history later s run⟩

end HesaiLidar
