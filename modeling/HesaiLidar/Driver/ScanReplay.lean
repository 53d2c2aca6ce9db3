import HesaiLidar.Driver.Ingest
import HesaiLidar.Driver.Restart
import HesaiLidar.Queue.Refusals

/-!
# Replaying scans

`PushScanPacket` hands the LiDAR packets of a scan to the bounded queue in one loop and ignores whether the
queue takes them.
-/

namespace HesaiLidar

open BoundedSpscQueue

/-! ### What a driver publishes -/

def LidarMessage (cfg : Config) (msg : PandarPacketMsg) : Prop :=
  ∃ packet stamp a, Admitted cfg packet stamp a ∧ a.raw = msg

/-- LiDAR messages and one correction packet behind them. -/
def Publishable (cfg : Config) (scan : PandarScan) : Prop :=
  ∃ messages laserNumber, scan = messages ++ [saveCorrectionFile cfg laserNumber] ∧
    ∀ msg ∈ messages, LidarMessage cfg msg

def lastFrame : Except (Stop Driver) Driver → Option Frame
  | .ok s => some s.frame
  | .error (.returned s) => some s.frame
  | .error (.uncaught s) => some s.frame
  | .error (.undefined _) => none

def PublishedScan (cfg : Config) (scan : PandarScan) : Prop :=
  ∃ targetFrame pointCloud popped frame,
    lastFrame (processLiarPacket cfg (.start targetFrame pointCloud) popped) = some frame ∧
      ∃ c ∈ frame.callbacks, c.scan = scan

variable {cfg : Config} {s t : Driver} {f g : Frame} {a : AcceptedPacket} {packet : PandarPacket} {msg : PandarPacketMsg}

theorem cut_callbacks {packet : LidarPacket} {c : Callback} (member : c ∈ (f.cut cfg packet).callbacks) :
    c ∈ f.callbacks ∨ c.scan = f.scan ++ [saveCorrectionFile cfg packet.header.chLaserNumber] := by
  unfold Frame.cut at member
  dsimp only at member
  rw [emitBackMessege_callbacks] at member
  rcases List.mem_append.mp member with old | new
  · exact .inl old
  · right
    split at new
    · cases new
    · rw [List.mem_singleton.mp new]

def Pending (cfg : Config) (f : Frame) : Prop := ∀ msg ∈ f.scan, LidarMessage cfg msg

def AllPublishable (cfg : Config) (f : Frame) : Prop := ∀ c ∈ f.callbacks, Publishable cfg c.scan

theorem AllPublishable.cut {packet : LidarPacket} (all : AllPublishable cfg f) (pending : Pending cfg f) :
    AllPublishable cfg (f.cut cfg packet) := by
  intro c member
  rcases cut_callbacks member with old | new
  · exact all c old
  · exact ⟨f.scan, _, new, pending⟩

theorem Pending.block {ctx : PacketContext} {entry : LidarBlock × Nat} (pending : Pending cfg f)
    (h : f.processBlock cfg ctx entry = .ok g) : Pending cfg g := by
  obtain ⟨m, points, done⟩ := Except.bind_ok h
  obtain rfl := Except.ok.inj done
  have same := calcBlock_sameOutput points
  intro msg member
  rw [show (m.finishBlock ctx.packet entry.1).scan = m.scan from rfl, same.scan] at member
  split at member
  · cases member
  · exact pending msg member

theorem AllPublishable.block {ctx : PacketContext} {entry : LidarBlock × Nat} (all : AllPublishable cfg f)
    (pending : Pending cfg f) (h : f.processBlock cfg ctx entry = .ok g) : AllPublishable cfg g := by
  obtain ⟨m, points, done⟩ := Except.bind_ok h
  obtain rfl := Except.ok.inj done
  have same := calcBlock_sameOutput points
  intro c member
  rw [show (m.finishBlock ctx.packet entry.1).callbacks = m.callbacks from rfl, same.callbacks] at member
  split at member
  · exact all.cut pending c member
  · exact all c member

/-- Where only LiDAR messages wait, only publishable scans are handed over. -/
theorem publishable_invariant (cfg : Config) :
    FrameInvariant cfg (fun _ f _ => Pending cfg f) (AllPublishable cfg) where
  append := fun _ all => all
  label := fun all => all
  cut := fun all pending _ => all.cut pending
  block := fun _ _ all pending step => all.block pending step

theorem Pending.driverBlock {entry : LidarBlock × Nat} (pending : Pending cfg s.frame)
    (h : s.processBlock cfg a entry = .ok t) : Pending cfg t.frame := by
  obtain ⟨ctx, -, -, -, step, -⟩ := processBlock_ok h
  exact pending.block step

theorem Pending.keep {stamp : ℚ} (pending : Pending cfg s.frame)
    (h : (s.guarded packet).accept cfg stamp packet = .ok (t, some a)) : Pending cfg (t.keep a).frame := by
  obtain ⟨frame, -, -, -, -, known⟩ := accept_ok h
  intro msg member
  rw [show (t.keep a).frame.scan = t.frame.scan ++ [a.raw] from rfl, frame] at member
  rcases List.mem_append.mp member with old | new
  · exact pending msg old
  · rw [List.mem_singleton.mp new]
    exact ⟨packet, stamp, a, known a rfl, rfl⟩

theorem Pending.popped (pending : Pending cfg s.frame) (h : s.processPacket cfg packet = .ok t) : Pending cfg t.frame := by
  rcases processPacket_ok h with ⟨-, rfl⟩ | ⟨stamp, -, -, admitted | ⟨m, a, admitted, blocks⟩⟩
  · exact pending
  · rw [(accept_ok admitted).1]
    exact pending
  · obtain ⟨n, loop, labelled⟩ := Except.bind_ok blocks
    obtain rfl := Except.ok.inj labelled
    have kept := pending.keep admitted
    exact (Runs.run_of_foldlM_ok loop).invariant (I := fun n => Pending cfg n.frame) Pending.driverBlock kept

theorem everyBlock_pending (pending : Pending cfg s.frame) (popped : List PandarPacket) :
    EveryBlock cfg (fun _ f _ => Pending cfg f) s popped := by
  intro m started
  obtain ⟨tf, -, rfl⟩ := withTransforms_ok started
  have free : Runs.AllSteps (Runs.Succeeds (Driver.processPacket cfg)) (fun _ _ => True) { s with transforms := tf } popped :=
    Runs.allSteps_of_forall fun _ _ => trivial
  refine free.strengthen (I := fun s => Pending cfg s.frame) (fun pending _ step => pending.popped step) ?_ pending
  intro s packet pending _ stamp m a finite passed admitted
  have free : Runs.AllSteps (Runs.Succeeds (Driver.processBlock cfg a)) (fun _ _ => True) (m.keep a) a.packet.blocks.zipIdx :=
    Runs.allSteps_of_forall fun _ _ => trivial
  exact free.strengthen (I := fun s => Pending cfg s.frame) (fun pending _ step => pending.driverBlock step)
    (fun pending _ => pending) (pending.keep admitted)

theorem publishable_of_published {scan : PandarScan} (published : PublishedScan cfg scan) : Publishable cfg scan := by
  obtain ⟨targetFrame, pointCloud, popped, frame, last, c, member, rfl⟩ := published
  have start : Pending cfg (Driver.start targetFrame pointCloud).frame := fun _ => nofun
  have outcome := (publishable_invariant cfg).runOutcome (s := .start targetFrame pointCloud) (fun _ => nofun)
    (everyBlock_pending start popped)
  have all : AllPublishable cfg frame := by
    rcases result : processLiarPacket cfg (.start targetFrame pointCloud) popped with (s | s | fault) | s
    all_goals
      rw [result] at last outcome
      cases last
    · exact outcome
    · exact outcome
    · exact outcome
  exact all c member

theorem dispatch_size {lidarType : LidarType} {size : Nat} {format : Format}
    (dispatched : dispatch lidarType size = some format) : 2 ≤ size := by
  by_contra short
  have dropped : dispatch lidarType size = none := by
    obtain rfl | rfl : size = 0 ∨ size = 1 := by omega
    all_goals cases lidarType <;> rfl
  rw [dropped] at dispatched
  cases dispatched

/-- What a driver publishes can be replayed without an access out of bounds. -/
theorem Publishable.fits {scan : PandarScan} (publishable : Publishable cfg scan) (member : msg ∈ scan) : msg.Fits := by
  obtain ⟨messages, laserNumber, rfl, lidar⟩ := publishable
  rcases List.mem_append.mp member with message | correction
  · obtain ⟨packet, stamp, a, admitted, rfl⟩ := lidar msg message
    have copied := admitted.raw
    unfold rawPacket at copied
    split at copied
    · rename_i small
      obtain ⟨rest, size⟩ := Nat.exists_eq_add_of_le (dispatch_size admitted.format)
      rw [← Except.ok.inj copied]
      refine ⟨⟨packet.data 0, packet.data 1 :: (List.range rest).map fun k => packet.data (2 + k), ?_, fun _ => nofun⟩, ?_⟩
      · simp [size, List.range_add, List.range_succ]
      · intro _
        exact ⟨by simp, small⟩
    · cases copied
  · obtain rfl := List.mem_singleton.mp correction
    refine ⟨⟨_, _, rfl, fun _ => nofun⟩, ?_⟩
    rw [saveCorrectionFile_isCorrection]
    exact nofun

/-! ### Into the queue -/

/-- Replayed scans are handed over in recorded order with their bytes; the queue takes a sublist, which is
everything exactly when no call finds `MaxDepth` packets; and everything gets through under every schedule
exactly when there are at most `MaxDepth` packets. -/
theorem scans_enqueued (cfg : Config) (scans : List PandarScan) (published : ∀ scan ∈ scans, PublishedScan cfg scan)
    (memory : Nat → UInt8) :
    ∃ handed, pushScanPacket memory scans.flatten = .ok handed ∧
      List.Forall₂ Carries handed (scans.flatten.filterMap PandarPacketMsg.payload) ∧
      (∀ (storage : PacketsBuffer.Index → PandarPacket) (actions : List (Action PandarPacket))
          (t : Threads PandarPacket PacketsBuffer),
        actions.foldlM step (.start storage) = some t → offers actions = handed → t.producer = .idle →
        t.pushed.Sublist handed ∧ (t.pushed = handed ↔ refusals (.start storage) actions = [])) ∧
      ((∀ (storage : PacketsBuffer.Index → PandarPacket) (actions : List (Action PandarPacket))
          (t : Threads PandarPacket PacketsBuffer),
        actions.foldlM step (.start storage) = some t → offers actions = handed → t.producer = .idle →
        t.pushed = handed) ↔ handed.length ≤ PacketsBuffer.maxDepth) := by
  have fits : ∀ msg ∈ scans.flatten, msg.Fits := by
    intro msg member
    obtain ⟨scan, known, member⟩ := List.mem_flatten.mp member
    exact (publishable_of_published (published scan known)).fits member
  obtain ⟨handed, pushed, carries⟩ := pushScanPacket_ok memory fits
  refine ⟨handed, pushed, carries, ?_, lossless_iff handed⟩
  intro storage actions t run offered idle
  rw [← offered]
  exact ⟨pushed_sublist_offers run idle, pushed_eq_offers_iff run idle⟩

/-- A Pandar64 packet; each block it announces has one return. -/
def pandar64Packet (blocks azimuth : Nat) : PandarPacket where
  stamp := .finite 10
  size := L64.packetSize6
  data := layoutL64.payload 64 blocks (fun _ => azimuth) fun _ unit => unit = 0

/-- A revolution of 401 packets; the parser also accepts those that announce no block. -/
def longRevolution : List PandarPacket := pandar64Packet 6 35999 :: List.replicate 399 (pandar64Packet 0 0) ++ [pandar64Packet 6 0]

theorem longRevolution_published :
    ∃ scan, PublishedScan (.plain .pandar64 0 0) scan ∧ (scan.filterMap PandarPacketMsg.payload).length = 401 := by
  have emitted : (processLiarPacket (.plain .pandar64 0 0) (.start "" fun _ => ⟨0, 0, 0, 0, 0, 0⟩) longRevolution).toOption.map
      (fun s => s.frame.callbacks.map fun c => (c.scan.filterMap PandarPacketMsg.payload).length) = some [401] := by
    decide +kernel
  obtain ⟨s, run, sizes⟩ := Except.ok_of_map emitted
  obtain ⟨c, calls, packets⟩ := List.map_eq_singleton_iff.mp sizes
  refine ⟨c.scan, ⟨"", fun _ => ⟨0, 0, 0, 0, 0, 0⟩, longRevolution, s.frame, by rw [run]; rfl, c, ?_, rfl⟩, packets⟩
  rw [calls]
  exact List.mem_singleton_self c

theorem scans_enqueued_long_revolution :
    ∃ scan, PublishedScan (.plain .pandar64 0 0) scan ∧
      ∃ handed, pushScanPacket (fun _ => 0) [scan].flatten = .ok handed ∧
        List.Forall₂ Carries handed ([scan].flatten.filterMap PandarPacketMsg.payload) := by
  obtain ⟨scan, published, -⟩ := longRevolution_published
  have known : ∀ other ∈ [scan], PublishedScan (.plain .pandar64 0 0) other := by simpa using published
  obtain ⟨handed, pushed, carries, -⟩ := scans_enqueued (.plain .pandar64 0 0) [scan] known fun _ => 0
  exact ⟨scan, published, handed, pushed, carries⟩

/-- One scan of 401 packets does not fit when the processing thread does not run. -/
theorem long_revolution_loses :
    ¬ ∀ (cfg : Config) (scans : List PandarScan) (memory : Nat → UInt8) (handed : List PandarPacket),
      (∀ scan ∈ scans, PublishedScan cfg scan) → pushScanPacket memory scans.flatten = .ok handed →
      ∀ (storage : PacketsBuffer.Index → PandarPacket) (actions : List (Action PandarPacket))
        (t : Threads PandarPacket PacketsBuffer),
      actions.foldlM step (.start storage) = some t → offers actions = handed → t.producer = .idle →
      t.pushed = handed := by
  intro lossless
  obtain ⟨scan, published, packets⟩ := longRevolution_published
  have fits : ∀ msg ∈ [scan].flatten, msg.Fits := by
    intro msg member
    exact (publishable_of_published published).fits (by simpa using member)
  obtain ⟨handed, pushed, carries⟩ := pushScanPacket_ok (fun _ => 0) fits
  have all := lossless (.plain .pandar64 0 0) [scan] (fun _ => 0) handed (by simpa using published) pushed
  have few := (lossless_iff handed).mp all
  rw [carries.length_eq, List.flatten_singleton, packets] at few
  exact absurd few (by decide)

end HesaiLidar
