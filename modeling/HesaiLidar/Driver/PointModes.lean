import HesaiLidar.Driver.PointIndex
import HesaiLidar.Driver.TwoRuns
import HesaiLidar.Driver.XtPath

/-!
# The two point modes

A structured and an unstructured run on the same packets. Both buffer the same points, but the emission gate
looks at the point index and the first ring only. The modes agree as long as the gate tells whether anything
is buffered and the lasers of the boundary packet cover all buffered rings.
-/

namespace HesaiLidar

open Lockstep

def PointCloud.sortedByRing (cloud : PPointCloud) : PPointCloud :=
  { cloud with points := Buckets.sorted PointXYZIT.ring cloud.points }

/-- A call of the structured run and the call of the unstructured run it corresponds to. -/
def Callback.SortedFrom (c d : Callback) : Prop := c.cloud = d.cloud.sortedByRing ∧ c.scan = d.scan

/-- The structured frame `f` and the unstructured frame `g` hold the same points and have made the same calls. -/
structure Modes (f g : Frame) : Prop where
  waiting : ∃ waiting, f.Holds true waiting ∧ g.Holds false waiting
  lastAzimuth : g.lastAzimuth = f.lastAzimuth
  lastTimestamp : g.lastTimestamp = f.lastTimestamp
  scan : g.scan = f.scan
  frameId : g.outMsg.frameId = f.outMsg.frameId
  isDense : g.outMsg.isDense = f.outMsg.isDense
  callbacks : List.Forall₂ Callback.SortedFrom f.callbacks g.callbacks

/-- At a boundary the structured gate tells whether any ring holds a point, and no ring beyond the lasers of
the packet does; and in the unstructured array there is room for the points of the block. -/
structure GateSeesAll (cfg : Config) (a : AcceptedPacket) (f : Frame) (entry : LidarBlock × Nat) : Prop where
  gate : cfg.pclCallback = true →
    boundary cfg.startAngle f.lastAzimuth entry.1.azimuth f.lastTimestamp a.packet.timestampPoint = true →
      (f.gate cfg = true ↔ ∃ r, f.pointCloudList r ≠ []) ∧
      ∀ r, a.packet.header.chLaserNumber ≤ r → f.pointCloudList r = []
  room : ∀ waiting, f.Holds true waiting →
    (if f.cuts cfg a.packet entry.1.azimuth then 0 else waiting.length) + entry.1.validUnits ≤ maxPointCloudNum

/-! ### The calls of a run -/

def Frame.calls (cfg : Config) (packet : LidarPacket) (azimuth : Nat) (frame : Frame) : Bool :=
  (frame.met cfg packet azimuth).callbacks.length ≠ frame.callbacks.length

/-- For each block of a packet, whether it makes a call. -/
def Driver.callsIn (cfg : Config) (s : Driver) (packet : PandarPacket) : List Bool :=
  match packet.stamp with
  | .notFinite => []
  | .finite stamp =>
    if (s.packetTimestampGuard.observe packet.stamp).1.accepted then
      match (s.guarded packet).accept cfg stamp packet with
      | .ok (m, some a) =>
        Runs.trace (Driver.processBlock cfg a) (fun s entry => s.frame.calls cfg a.packet entry.1.azimuth) (m.keep a)
          a.packet.blocks.zipIdx
      | .ok (_, none) => []
      | .error _ => []
    else []

/-- The blocks of each packet that make calls. -/
def callsAtBlocks (cfg : Config) (s : Driver) (packets : List PandarPacket) : List (List Bool) :=
  match s.withTransforms (computeTransformToTarget cfg s.transforms) with
  | .ok m => Runs.trace (Driver.processPacket cfg) (Driver.callsIn cfg) m packets
  | .error _ => []

def CallsAgree (f g : Frame) : Prop := List.Forall₂ Callback.SortedFrom f.callbacks g.callbacks

/-- A structured and an unstructured run from `Start` make their calls at the same blocks, with clouds that
differ in the order of their points only, and end alike. -/
structure PointModesAgree (cfg : Config) (targetFrame : String) (pointCloud pointCloud' : Nat → PPoint)
    (packets : List PandarPacket) : Prop where
  blocks : callsAtBlocks (cfg.withPclType 0) (Driver.start targetFrame pointCloud') packets =
    callsAtBlocks cfg (Driver.start targetFrame pointCloud) packets
  outcome : Agree (Alike cfg [] CallsAgree) (AlikeStop cfg [] CallsAgree) (StopExcused fun _ => False)
    (processLiarPacket cfg (Driver.start targetFrame pointCloud) packets)
    (processLiarPacket (cfg.withPclType 0) (Driver.start targetFrame pointCloud') packets)

variable {cfg : Config} {f g : Frame} {waiting : List PPoint} {a : AcceptedPacket} {entry : LidarBlock × Nat}

/-! ### The gate -/

theorem Frame.Holds.some_ring (holds : f.Holds true waiting) : (∃ r, f.pointCloudList r ≠ []) ↔ waiting ≠ [] := by
  constructor
  · rintro ⟨r, points⟩ rfl
    exact points (holds.rings r)
  · intro nonempty
    obtain ⟨p, member⟩ := List.exists_mem_of_ne_nil _ nonempty
    refine ⟨p.ring, ?_⟩
    rw [holds.rings]
    apply List.ne_nil_of_mem (a := p)
    simpa [Buckets.bucket] using member

theorem Frame.Holds.rings_lt {lasers : Nat} (holds : f.Holds true waiting)
    (covered : ∀ r, lasers ≤ r → f.pointCloudList r = []) : ∀ p ∈ waiting, p.ring < lasers := by
  intro p member
  by_contra beyond
  have empty := covered p.ring (Nat.le_of_not_lt beyond)
  rw [holds.rings] at empty
  have inside : p ∈ Buckets.bucket PointXYZIT.ring p.ring waiting := by simpa [Buckets.bucket] using member
  rw [if_pos rfl] at empty
  rw [empty] at inside
  cases inside

theorem Frame.Holds.gate_unstructured (holds : f.Holds false waiting) (callback : cfg.pclCallback = true) :
    f.gate cfg = true ↔ waiting ≠ [] := by
  unfold Frame.gate
  rw [callback, holds.index rfl, holds.rings]
  simp [List.length_pos_iff]

theorem Modes.cuts (modes : Modes f g) (sees : GateSeesAll cfg a f entry) :
    g.cuts (cfg.withPclType 0) a.packet entry.1.azimuth = f.cuts cfg a.packet entry.1.azimuth := by
  obtain ⟨waiting, holds, holds'⟩ := modes.waiting
  unfold Frame.cuts
  rw [modes.lastAzimuth, modes.lastTimestamp, show (cfg.withPclType 0).startAngle = cfg.startAngle from rfl]
  cases reached : boundary cfg.startAngle f.lastAzimuth entry.1.azimuth f.lastTimestamp a.packet.timestampPoint with
  | false => rfl
  | true =>
    rw [Bool.true_and, Bool.true_and]
    cases callback : cfg.pclCallback with
    | false =>
      unfold Frame.gate
      rw [show (cfg.withPclType 0).pclCallback = cfg.pclCallback from rfl, callback]
      rfl
    | true =>
      have gate : g.gate (cfg.withPclType 0) = true ↔ waiting ≠ [] := holds'.gate_unstructured callback
      rw [Bool.eq_iff_iff, gate, (sees.gate callback reached).1, holds.some_ring]

/-! ### Emission -/

theorem emitBackMessege_label (structured : Bool) (lasers : Nat) :
    (emitBackMessege structured lasers f).outMsg.frameId = f.outMsg.frameId ∧
      (emitBackMessege structured lasers f).outMsg.isDense = f.outMsg.isDense := by
  have kept : (f.fill structured lasers).outMsg.frameId = f.outMsg.frameId ∧
      (f.fill structured lasers).outMsg.isDense = f.outMsg.isDense := by
    unfold Frame.fill PointCloud.pushAll
    split_ifs <;> exact ⟨rfl, rfl⟩
  unfold emitBackMessege Frame.clearOutMsg
  dsimp only
  split <;> split_ifs <;> exact kept

theorem fill_structured {lasers : Nat} (holds : f.Holds true waiting) (nonempty : waiting ≠ [])
    (covered : ∀ p ∈ waiting, p.ring < lasers) :
    (f.fill true lasers).outMsg =
      { f.outMsg with points := Buckets.sorted PointXYZIT.ring waiting, width := .ofNat waiting.length, height := 1 } := by
  have gathered : f.gathered lasers = Buckets.sorted PointXYZIT.ring waiting :=
    holds.gathered.trans (Buckets.gather_eq_sorted covered)
  have length : (Buckets.sorted PointXYZIT.ring waiting).length = waiting.length := List.length_mergeSort _
  have some : (Buckets.sorted PointXYZIT.ring waiting).isEmpty = false := by
    rw [← Bool.not_eq_true, List.isEmpty_iff_length_eq_zero, length, List.length_eq_zero_iff]
    exact nonempty
  unfold Frame.fill PointCloud.pushAll
  rw [gathered, some, holds.outMsg rfl, List.nil_append, length]
  rfl

theorem fill_unstructured (lasers : Nat) (holds : g.Holds false waiting) :
    (g.fill false lasers).outMsg = { g.outMsg with points := waiting, width := .ofNat waiting.length, height := 1 } := by
  unfold Frame.fill PointCloud.assign
  rw [holds.index rfl, holds.array rfl]
  rfl

/-- Where the rings are covered, both emissions hand over the same points. -/
theorem Modes.emit (modes : Modes f g) {lasers : Nat} (holds : f.Holds true waiting) (holds' : g.Holds false waiting)
    (nonempty : waiting ≠ []) (covered : ∀ p ∈ waiting, p.ring < lasers) :
    Modes (emitBackMessege true lasers f) (emitBackMessege false lasers g) := by
  have emits := emitBackMessege_spec lasers holds
  have emits' := emitBackMessege_spec lasers holds'
  have label := emitBackMessege_label (f := f) true lasers
  have label' := emitBackMessege_label (f := g) false lasers
  have taken : leftover true lasers waiting = [] := by
    apply List.filter_eq_nil_iff.mpr
    intro p member
    have := covered p member
    simp only [decide_eq_true_eq]
    omega
  refine
    { waiting := ⟨[], taken ▸ emits.holds, emits'.holds⟩
      lastAzimuth := by rw [emits.lastAzimuth, emits'.lastAzimuth, modes.lastAzimuth]
      lastTimestamp := by rw [emits.lastTimestamp, emits'.lastTimestamp, modes.lastTimestamp]
      scan := by rw [emits.scan, emits'.scan, modes.scan]
      frameId := by rw [label.1, label'.1, modes.frameId]
      isDense := by rw [label.2, label'.2, modes.isDense]
      callbacks := ?_ }
  have cloud := fill_structured holds nonempty covered
  have cloud' := fill_unstructured lasers holds'
  have sorted : (f.fill true lasers).outMsg = (g.fill false lasers).outMsg.sortedByRing := by
    rw [cloud, cloud']
    unfold PointCloud.sortedByRing
    dsimp only
    rw [modes.frameId, modes.isDense]
  have length : (Buckets.sorted PointXYZIT.ring waiting).length = waiting.length := List.length_mergeSort _
  have points : (f.fill true lasers).outMsg.points = Buckets.sorted PointXYZIT.ring waiting := by rw [cloud]
  have points' : (g.fill false lasers).outMsg.points = waiting := by rw [cloud']
  obtain ⟨first, rest, split⟩ : ∃ first rest, Buckets.sorted PointXYZIT.ring waiting = first :: rest := by
    apply List.exists_cons_of_ne_nil
    rwa [← List.length_pos_iff, length, List.length_pos_iff]
  obtain ⟨first', rest', split'⟩ := List.exists_cons_of_ne_nil nonempty
  rw [emitBackMessege_callbacks, emitBackMessege_callbacks, points, points', split, split']
  exact List.rel_append modes.callbacks (.cons ⟨sorted, modes.scan.symm⟩ .nil)

theorem Modes.rescan (modes : Modes f g) (scan : PandarScan) : Modes { f with scan := scan } { g with scan := scan } := by
  obtain ⟨waiting, holds, holds'⟩ := modes.waiting
  exact { modes with
    waiting := ⟨waiting, ⟨holds.index, holds.array, holds.rings, holds.outMsg⟩,
      ⟨holds'.index, holds'.array, holds'.rings, holds'.outMsg⟩⟩
    scan := rfl }

theorem Modes.cut (modes : Modes f g) (structured : cfg.structured = true) (sees : GateSeesAll cfg a f entry)
    (cuts : f.cuts cfg a.packet entry.1.azimuth = true) : Modes (f.cut cfg a.packet) (g.cut (cfg.withPclType 0) a.packet) := by
  obtain ⟨reached, open'⟩ := Bool.and_eq_true_iff.mp cuts
  obtain ⟨callback, -⟩ := Bool.and_eq_true_iff.mp open'
  obtain ⟨gate, covered⟩ := sees.gate callback reached
  have appended := modes.rescan (f.scan ++ [saveCorrectionFile cfg a.packet.header.chLaserNumber])
  obtain ⟨waiting, holds, holds'⟩ := appended.waiting
  have emitted := appended.emit holds holds' (holds.some_ring.mp (gate.mp open')) (holds.rings_lt covered)
  unfold Frame.cut
  rw [structured, modes.scan]
  exact emitted.rescan []

theorem Modes.met (modes : Modes f g) (structured : cfg.structured = true) (sees : GateSeesAll cfg a f entry) :
    Modes (f.met cfg a.packet entry.1.azimuth) (g.met (cfg.withPclType 0) a.packet entry.1.azimuth) := by
  unfold Frame.met
  rw [modes.cuts sees]
  split
  · rename_i cuts
    exact modes.cut structured sees cuts
  · exact modes

/-! ### Storing -/

theorem Modes.points (modes : Modes f g) (structured : cfg.structured = true) (sees : GateSeesAll cfg a f entry)
    (ctx : PacketContext) :
    Agree Modes Eq (fun _ => False) (calcBlock cfg ctx entry.2 entry.1 (f.met cfg a.packet entry.1.azimuth))
      (calcBlock (cfg.withPclType 0) ctx entry.2 entry.1 (g.met (cfg.withPclType 0) a.packet entry.1.azimuth)) := by
  have met := modes.met structured sees
  have room : (g.met (cfg.withPclType 0) a.packet entry.1.azimuth).pointCloudIndex + entry.1.validUnits ≤ maxPointCloudNum := by
    obtain ⟨waiting, holds, holds'⟩ := modes.waiting
    rw [met_index rfl, modes.cuts sees, holds'.index rfl]
    exact sees.room waiting holds
  obtain ⟨waiting, holds, holds'⟩ := met.waiting
  generalize f.met cfg a.packet entry.1.azimuth = m at met holds ⊢
  generalize g.met (cfg.withPclType 0) a.packet entry.1.azimuth = n at met room holds' ⊢
  obtain ⟨m', stores, -⟩ := storeAll_structured (f := m) ctx.format (blockPoints cfg ctx entry.2 entry.1)
  have fits : n.pointCloudIndex + (blockPoints (cfg.withPclType 0) ctx entry.2 entry.1).length ≤ maxPointCloudNum := by
    rwa [length_blockPoints]
  obtain ⟨n', stores', -⟩ := storeAll_fits ctx.format fits
  have left : calcBlock cfg ctx entry.2 entry.1 m = .ok m' := by rw [calcBlock_eq, structured, stores]
  have right : calcBlock (cfg.withPclType 0) ctx entry.2 entry.1 n = .ok n' := by
    rw [calcBlock_eq]
    exact stores'
  have held : m.Holds cfg.structured waiting := by rwa [structured]
  have after := calcBlock_ok held left
  have after' := calcBlock_ok (show n.Holds (cfg.withPclType 0).structured _ from holds') right
  rw [structured] at after
  rw [left, right]
  exact .ok
    { waiting := ⟨_, after.1, after'.1⟩
      lastAzimuth := by rw [after.2.lastAzimuth, after'.2.lastAzimuth, met.lastAzimuth]
      lastTimestamp := by rw [after.2.lastTimestamp, after'.2.lastTimestamp, met.lastTimestamp]
      scan := by rw [after.2.scan, after'.2.scan, met.scan]
      frameId := by rw [after.2.outMsg, after'.2.outMsg, met.frameId]
      isDense := by rw [after.2.outMsg, after'.2.outMsg, met.isDense]
      callbacks := by rw [after.2.callbacks, after'.2.callbacks]; exact met.callbacks }

theorem modes_lockstep (structured : cfg.structured = true) :
    FrameLockstep cfg (cfg.withPclType 0) (GateSeesAll cfg) (fun _ => False) Modes where
  append {f g} raw modes := by
    unfold Frame.append
    rw [modes.scan]
    exact modes.rescan _
  label {f g} modes := by
    obtain ⟨waiting, holds, holds'⟩ := modes.waiting
    exact { modes with
      waiting := ⟨waiting, ⟨holds.index, holds.array, holds.rings, holds.outMsg⟩,
        ⟨holds'.index, holds'.array, holds'.rings, holds'.outMsg⟩⟩
      frameId := rfl }
  cuts modes sees := modes.cuts sees
  cut modes sees cuts := modes.cut structured sees cuts
  points ctx _ modes sees := modes.points structured sees ctx
  finish {f g} packet block modes := by
    obtain ⟨waiting, holds, holds'⟩ := modes.waiting
    exact { modes with
      waiting := ⟨waiting, ⟨holds.index, holds.array, holds.rings, holds.outMsg⟩,
        ⟨holds'.index, holds'.array, holds'.rings, holds'.outMsg⟩⟩
      lastAzimuth := rfl
      lastTimestamp := rfl }

/-! ### The run -/

variable {s t : Driver} {packet : PandarPacket} {old : List AcceptedPacket}

theorem Modes.calls (modes : Modes f g) (structured : cfg.structured = true) (sees : GateSeesAll cfg a f entry) :
    g.calls (cfg.withPclType 0) a.packet entry.1.azimuth = f.calls cfg a.packet entry.1.azimuth := by
  unfold Frame.calls
  rw [(modes.met structured sees).callbacks.length_eq, modes.callbacks.length_eq]

theorem callsIn_agree (structured : cfg.structured = true) (alike : Alike cfg old Modes s t)
    (side : AtBlocks cfg (GateSeesAll cfg) s packet) : t.callsIn (cfg.withPclType 0) packet = s.callsIn cfg packet := by
  have guarded : Alike cfg old Modes (s.guarded packet) (t.guarded packet) := alike.guarded packet
  unfold Driver.callsIn
  rw [alike.guard]
  cases finite : packet.stamp with
  | notFinite => rfl
  | finite stamp =>
    dsimp only
    split
    · rename_i passed
      have accepts : Agree _ (AlikeStop cfg old Modes) (StopExcused fun _ => False)
        ((s.guarded packet).accept cfg stamp packet) ((t.guarded packet).accept (cfg.withPclType 0) stamp packet) :=
        accept_agree guarded
      have blocks : ∀ m a, (s.guarded packet).accept cfg stamp packet = .ok (m, some a) → _ :=
        fun m a => side stamp m a finite (finite ▸ passed)
      generalize (s.guarded packet).accept cfg stamp packet = left at accepts blocks ⊢
      generalize (t.guarded packet).accept (cfg.withPclType 0) stamp packet = right at accepts ⊢
      cases accepts with
      | ok related =>
        rename_i m n
        obtain ⟨m, outcome⟩ := m
        obtain ⟨n, outcome'⟩ := n
        obtain ⟨same, both⟩ := related
        obtain rfl : outcome' = outcome := same
        cases outcome' with
        | none => rfl
        | some a =>
          have kept : AlikeStamped cfg old Modes (m.keep a) (n.keep a) :=
            AlikeStamped.keep (modes_lockstep structured) both a
          refine (trace_agree (processBlock_agree (modes_lockstep structured)) not_stopExcused ?_ kept (blocks m a rfl)).symm
          intro s t entry alike sees
          exact (alike.frame.calls structured sees).symm
      | error related => rfl
      | excused excused => exact absurd excused (not_stopExcused _)
    · rfl

/-- Where the structured gate sees everything at every block, the two point modes agree. -/
theorem point_modes_agree (cfg : Config) (structured : cfg.structured = true) (targetFrame : String)
    (pointCloud pointCloud' : Nat → PPoint) (packets : List PandarPacket)
    (sees : EveryBlock cfg (GateSeesAll cfg) (Driver.start targetFrame pointCloud) packets) :
    PointModesAgree cfg targetFrame pointCloud pointCloud' packets := by
  have start : Alike cfg [] Modes (Driver.start targetFrame pointCloud) (Driver.start targetFrame pointCloud') :=
    { guard := rfl
      tracker := rfl
      transforms := .inl rfl
      frame := ⟨⟨[], start_holds true pointCloud, start_holds false pointCloud'⟩, rfl, rfl, rfl, rfl, rfl, .nil⟩
      accepted := rfl }
  constructor
  · have lookup : Agree (Alike cfg [] Modes) (AlikeStop cfg [] Modes) (StopExcused fun _ => False)
        ((Driver.start targetFrame pointCloud).withTransforms (computeTransformToTarget cfg ⟨targetFrame, false, 0, id, id⟩))
        ((Driver.start targetFrame pointCloud').withTransforms
          (computeTransformToTarget (cfg.withPclType 0) ⟨targetFrame, false, 0, id, id⟩)) :=
      computeTransformToTarget_agree id (fun _ _ => start.moved) start.transforms
    have side : ∀ m, (Driver.start targetFrame pointCloud).withTransforms
        (computeTransformToTarget cfg ⟨targetFrame, false, 0, id, id⟩) = .ok m → _ := sees
    unfold callsAtBlocks
    rw [show (Driver.start targetFrame pointCloud).transforms = ⟨targetFrame, false, 0, id, id⟩ from rfl,
      show (Driver.start targetFrame pointCloud').transforms = ⟨targetFrame, false, 0, id, id⟩ from rfl]
    generalize (Driver.start targetFrame pointCloud).withTransforms _ = left at lookup side ⊢
    generalize (Driver.start targetFrame pointCloud').withTransforms _ = right at lookup ⊢
    cases lookup with
    | ok alike =>
      refine (trace_agree (processPacket_agree 0 (modes_lockstep structured)) not_stopExcused ?_ alike (side _ rfl)).symm
      intro s t packet alike blocks
      exact (callsIn_agree structured alike blocks).symm
    | error related => rfl
    | excused excused => exact absurd excused (not_stopExcused _)
  · have agree := processLiarPacket_agree (modes_lockstep structured) start sees
    refine (agree.imp ?_).imp_error ?_
    · intro s t alike
      exact { alike with frame := alike.frame.callbacks }
    · intro x y alike
      exact alike.imp Modes.callbacks

/-- An XT16 packet with one return in each block, from one laser. -/
def xt16LaserPacket (stamp : ℚ) (sequence : UInt8) (laser : Nat) (azimuth : Nat → Nat) : PandarPacket where
  stamp := .finite stamp
  size := 568
  data := fun i => if i = 564 then sequence else layoutXT.payload 16 8 azimuth (fun _ unit => unit = laser) i

/-- Returns of the second laser only: the structured run never calls, the unstructured one does. -/
theorem second_ring_unseen :
    ¬ PointModesAgree (.plain .pandarXT16 1 0) "" (fun _ => ⟨0, 0, 0, 0, 0, 0⟩) (fun _ => ⟨0, 0, 0, 0, 0, 0⟩)
      [xt16LaserPacket 10 0 1 fun b => 35800 + b, xt16LaserPacket 11 1 1 fun b => (35996 + b) % 36000] := by
  intro agree
  exact absurd agree.blocks (by decide +kernel)

/-! ### A first laser that always returns -/

theorem Frame.Holds.length_unique {other : List PPoint} (holds : f.Holds true waiting) (holds' : f.Holds true other) :
    waiting.length = other.length := by
  apply List.Perm.length_eq
  apply List.perm_iff_count.mpr
  intro p
  have bucket : Buckets.bucket PointXYZIT.ring p.ring waiting = Buckets.bucket PointXYZIT.ring p.ring other :=
    (holds.rings p.ring).symm.trans (holds'.rings p.ring)
  have count (points : List PPoint) : (Buckets.bucket PointXYZIT.ring p.ring points).count p = points.count p :=
    List.count_filter (by simp)
  rw [← count waiting, ← count other, bucket]

/-- Whatever is buffered, the first ring holds a point, and there is room for some more points. -/
structure FirstRing (lasers more : Nat) (f : Frame) : Prop where
  waiting : ∃ waiting, f.Holds true waiting ∧ (waiting ≠ [] → ∃ p ∈ waiting, p.ring = 0) ∧
    (∀ p ∈ waiting, p.ring < lasers) ∧ waiting.length + more ≤ maxPointCloudNum
  index : f.pointCloudIndex = 0

/-- A block of a packet with some lasers whose first laser returns if any does. -/
structure FirstReturns (lasers : Nat) (block : LidarBlock) : Prop where
  units : block.units.length ≤ lasers
  first : block.validUnits ≠ 0 → ∃ unit rest, block.units = unit :: rest ∧ unit.valid = true

theorem FirstRing.sees {more : Nat} (first : FirstRing a.packet.header.chLaserNumber more f) (block : entry.1.validUnits ≤ more) :
    GateSeesAll cfg a f entry := by
  obtain ⟨waiting, holds, ring, covered, room⟩ := first.waiting
  constructor
  · intro callback _
    have open' : f.gate cfg = true ↔ f.pointCloudList 0 ≠ [] := by
      unfold Frame.gate
      rw [callback, first.index]
      simp
    constructor
    · rw [open', holds.some_ring]
      constructor
      · intro points
        exact holds.some_ring.mp ⟨0, points⟩
      · intro nonempty
        obtain ⟨p, member, zero⟩ := ring nonempty
        rw [holds.rings]
        apply List.ne_nil_of_mem (a := p)
        simpa [Buckets.bucket, zero] using member
    · intro r beyond
      rw [holds.rings, if_pos rfl]
      apply List.filter_eq_nil_iff.mpr
      intro p member
      have := covered p member
      simp only [decide_eq_true_eq]
      omega
  · intro other holds'
    rw [holds'.length_unique holds]
    split <;> omega

theorem FirstRing.met {more : Nat} {packet : LidarPacket} (first : FirstRing packet.header.chLaserNumber more f)
    (structured : cfg.structured = true) (azimuth : Nat) : FirstRing packet.header.chLaserNumber more (f.met cfg packet azimuth) := by
  obtain ⟨waiting, holds, ring, covered, room⟩ := first.waiting
  unfold Frame.met
  split
  · have cut := cut_spec cfg packet (structured ▸ holds)
    have taken : leftover cfg.structured packet.header.chLaserNumber waiting = [] := by
      unfold leftover
      rw [structured, if_pos rfl]
      apply List.filter_eq_nil_iff.mpr
      intro p member
      have := covered p member
      simp only [decide_eq_true_eq]
      omega
    have empty := cut.holds
    rw [taken, structured] at empty
    exact ⟨⟨[], empty, (absurd rfl ·), nofun, by rw [List.length_nil]; omega⟩,
      cut.index.trans ((if_pos structured).trans first.index)⟩
  · exact first

theorem FirstReturns.ring {lasers blockid : Nat} {block : LidarBlock} {ctx : PacketContext}
    (returns : FirstReturns lasers block) (nonempty : blockPoints cfg ctx blockid block ≠ []) :
    ∃ p ∈ blockPoints cfg ctx blockid block, p.ring = 0 := by
  have some : block.validUnits ≠ 0 := by
    rw [← length_blockPoints cfg ctx blockid]
    exact List.length_pos_iff.mpr nonempty |>.ne'
  obtain ⟨unit, rest, units, valid⟩ := returns.first some
  refine ⟨calcPoint cfg ctx blockid block 0 unit, ?_, rfl⟩
  unfold blockPoints
  apply List.mem_map.mpr
  refine ⟨(unit, 0), ?_, rfl⟩
  simp [units, valid]

theorem FirstRing.block {more : Nat} {ctx : PacketContext}
    (first : FirstRing ctx.packet.header.chLaserNumber (entry.1.validUnits + more) f) (structured : cfg.structured = true)
    (notQt : ctx.format ≠ .qt) (returns : FirstReturns ctx.packet.header.chLaserNumber entry.1)
    (step : f.processBlock cfg ctx entry = .ok g) : FirstRing ctx.packet.header.chLaserNumber more g := by
  have met := first.met structured entry.1.azimuth
  obtain ⟨waiting, holds, ring, covered, room⟩ := met.waiting
  obtain ⟨m, points, finished⟩ := Except.bind_ok step
  obtain rfl := Except.ok.inj finished
  have index : m.pointCloudIndex = 0 := (calcBlock_index structured notQt points).trans met.index
  have after := (calcBlock_ok (structured ▸ holds) points).1
  rw [structured] at after
  refine ⟨⟨waiting ++ blockPoints cfg ctx entry.2 entry.1,
    ⟨after.index, after.array, after.rings, after.outMsg⟩, ?_, ?_, ?_⟩, index⟩
  · intro nonempty
    by_cases old : waiting = []
    · rw [old, List.nil_append] at nonempty ⊢
      exact returns.ring nonempty
    · obtain ⟨p, member, zero⟩ := ring old
      exact ⟨p, List.mem_append_left _ member, zero⟩
  · intro p member
    rcases List.mem_append.mp member with old | new
    · exact covered p old
    · exact Nat.lt_of_lt_of_le (ring_lt new) returns.units
  · rw [List.length_append, length_blockPoints]
    omega

theorem sees_firstRing (structured : cfg.structured = true) (notQt : a.format ≠ .qt) (entries : List (LidarBlock × Nat))
    (returns : ∀ entry ∈ entries, FirstReturns a.packet.header.chLaserNumber entry.1)
    (first : FirstRing a.packet.header.chLaserNumber (entries.map fun entry => entry.1.validUnits).sum s.frame) :
    Runs.AllSteps (Runs.Succeeds (Driver.processBlock cfg a)) (fun s => GateSeesAll cfg a s.frame) s entries := by
  induction entries generalizing s with
  | nil => trivial
  | cons entry entries ih =>
    obtain ⟨now, later⟩ := List.forall_mem_cons.mp returns
    rw [List.map_cons, List.sum_cons] at first
    refine ⟨first.sees (Nat.le_add_right ..), ?_⟩
    intro t step
    obtain ⟨ctx, format, packet, -, moved, -⟩ := processBlock_ok step
    refine ih later ?_
    rw [← packet] at first now ⊢
    exact first.block structured (format ▸ notQt) now moved

theorem firstReturns_of_check {lasers : Nat} {block : LidarBlock}
    (check : (block.units.length ≤ lasers && (block.units.head?.map LidarUnit.valid == some true)) = true) :
    FirstReturns lasers block := by
  obtain ⟨units, first⟩ := Bool.and_eq_true_iff.mp check
  refine ⟨of_decide_eq_true units, fun _ => ?_⟩
  cases shape : block.units with
  | nil => rw [shape] at first; cases first
  | cons unit rest =>
    rw [shape] at first
    exact ⟨unit, rest, rfl, Option.some.inj (eq_of_beq first)⟩

/-- One packet with a boundary in the middle and returns of the first laser. -/
theorem point_modes_agree_first_ring :
    let cfg := Config.plain .pandarXT16 1 0
    let packet := xt16LaserPacket 10 0 0 fun b => (35996 + b) % 36000
    callsAtBlocks cfg (Driver.start "" fun _ => ⟨0, 0, 0, 0, 0, 0⟩) [packet] =
      [[false, false, false, false, true, false, false, false]] ∧
    PointModesAgree cfg "" (fun _ => ⟨0, 0, 0, 0, 0, 0⟩) (fun _ => ⟨0, 0, 0, 0, 0, 0⟩) [packet] := by
  intro cfg packet
  refine ⟨by decide +kernel, point_modes_agree cfg rfl "" _ _ _ ?_⟩
  intro m started
  obtain rfl := Except.ok.inj started
  refine ⟨?_, fun _ _ => trivial⟩
  intro stamp m a finite passed admitted
  have check : (((Driver.start "" fun _ => ⟨0, 0, 0, 0, 0, 0⟩).guarded packet).accept cfg 10 packet).toOption.map
      (fun result => result.2.map fun a => (a.format, a.packet.header.chLaserNumber,
        a.packet.blocks.all fun block => block.units.length ≤ 16 && (block.units.head?.map LidarUnit.valid == some true),
        (a.packet.blocks.zipIdx.map fun entry => entry.1.validUnits).sum)) = some (some (.xt, 16, true, 8)) := by decide +kernel
  obtain rfl : 10 = stamp := Double.finite.inj finite
  have frame := (accept_ok admitted).1
  have accepts : ((Driver.start "" fun _ => ⟨0, 0, 0, 0, 0, 0⟩).guarded packet).accept cfg 10 packet = .ok (m, some a) := admitted
  rw [accepts] at check
  obtain ⟨format, rest⟩ := Prod.mk.inj (Option.some.inj (Option.some.inj check))
  obtain ⟨lasers, rest⟩ := Prod.mk.inj rest
  obtain ⟨blocks, total⟩ := Prod.mk.inj rest
  apply sees_firstRing rfl (format ▸ nofun)
  · intro entry member
    rw [lasers]
    exact firstReturns_of_check (List.all_eq_true.mp blocks entry.1 (List.fst_mem_of_mem_zipIdx member))
  · rw [lasers, total]
    show FirstRing 16 8 (m.frame.append a.raw)
    rw [frame]
    exact ⟨⟨[], ⟨nofun, nofun, fun _ => rfl, fun _ => rfl⟩, (absurd rfl ·), nofun, by decide⟩, rfl⟩

end HesaiLidar
