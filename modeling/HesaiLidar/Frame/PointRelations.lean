import HesaiLidar.Driver.Steps
import HesaiLidar.Library.Lockstep

/-!
# Corresponding points

What building a frame does to a point depends on its ring alone. Two runs whose packets bring corresponding points
cut the same frames and make corresponding calls, whatever the coordinates.
-/

namespace HesaiLidar

open Lockstep

/-- Corresponding points have the same ring, and their timestamps correspond by a function. -/
structure PointRelation where
  rel : PPoint → PPoint → Prop
  time : ℚ → ℚ
  ring : ∀ {p q}, rel p q → q.ring = p.ring
  timestamp : ∀ {p q}, rel p q → q.timestamp = time p.timestamp

/-- The block loop on a packet, in any context. -/
def Frame.processIn (cfg : Config) (ctx : PacketContext) (raw : PandarPacketMsg) (frame : Frame) : Except Fault Frame := do
  let frame ← ctx.packet.blocks.zipIdx.foldlM (Frame.processBlock cfg ctx) (frame.append raw)
  return frame.label cfg

theorem processPacket_eq_processIn (cfg : Config) (f : Frame) (a : AcceptedPacket) :
    f.processPacket cfg a = f.processIn cfg a.context a.raw := rfl

namespace PointRelation

variable (r : PointRelation)

structure Clouds (c d : PPointCloud) : Prop where
  points : List.Forall₂ r.rel c.points d.points
  width : d.width = c.width
  height : d.height = c.height
  frameId : d.frameId = c.frameId
  isDense : d.isDense = c.isDense

structure Calls (c d : Callback) : Prop where
  cloud : r.Clouds c.cloud d.cloud
  timestamp : d.timestamp = r.time c.timestamp
  scan : d.scan = c.scan

/-- Frames that differ in corresponding points and in what is never read. -/
structure Frames (structured : Bool) (f g : Frame) : Prop where
  lastAzimuth : g.lastAzimuth = f.lastAzimuth
  lastTimestamp : g.lastTimestamp = f.lastTimestamp
  index : g.pointCloudIndex = f.pointCloudIndex
  array : structured = false → ∀ k < f.pointCloudIndex, r.rel (f.pointCloud k) (g.pointCloud k)
  rings : ∀ i, List.Forall₂ r.rel (f.pointCloudList i) (g.pointCloudList i)
  outMsg : r.Clouds f.outMsg g.outMsg
  scan : g.scan = f.scan
  callbacks : List.Forall₂ r.Calls f.callbacks g.callbacks

variable {r} {f g : Frame} {cfg : Config} {structured : Bool} {p q : PPoint}

theorem start_frames (structured : Bool) (pointCloud pointCloud' : Nat → PPoint) :
    r.Frames structured (.start pointCloud) (.start pointCloud') where
  lastAzimuth := rfl
  lastTimestamp := rfl
  index := rfl
  array := fun _ _ => nofun
  rings := fun _ => .nil
  outMsg := ⟨.nil, rfl, rfl, rfl, rfl⟩
  scan := rfl
  callbacks := .nil

/-! ### Stores -/

theorem Frames.store (frames : r.Frames structured f g) (format : Format) (related : r.rel p q) :
    Agree (r.Frames structured) Eq (fun _ : Fault => False) (format.store structured f p) (format.store structured g q) := by
  cases left : format.store structured f p with
  | error fault =>
    obtain ⟨rfl, full, rfl⟩ := store_error left
    cases right : format.store false g q with
    | error fault' =>
      obtain ⟨-, -, rfl⟩ := store_error right
      exact .error (by rw [frames.index])
    | ok g' =>
      obtain ⟨⟨⟩, -⟩ | ⟨-, room, -⟩ := store_cases right
      rw [frames.index] at room
      omega
  | ok f' =>
    cases right : format.store structured g q with
    | error fault =>
      obtain ⟨rfl, full, -⟩ := store_error right
      obtain ⟨⟨⟩, -⟩ | ⟨-, room, -⟩ := store_cases left
      rw [frames.index] at full
      omega
    | ok g' =>
      apply Agree.ok
      rcases store_cases left with ⟨rfl, rfl⟩ | ⟨rfl, -, rfl⟩
      · obtain ⟨-, rfl⟩ | ⟨⟨⟩, -⟩ := store_cases right
        refine { frames with index := ?_, array := nofun, rings := fun i => ?_ }
        · dsimp only
          rw [frames.index]
        · unfold Frame.pushBack
          dsimp only
          rw [r.ring related]
          rcases eq_or_ne i p.ring with rfl | other
          · rw [Function.update_self, Function.update_self]
            exact List.rel_append (frames.rings _) (.cons related .nil)
          · rw [Function.update_of_ne other, Function.update_of_ne other]
            exact frames.rings i
      · obtain ⟨⟨⟩, -⟩ | ⟨-, -, rfl⟩ := store_cases right
        refine { frames with index := ?_, array := fun _ k bound => ?_ }
        · dsimp only
          rw [frames.index]
        · dsimp only at bound ⊢
          rw [frames.index]
          rcases eq_or_ne k f.pointCloudIndex with rfl | other
          · rw [Function.update_self, Function.update_self]
            exact related
          · rw [Function.update_of_ne other, Function.update_of_ne other]
            exact frames.array rfl k (by omega)

/-- The blocks of a packet bring corresponding points. -/
structure Contexts (r : PointRelation) (cfg : Config) (ctx ctx' : PacketContext) : Prop where
  format : ctx'.format = ctx.format
  packet : ctx'.packet = ctx.packet
  points : ∀ entry ∈ ctx.packet.blocks.zipIdx,
    List.Forall₂ r.rel (blockPoints cfg ctx entry.2 entry.1) (blockPoints cfg ctx' entry.2 entry.1)

theorem Frames.calcBlock {ctx ctx' : PacketContext} (frames : r.Frames cfg.structured f g) (contexts : r.Contexts cfg ctx ctx')
    {entry : LidarBlock × Nat} (member : entry ∈ ctx.packet.blocks.zipIdx) :
    Agree (r.Frames cfg.structured) Eq (fun _ => False) (calcBlock cfg ctx entry.2 entry.1 f)
      (calcBlock cfg ctx' entry.2 entry.1 g) := by
  rw [calcBlock_eq, calcBlock_eq, contexts.format]
  exact foldlM_agree_of_forall₂ (fun frames related => frames.store ctx.format related) frames (contexts.points entry member)

/-! ### Emission -/

theorem Clouds.pushAll {c d : PPointCloud} {ps qs : List PPoint} (clouds : r.Clouds c d) (related : List.Forall₂ r.rel ps qs) :
    r.Clouds (c.pushAll ps) (d.pushAll qs) := by
  unfold PointCloud.pushAll
  cases related with
  | nil => exact clouds
  | cons first rest =>
    have points := List.rel_append clouds.points (.cons first rest)
    exact ⟨points, congrArg UInt32.ofNat points.length_eq.symm, rfl, clouds.frameId, clouds.isDense⟩

theorem Clouds.assign {c d : PPointCloud} {ps qs : List PPoint} (clouds : r.Clouds c d) (related : List.Forall₂ r.rel ps qs) :
    r.Clouds (c.assign ps) (d.assign qs) :=
  ⟨related, congrArg UInt32.ofNat related.length_eq.symm, rfl, clouds.frameId, clouds.isDense⟩

theorem Frames.gathered (frames : r.Frames structured f g) (chLaserNumber : Nat) :
    List.Forall₂ r.rel (f.gathered chLaserNumber) (g.gathered chLaserNumber) :=
  List.rel_flatMap (R := Eq) (List.forall₂_eq_eq_eq ▸ rfl) fun i _ same => same ▸ frames.rings i

theorem Frames.fill (frames : r.Frames structured f g) (chLaserNumber : Nat) :
    r.Frames structured (f.fill structured chLaserNumber) (g.fill structured chLaserNumber) := by
  unfold Frame.fill
  cases structured with
  | true =>
    simp only [if_true]
    exact { frames with outMsg := frames.outMsg.pushAll (frames.gathered chLaserNumber) }
  | false =>
    simp only [Bool.false_eq_true, if_false]
    refine { frames with index := rfl, array := fun _ _ => nofun, outMsg := frames.outMsg.assign ?_ }
    rw [frames.index, List.forall₂_map_left_iff, List.forall₂_map_right_iff]
    exact List.forall₂_same.mpr fun k bound => frames.array rfl k (List.mem_range.mp bound)

theorem Frames.clearRings (frames : r.Frames structured f g) (chLaserNumber : Nat) :
    r.Frames structured (f.clearRings chLaserNumber) (g.clearRings chLaserNumber) where
  __ := frames
  rings i := by
    unfold Frame.clearRings
    dsimp only
    split
    · exact .nil
    · exact frames.rings i

theorem Frames.clearOutMsg (frames : r.Frames structured f g) (chLaserNumber : Nat) :
    r.Frames structured (f.clearOutMsg chLaserNumber) (g.clearOutMsg chLaserNumber) := by
  unfold Frame.clearOutMsg
  split
  · exact frames
  · exact { frames with outMsg := frames.outMsg.assign .nil }

theorem Frames.emit (frames : r.Frames structured f g) (chLaserNumber : Nat) :
    r.Frames structured (emitBackMessege structured chLaserNumber f) (emitBackMessege structured chLaserNumber g) := by
  have filled := frames.fill chLaserNumber
  unfold emitBackMessege
  generalize f.fill structured chLaserNumber = f' at filled ⊢
  generalize g.fill structured chLaserNumber = g' at filled ⊢
  have points := filled.outMsg.points
  dsimp only
  generalize f'.outMsg.points = left at points ⊢
  generalize g'.outMsg.points = right at points ⊢
  cases points with
  | nil =>
    have dropped : r.Frames structured { f' with emptyCloudDrops := f'.emptyCloudDrops + 1 }
        { g' with emptyCloudDrops := g'.emptyCloudDrops + 1 } := { filled with }
    dsimp only
    split
    · exact dropped.clearRings chLaserNumber
    · exact dropped
  | @cons first first' rest rest' related _ =>
    have called : r.Frames structured
        { f' with callbacks := f'.callbacks ++ [⟨f'.outMsg, first.timestamp, f'.scan⟩] }
        { g' with callbacks := g'.callbacks ++ [⟨g'.outMsg, first'.timestamp, g'.scan⟩] } :=
      { filled with
        callbacks := List.rel_append filled.callbacks (.cons ⟨filled.outMsg, r.timestamp related, filled.scan⟩ .nil) }
    dsimp only
    split
    · exact (called.clearRings chLaserNumber).clearOutMsg chLaserNumber
    · exact called

theorem Frames.cuts (frames : r.Frames cfg.structured f g) (packet : LidarPacket) (azimuth : Nat) :
    g.cuts cfg packet azimuth = f.cuts cfg packet azimuth := by
  have first : (g.pointCloudList 0).isEmpty = (f.pointCloudList 0).isEmpty := by
    have rings := frames.rings 0
    generalize f.pointCloudList 0 = left at rings ⊢
    generalize g.pointCloudList 0 = right at rings ⊢
    cases rings <;> rfl
  unfold Frame.cuts Frame.gate
  rw [frames.lastAzimuth, frames.lastTimestamp, frames.index, first]

theorem Frames.cut (frames : r.Frames cfg.structured f g) (packet : LidarPacket) :
    r.Frames cfg.structured (f.cut cfg packet) (g.cut cfg packet) := by
  have emitted : r.Frames cfg.structured
      (emitBackMessege cfg.structured packet.header.chLaserNumber
        { f with scan := f.scan ++ [saveCorrectionFile cfg packet.header.chLaserNumber] })
      (emitBackMessege cfg.structured packet.header.chLaserNumber
        { g with scan := g.scan ++ [saveCorrectionFile cfg packet.header.chLaserNumber] }) := by
    apply Frames.emit
    exact { frames with scan := by dsimp only; rw [frames.scan] }
  exact { emitted with scan := rfl }

/-! ### Blocks and packets -/

theorem Frames.append (frames : r.Frames structured f g) (raw : PandarPacketMsg) :
    r.Frames structured (f.append raw) (g.append raw) :=
  { frames with scan := by unfold Frame.append; rw [frames.scan] }

theorem Frames.label (frames : r.Frames structured f g) (cfg : Config) : r.Frames structured (f.label cfg) (g.label cfg) :=
  { frames with outMsg := ⟨frames.outMsg.points, frames.outMsg.width, rfl, rfl, frames.outMsg.isDense⟩ }

theorem Frames.processBlock {ctx ctx' : PacketContext} (frames : r.Frames cfg.structured f g)
    (contexts : r.Contexts cfg ctx ctx') {entry : LidarBlock × Nat} (member : entry ∈ ctx.packet.blocks.zipIdx) :
    Agree (r.Frames cfg.structured) Eq (fun _ => False) (f.processBlock cfg ctx entry) (g.processBlock cfg ctx' entry) := by
  have met : r.Frames cfg.structured (f.met cfg ctx.packet entry.1.azimuth) (g.met cfg ctx.packet entry.1.azimuth) := by
    unfold Frame.met
    rw [frames.cuts]
    split
    · exact frames.cut _
    · exact frames
  unfold Frame.processBlock
  rw [contexts.packet]
  refine (met.calcBlock contexts member).bind fun _ _ stored => .ok ?_
  exact { stored with lastAzimuth := rfl, lastTimestamp := rfl }

theorem Frames.processIn {ctx ctx' : PacketContext} (frames : r.Frames cfg.structured f g) (contexts : r.Contexts cfg ctx ctx')
    (raw : PandarPacketMsg) :
    Agree (r.Frames cfg.structured) Eq (fun _ => False) (f.processIn cfg ctx raw) (g.processIn cfg ctx' raw) := by
  have blocks : Agree (r.Frames cfg.structured) Eq (fun _ => False)
      (ctx.packet.blocks.zipIdx.foldlM (Frame.processBlock cfg ctx) (f.append raw))
      (ctx.packet.blocks.zipIdx.foldlM (Frame.processBlock cfg ctx') (g.append raw)) := by
    refine foldlM_agree_of_forall₂ (A := fun e e' => e = e' ∧ e ∈ ctx.packet.blocks.zipIdx) ?_ (frames.append raw)
      (List.forall₂_same.mpr fun _ member => ⟨rfl, member⟩)
    rintro f g entry _ frames ⟨rfl, member⟩
    exact frames.processBlock contexts member
  unfold Frame.processIn
  rw [contexts.packet]
  exact blocks.bind fun _ _ done => .ok (done.label cfg)

end PointRelation

end HesaiLidar
