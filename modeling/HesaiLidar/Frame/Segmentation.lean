import HesaiLidar.Driver.Steps
import HesaiLidar.Library.Segments

/-!
# Frames as segments of the block stream

What frame building is for: the blocks of the accepted packets, in order, are cut in front of a boundary
block, each closed segment becomes one cloud, and each cloud comes with the messages that have arrived
since the last one. `Represents` ties the driver's reused buffers, cloud and scan to this view: always in
unstructured mode, and in structured mode for packets that all have the same lasers.
-/

namespace HesaiLidar

/-- One block of an accepted packet, with the frame transform its points went through. -/
structure BlockEntry where
  accepted : AcceptedPacket
  transformPoint : Affine3
  block : LidarBlock
  blockid : Nat

def BlockEntry.context (e : BlockEntry) : PacketContext := { e.accepted.context with transformPoint := e.transformPoint }

def BlockEntry.points (cfg : Config) (e : BlockEntry) : List PPoint := blockPoints cfg e.context e.blockid e.block

/-- The blocks of a packet, in order, without a frame transform. -/
def AcceptedPacket.entries (a : AcceptedPacket) : List BlockEntry :=
  a.packet.blocks.zipIdx.map fun (block, blockid) => ⟨a, fun p => p, block, blockid⟩

def pointsOf (cfg : Config) (entries : List BlockEntry) : List PPoint := entries.flatMap (BlockEntry.points cfg)

def lastBlock (entries : List BlockEntry) : Nat × ℚ :=
  match entries.getLast? with
  | none => (0, 0)
  | some e => (e.block.azimuth, e.accepted.packet.timestampPoint)

/-- Whether a block ends the open segment: it reaches the boundary and the segment has a point to show. -/
def cutsAt (cfg : Config) (current : List BlockEntry) (e : BlockEntry) : Bool :=
  boundary cfg.startAngle (lastBlock current).1 e.block.azimuth (lastBlock current).2 e.accepted.packet.timestampPoint &&
    (cfg.pclCallback &&
      if cfg.structured then (pointsOf cfg current).any fun p => p.ring = 0 else ¬ (pointsOf cfg current).isEmpty)

/-- The cloud a segment becomes: its points, sorted by ring in structured mode. -/
def cloudOf (cfg : Config) (segment : List BlockEntry) : List PPoint :=
  arrange cfg.structured maxLaserNum (pointsOf cfg segment)

/-- The waiting points as the buffers hold them. -/
def Frame.buffered (structured : Bool) (frame : Frame) : List PPoint :=
  if structured then (List.range maxLaserNum).flatMap frame.pointCloudList
  else (List.range frame.pointCloudIndex).map frame.pointCloud

structure Represents (cfg : Config) (lasers : Nat) (frame : Frame) (segments : Segments BlockEntry)
    (messages : List PandarPacketMsg) : Prop where
  holds : frame.Holds cfg.structured (pointsOf cfg segments.current)
  rings : cfg.structured = true → ∀ p ∈ pointsOf cfg segments.current, p.ring < lasers
  index : cfg.structured = true → frame.pointCloudIndex = 0
  last : (frame.lastAzimuth, frame.lastTimestamp) = lastBlock segments.current
  clouds : frame.callbacks.map (fun c => c.cloud.points) = segments.closed.map (cloudOf cfg)
  timestamps : ∀ c ∈ frame.callbacks, c.cloud.points.head?.map PointXYZIT.timestamp = some c.timestamp
  scans : (frame.callbacks.flatMap fun c => c.scan.dropLast) ++ frame.scan = messages
  corrected : ∀ c ∈ frame.callbacks, ∃ e ∈ segments.all,
    c.scan.getLast? = some (saveCorrectionFile cfg e.accepted.packet.header.chLaserNumber)

/-- In structured mode, a block of a format whose store keeps the index discipline, with the expected lasers. -/
structure BlockEntry.Uniform (cfg : Config) (lasers : Nat) (e : BlockEntry) : Prop where
  format : cfg.structured = true → e.accepted.format ≠ .qt
  chLaserNumber : cfg.structured = true → e.accepted.packet.header.chLaserNumber = lasers
  units : cfg.structured = true → e.block.units.length ≤ lasers

variable {cfg : Config} {lasers : Nat} {f g : Frame} {segments : Segments BlockEntry} {messages : List PandarPacketMsg}
variable {e : BlockEntry}

theorem pointsOf_append (xs ys : List BlockEntry) : pointsOf cfg (xs ++ ys) = pointsOf cfg xs ++ pointsOf cfg ys :=
  List.flatMap_append ..

theorem pointsOf_singleton (e : BlockEntry) : pointsOf cfg [e] = e.points cfg := List.flatMap_singleton ..

theorem lastBlock_concat (xs : List BlockEntry) (e : BlockEntry) :
    lastBlock (xs ++ [e]) = (e.block.azimuth, e.accepted.packet.timestampPoint) := by
  simp [lastBlock]

theorem Frame.Holds.buffered {structured : Bool} {points : List PPoint} (holds : f.Holds structured points) :
    f.buffered structured = arrange structured maxLaserNum points := by
  cases structured with
  | false => simp [Frame.buffered, arrange, holds.index rfl, holds.array rfl]
  | true =>
    have rings : f.pointCloudList = fun r => Buckets.bucket PointXYZIT.ring r points := funext holds.rings
    rw [Frame.buffered, rings]
    rfl

theorem start_represents (cfg : Config) (lasers : Nat) (pointCloud : Nat → PPoint) :
    Represents cfg lasers (Frame.start pointCloud) .empty [] where
  holds := start_holds cfg.structured pointCloud
  rings := fun _ => nofun
  index := fun _ => rfl
  last := rfl
  clouds := rfl
  timestamps := nofun
  scans := rfl
  corrected := nofun

theorem Represents.cuts_eq (rep : Represents cfg lasers f segments messages) (e : BlockEntry) :
    f.cuts cfg e.accepted.packet e.block.azimuth = cutsAt cfg segments.current e := by
  have last := rep.last
  rw [Prod.ext_iff] at last
  dsimp only at last
  have gate : (f.pointCloudIndex > 0 || ¬ (f.pointCloudList 0).isEmpty) =
      if cfg.structured then (pointsOf cfg segments.current).any fun p => p.ring = 0
      else ¬ (pointsOf cfg segments.current).isEmpty := by
    cases structured : cfg.structured with
    | true =>
      rw [rep.index structured, rep.holds.rings, structured, Bool.eq_iff_iff]
      simp [Buckets.bucket]
    | false =>
      rw [rep.holds.index structured, rep.holds.rings, structured, Bool.eq_iff_iff]
      simp [List.length_pos_iff]
  rw [Frame.cuts, Frame.gate, cutsAt, last.1, last.2, gate]

theorem Represents.leftover (rep : Represents cfg lasers f segments messages) (uniform : e.Uniform cfg lasers) :
    leftover cfg.structured e.accepted.packet.header.chLaserNumber (pointsOf cfg segments.current) = [] := by
  unfold HesaiLidar.leftover
  split
  · rename_i structured
    apply List.filter_eq_nil_iff.mpr
    intro p member
    rw [uniform.chLaserNumber structured, decide_eq_true_eq, not_le]
    exact rep.rings structured p member
  · rfl

theorem Represents.arrange_eq (rep : Represents cfg lasers f segments messages) (uniform : e.Uniform cfg lasers)
    (small : lasers ≤ maxLaserNum) :
    arrange cfg.structured e.accepted.packet.header.chLaserNumber (pointsOf cfg segments.current) =
      cloudOf cfg segments.current := by
  unfold cloudOf arrange
  split
  · rename_i structured
    rw [uniform.chLaserNumber structured]
    exact (Buckets.gather_eq_of_bound (rep.rings structured) small).symm
  · rfl

theorem Represents.cloud_ne_nil (rep : Represents cfg lasers f segments messages) (small : lasers ≤ maxLaserNum)
    (cuts : cutsAt cfg segments.current e = true) : cloudOf cfg segments.current ≠ [] := by
  simp only [cutsAt, Bool.and_eq_true] at cuts
  obtain ⟨-, -, shows⟩ := cuts
  unfold cloudOf arrange
  split at shows <;> rename_i mode <;> simp only [mode, if_true, Bool.false_eq_true, if_false]
  · obtain ⟨p, member, -⟩ := List.any_eq_true.mp shows
    exact List.ne_nil_of_mem (Buckets.mem_gather.mpr ⟨member, Nat.lt_of_lt_of_le (rep.rings mode p member) small⟩)
  · simpa using shows

theorem ring_lt_of_uniform (uniform : e.Uniform cfg lasers) (structured : cfg.structured = true) {p : PPoint}
    (member : p ∈ e.points cfg) : p.ring < lasers :=
  Nat.lt_of_lt_of_le (ring_lt member) (uniform.units structured)

/-- The points of a block join the open segment, whichever segment that is. -/
theorem represents_of_points {m : Frame} {next : Segments BlockEntry} (uniform : e.Uniform cfg lasers)
    (current : List BlockEntry) (open' : next.current = current ++ [e])
    (holds : m.Holds cfg.structured (pointsOf cfg current))
    (rings : cfg.structured = true → ∀ p ∈ pointsOf cfg current, p.ring < lasers)
    (index : cfg.structured = true → m.pointCloudIndex = 0)
    (clouds : m.callbacks.map (fun c => c.cloud.points) = next.closed.map (cloudOf cfg))
    (timestamps : ∀ c ∈ m.callbacks, c.cloud.points.head?.map PointXYZIT.timestamp = some c.timestamp)
    (scans : (m.callbacks.flatMap fun c => c.scan.dropLast) ++ m.scan = messages)
    (corrected : ∀ c ∈ m.callbacks, ∃ e ∈ next.all,
      c.scan.getLast? = some (saveCorrectionFile cfg e.accepted.packet.header.chLaserNumber))
    (h : calcBlock cfg e.context e.blockid e.block m = .ok g) :
    Represents cfg lasers (g.finishBlock e.accepted.packet e.block) next messages := by
  obtain ⟨stored, same⟩ := calcBlock_ok holds h
  have points : pointsOf cfg next.current = pointsOf cfg current ++ blockPoints cfg e.context e.blockid e.block := by
    rw [open', pointsOf_append, pointsOf_singleton]
    rfl
  rw [← points] at stored
  exact
    { holds := ⟨stored.index, stored.array, stored.rings, stored.outMsg⟩
      rings := by
        intro structured p member
        rw [points] at member
        rcases List.mem_append.mp member with old | new
        · exact rings structured p old
        · exact ring_lt_of_uniform uniform structured new
      index := fun structured => (calcBlock_index structured (uniform.format structured) h).trans (index structured)
      last := by rw [open', lastBlock_concat]; rfl
      clouds := by rw [← clouds]; exact congrArg _ same.callbacks
      timestamps := by
        intro c member
        exact timestamps c (same.callbacks ▸ member)
      scans := by
        rw [← scans]
        exact congrArg₂ (fun cs scan => (List.flatMap (fun c : Callback => c.scan.dropLast) cs) ++ scan)
          same.callbacks same.scan
      corrected := by
        intro c member
        exact corrected c (same.callbacks ▸ member) }

theorem Represents.block (rep : Represents cfg lasers f segments messages) (uniform : e.Uniform cfg lasers)
    (small : lasers ≤ maxLaserNum) (h : f.processBlock cfg e.context (e.block, e.blockid) = .ok g) :
    Represents cfg lasers g (segments.feed (cutsAt cfg segments.current e) e) messages := by
  unfold Frame.processBlock at h
  dsimp only at h
  rw [show e.context.packet = e.accepted.packet from rfl, rep.cuts_eq e] at h
  obtain ⟨m, points, done⟩ := Except.bind_ok h
  obtain rfl := Except.ok.inj done
  have fed {c : Callback} (known : ∃ d ∈ segments.all,
      c.scan.getLast? = some (saveCorrectionFile cfg d.accepted.packet.header.chLaserNumber)) (cut : Bool) :
      ∃ d ∈ (segments.feed cut e).all,
        c.scan.getLast? = some (saveCorrectionFile cfg d.accepted.packet.header.chLaserNumber) := by
    obtain ⟨d, member, last⟩ := known
    rw [Segments.all_feed]
    exact ⟨d, List.mem_append_left _ member, last⟩
  cases cuts : cutsAt cfg segments.current e with
  | false =>
    rw [cuts, if_neg Bool.false_ne_true] at points
    exact represents_of_points uniform segments.current rfl rep.holds rep.rings rep.index rep.clouds rep.timestamps
      rep.scans (fun c member => fed (rep.corrected c member) false) points
  | true =>
    rw [cuts, if_pos rfl] at points
    have spec := cut_spec cfg e.accepted.packet rep.holds
    have whole := rep.arrange_eq uniform small
    have holds := spec.holds
    rw [rep.leftover uniform] at holds
    rcases spec.callbacks with ⟨empty, -⟩ | ⟨cloud, first, content, head, callbacks⟩
    · exact absurd (whole.symm.trans empty) (rep.cloud_ne_nil small cuts)
    · rw [whole] at content
      refine represents_of_points uniform [] rfl holds (fun _ => nofun) (fun structured => ?_) ?_ ?_ ?_ ?_ points
      · rw [spec.index, structured]
        exact rep.index structured
      · rw [callbacks, List.map_append, rep.clouds]
        simp [Segments.feed, content]
      · rw [callbacks]
        intro c member
        rcases List.mem_append.mp member with old | new
        · exact rep.timestamps c old
        · obtain rfl := List.mem_singleton.mp new
          rw [head]
          rfl
      · rw [callbacks, spec.scan, ← rep.scans]
        simp
      · rw [callbacks]
        intro c member
        rcases List.mem_append.mp member with old | new
        · exact fed (rep.corrected c old) true
        · obtain rfl := List.mem_singleton.mp new
          rw [Segments.all_feed]
          exact ⟨e, List.mem_append_right _ (List.mem_singleton_self _), List.getLast?_concat⟩

theorem processBlock_error {ctx : PacketContext} {entry : LidarBlock × Nat} {fault : Fault}
    (h : f.processBlock cfg ctx entry = .error fault) : ∃ k, maxPointCloudNum ≤ k ∧ fault = .pointStore k := by
  unfold Frame.processBlock at h
  dsimp only at h
  cases points : calcBlock cfg ctx entry.2 entry.1
      (if f.cuts cfg ctx.packet entry.1.azimuth then f.cut cfg ctx.packet else f) with
  | ok m => rw [points] at h; cases h
  | error e =>
    rw [points] at h
    obtain rfl := Except.error.inj h
    exact (calcBlock_error points).2

structure AcceptedPacket.Uniform (lasers : Nat) (a : AcceptedPacket) : Prop where
  format : a.format ≠ .qt
  chLaserNumber : a.packet.header.chLaserNumber = lasers
  units : ∀ block ∈ a.packet.blocks, block.units.length ≤ lasers

theorem AcceptedPacket.mem_entries {a : AcceptedPacket} (member : e ∈ a.entries) :
    e.accepted = a ∧ e.block ∈ a.packet.blocks := by
  obtain ⟨⟨block, blockid⟩, at', rfl⟩ := List.mem_map.mp member
  exact ⟨rfl, List.fst_mem_of_mem_zipIdx at'⟩

theorem AcceptedPacket.Uniform.entry {a : AcceptedPacket} (uniform : a.Uniform lasers) (member : e ∈ a.entries) :
    e.Uniform cfg lasers := by
  obtain ⟨rfl, block⟩ := a.mem_entries member
  exact ⟨fun _ => uniform.format, fun _ => uniform.chLaserNumber, fun _ => uniform.units e.block block⟩

theorem Represents.blocks {entries : List BlockEntry} (rep : Represents cfg lasers f segments messages)
    (uniform : ∀ e ∈ entries, e.Uniform cfg lasers) (small : lasers ≤ maxLaserNum)
    (h : entries.foldlM (fun f e => f.processBlock cfg e.context (e.block, e.blockid)) f = .ok g) :
    Represents cfg lasers g (segments.feedAll (cutsAt cfg) entries) messages := by
  induction entries generalizing f segments with
  | nil =>
    obtain rfl : f = g := Except.ok.inj h
    exact rep
  | cons e entries ih =>
    rw [List.foldlM_cons] at h
    obtain ⟨m, first, rest⟩ := Except.bind_ok h
    exact ih (rep.block (uniform e List.mem_cons_self) small first)
      (fun e member => uniform e (List.mem_cons_of_mem _ member)) rest

theorem Represents.append (rep : Represents cfg lasers f segments messages) (raw : PandarPacketMsg) :
    Represents cfg lasers (f.append raw) segments (messages ++ [raw]) :=
  { rep with
    holds := ⟨rep.holds.index, rep.holds.array, rep.holds.rings, rep.holds.outMsg⟩
    scans := by rw [← rep.scans, List.append_assoc]; rfl }

theorem Represents.label (rep : Represents cfg lasers f segments messages) :
    Represents cfg lasers (f.label cfg) segments messages :=
  { rep with
    holds := ⟨rep.holds.index, rep.holds.array, rep.holds.rings, fun structured => rep.holds.outMsg structured⟩ }

theorem foldlM_entries (a : AcceptedPacket) (f : Frame) :
    a.entries.foldlM (fun f e => f.processBlock cfg e.context (e.block, e.blockid)) f =
      a.packet.blocks.zipIdx.foldlM (Frame.processBlock cfg a.context) f := List.foldlM_map ..

theorem Represents.packet {a : AcceptedPacket} (rep : Represents cfg lasers f segments messages)
    (uniform : ∀ e ∈ a.entries, e.Uniform cfg lasers) (small : lasers ≤ maxLaserNum)
    (h : f.processPacket cfg a = .ok g) :
    Represents cfg lasers g (segments.feedAll (cutsAt cfg) a.entries) (messages ++ [a.raw]) := by
  unfold Frame.processPacket at h
  rw [← foldlM_entries] at h
  obtain ⟨m, blocks, done⟩ := Except.bind_ok h
  obtain rfl := Except.ok.inj done
  exact ((rep.append a.raw).blocks uniform small blocks).label

theorem processPacket_error {a : AcceptedPacket} {fault : Fault} (h : f.processPacket cfg a = .error fault) :
    ∃ k, maxPointCloudNum ≤ k ∧ fault = .pointStore k := by
  unfold Frame.processPacket at h
  generalize f.append a.raw = f₀ at h
  generalize a.packet.blocks.zipIdx = entries at h
  induction entries generalizing f₀ with
  | nil => cases h
  | cons entry entries ih =>
    rw [List.foldlM_cons] at h
    cases first : f₀.processBlock cfg a.context entry with
    | error e =>
      rw [first] at h
      obtain rfl := Except.error.inj h
      exact processBlock_error first
    | ok m => rw [first] at h; exact ih m h

end HesaiLidar
