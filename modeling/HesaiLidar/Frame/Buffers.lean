import HesaiLidar.Frame.Emission
import HesaiLidar.Library.Buckets

/-!
# What the point buffers hold

`Frame.Holds` reads the buffers of either point mode as the list of the points that are waiting, in
arrival order. The stores append to this list, and an emission takes all of it or, in structured mode,
the rings below the laser count.
-/

namespace HesaiLidar

/-- The fields of a frame that storing points leaves alone. -/
structure Frame.SameOutput (f g : Frame) : Prop where
  lastAzimuth : g.lastAzimuth = f.lastAzimuth
  lastTimestamp : g.lastTimestamp = f.lastTimestamp
  outMsg : g.outMsg = f.outMsg
  scan : g.scan = f.scan
  emptyCloudDrops : g.emptyCloudDrops = f.emptyCloudDrops
  callbacks : g.callbacks = f.callbacks

theorem Frame.SameOutput.refl (f : Frame) : f.SameOutput f := ⟨rfl, rfl, rfl, rfl, rfl, rfl⟩

theorem Frame.SameOutput.trans {f g h : Frame} (first : f.SameOutput g) (second : g.SameOutput h) : f.SameOutput h where
  lastAzimuth := second.lastAzimuth.trans first.lastAzimuth
  lastTimestamp := second.lastTimestamp.trans first.lastTimestamp
  outMsg := second.outMsg.trans first.outMsg
  scan := second.scan.trans first.scan
  emptyCloudDrops := second.emptyCloudDrops.trans first.emptyCloudDrops
  callbacks := second.callbacks.trans first.callbacks

/-- The buffers hold exactly the points `waiting`, in arrival order. -/
structure Frame.Holds (structured : Bool) (frame : Frame) (waiting : List PPoint) : Prop where
  index : structured = false → frame.pointCloudIndex = waiting.length
  array : structured = false → (List.range waiting.length).map frame.pointCloud = waiting
  rings : ∀ r, frame.pointCloudList r = if structured then Buckets.bucket PointXYZIT.ring r waiting else []
  outMsg : structured = true → frame.outMsg.points = []

def arrange (structured : Bool) (rings : Nat) (points : List PPoint) : List PPoint :=
  if structured then Buckets.gather PointXYZIT.ring rings points else points

/-- What an emission for some lasers leaves in the buffers. -/
def leftover (structured : Bool) (rings : Nat) (points : List PPoint) : List PPoint :=
  if structured then points.filter fun p => rings ≤ p.ring else []

theorem start_holds (structured : Bool) (pointCloud : Nat → PPoint) : (Frame.start pointCloud).Holds structured [] where
  index := fun _ => rfl
  array := fun _ => rfl
  rings := fun r => by cases structured <;> rfl
  outMsg := fun _ => rfl

/-! ### Storing -/

section Store

variable {format : Format} {structured : Bool} {f g : Frame} {p : PPoint} {waiting : List PPoint}

theorem store_cases (h : format.store structured f p = .ok g) :
    structured = true ∧
        g = { f.pushBack p with
          pointCloudIndex := if format = .qt then f.pointCloudIndex + 1 else f.pointCloudIndex } ∨
      structured = false ∧ f.pointCloudIndex < maxPointCloudNum ∧
        g = { f with
          pointCloud := Function.update f.pointCloud f.pointCloudIndex p
          stored := f.stored + 1
          pointCloudIndex := f.pointCloudIndex + 1 } := by
  cases structured with
  | true =>
    left
    cases format <;> exact ⟨rfl, (Except.ok.inj h).symm⟩
  | false =>
    right
    by_cases room : f.pointCloudIndex < maxPointCloudNum
    · have put : f.put p = .ok { f with
          pointCloud := Function.update f.pointCloud f.pointCloudIndex p, stored := f.stored + 1 } := if_pos room
      cases format <;> simp only [Format.store, Frame.store, Frame.storeQT, Bool.false_eq_true, if_false, put] at h <;>
        exact ⟨rfl, room, (Except.ok.inj h).symm⟩
    · have put : f.put p = .error (.pointStore f.pointCloudIndex) := if_neg room
      cases format <;> simp only [Format.store, Frame.store, Frame.storeQT, Bool.false_eq_true, if_false, put] at h <;>
        cases h

theorem store_error {fault : Fault} (h : format.store structured f p = .error fault) :
    structured = false ∧ maxPointCloudNum ≤ f.pointCloudIndex ∧ fault = .pointStore f.pointCloudIndex := by
  cases structured with
  | true => cases format <;> cases h
  | false =>
    by_cases room : f.pointCloudIndex < maxPointCloudNum
    · have put : f.put p = .ok { f with
          pointCloud := Function.update f.pointCloud f.pointCloudIndex p, stored := f.stored + 1 } := if_pos room
      cases format <;> simp only [Format.store, Frame.store, Frame.storeQT, Bool.false_eq_true, if_false, put] at h <;>
        cases h
    · have put : f.put p = .error (.pointStore f.pointCloudIndex) := if_neg room
      refine ⟨rfl, Nat.le_of_not_lt room, ?_⟩
      cases format <;> simp only [Format.store, Frame.store, Frame.storeQT, Bool.false_eq_true, if_false, put] at h <;>
        exact (Except.error.inj h).symm

theorem store_sameOutput (h : format.store structured f p = .ok g) : f.SameOutput g := by
  rcases store_cases h with ⟨-, rfl⟩ | ⟨-, -, rfl⟩ <;> exact ⟨rfl, rfl, rfl, rfl, rfl, rfl⟩

theorem Frame.Holds.store (holds : f.Holds structured waiting) (h : format.store structured f p = .ok g) :
    g.Holds structured (waiting ++ [p]) := by
  rcases store_cases h with ⟨rfl, rfl⟩ | ⟨rfl, -, rfl⟩
  · refine ⟨nofun, nofun, fun r => ?_, holds.outMsg⟩
    have rings := holds.rings
    simp only [if_true] at rings
    simp only [Frame.pushBack, if_true, Buckets.bucket_append, Buckets.bucket_singleton]
    rcases eq_or_ne p.ring r with rfl | other
    · simp [rings]
    · simp [Function.update_of_ne other.symm, rings, other]
  · have index := holds.index rfl
    refine ⟨fun _ => ?_, fun _ => ?_, holds.rings, nofun⟩
    · simp [index]
    · rw [List.length_append, List.length_singleton, List.range_succ, List.map_append, ← index]
      have kept : (List.range f.pointCloudIndex).map (Function.update f.pointCloud f.pointCloudIndex p) = waiting := by
        rw [← holds.array rfl, ← index]
        refine List.map_congr_left fun k bound => Function.update_of_ne ?_ ..
        exact Nat.ne_of_lt (List.mem_range.mp bound)
      rw [kept, List.map_singleton]
      exact congrArg (waiting ++ [·]) (Function.update_self ..)

end Store

/-! ### The point-calculation functions -/

section Calc

variable {cfg : Config} {ctx : PacketContext} {blockid : Nat} {block : LidarBlock} {f g : Frame} {waiting : List PPoint}

theorem calcBlock_eq :
    calcBlock cfg ctx blockid block f =
      (blockPoints cfg ctx blockid block).foldlM (ctx.format.store cfg.structured) f := by
  have loop (store : Bool → Frame → PPoint → Except Fault Frame) :
      calcWith store cfg ctx blockid block f = (blockPoints cfg ctx blockid block).foldlM (store cfg.structured) f := by
    rw [calcWith, blockPoints, List.foldlM_map, List.foldlM_filter]
    rfl
  unfold calcBlock
  cases ctx.format <;> exact loop _

theorem storeAll_ok {format : Format} {structured : Bool} {points : List PPoint} (holds : f.Holds structured waiting)
    (h : points.foldlM (format.store structured) f = .ok g) :
    g.Holds structured (waiting ++ points) ∧ f.SameOutput g := by
  induction points generalizing f waiting with
  | nil =>
    obtain rfl : f = g := Except.ok.inj h
    exact ⟨by simpa using holds, .refl f⟩
  | cons p points ih =>
    rw [List.foldlM_cons] at h
    cases first : format.store structured f p with
    | error fault => rw [first] at h; cases h
    | ok m =>
      rw [first] at h
      obtain ⟨rest, same⟩ := ih (holds.store first) h
      exact ⟨by simpa using rest, (store_sameOutput first).trans same⟩

theorem storeAll_error {format : Format} {structured : Bool} {points : List PPoint} {fault : Fault}
    (h : points.foldlM (format.store structured) f = .error fault) :
    structured = false ∧
      ∃ k, maxPointCloudNum ≤ k ∧ fault = .pointStore k := by
  induction points generalizing f with
  | nil => cases h
  | cons p points ih =>
    rw [List.foldlM_cons] at h
    cases first : format.store structured f p with
    | error e =>
      rw [first] at h
      obtain rfl := Except.error.inj h
      obtain ⟨mode, full, rfl⟩ := store_error first
      exact ⟨mode, _, full, rfl⟩
    | ok m => rw [first] at h; exact ih h

theorem calcBlock_ok (holds : f.Holds cfg.structured waiting) (h : calcBlock cfg ctx blockid block f = .ok g) :
    g.Holds cfg.structured (waiting ++ blockPoints cfg ctx blockid block) ∧ f.SameOutput g := by
  rw [calcBlock_eq] at h
  exact storeAll_ok holds h

theorem calcBlock_sameOutput (h : calcBlock cfg ctx blockid block f = .ok g) : f.SameOutput g := by
  rw [calcBlock_eq] at h
  refine (Runs.run_of_foldlM_ok h).invariant (I := fun m => f.SameOutput m) ?_ (.refl f)
  intro m n p same stored
  exact same.trans (store_sameOutput stored)

theorem calcBlock_error {fault : Fault} (h : calcBlock cfg ctx blockid block f = .error fault) :
    cfg.structured = false ∧ ∃ k, maxPointCloudNum ≤ k ∧ fault = .pointStore k := by
  rw [calcBlock_eq] at h
  exact storeAll_error h

/-- In structured mode only the QT store moves the index. -/
theorem calcBlock_index (structured : cfg.structured = true) (format : ctx.format ≠ .qt)
    (h : calcBlock cfg ctx blockid block f = .ok g) : g.pointCloudIndex = f.pointCloudIndex := by
  rw [calcBlock_eq, structured] at h
  generalize blockPoints cfg ctx blockid block = points at h
  induction points generalizing f with
  | nil =>
    obtain rfl : f = g := Except.ok.inj h
    rfl
  | cons p points ih =>
    rw [List.foldlM_cons] at h
    cases first : ctx.format.store true f p with
    | error fault => rw [first] at h; cases h
    | ok m =>
      rw [first] at h
      rcases store_cases first with ⟨-, rfl⟩ | ⟨unstructured, -⟩
      · rw [ih h]
        exact if_neg format
      · cases unstructured

end Calc

/-! ### Emission -/

section Emit

variable {structured : Bool} {chLaserNumber : Nat} {f : Frame} {waiting : List PPoint}

theorem Frame.Holds.gathered (holds : f.Holds true waiting) :
    f.gathered chLaserNumber = Buckets.gather PointXYZIT.ring chLaserNumber waiting := by
  have rings : f.pointCloudList = fun r => Buckets.bucket PointXYZIT.ring r waiting := funext holds.rings
  rw [Frame.gathered, rings]
  rfl

variable (chLaserNumber) in
theorem Frame.Holds.fill (holds : f.Holds structured waiting) :
    (f.fill structured chLaserNumber).outMsg.points = arrange structured chLaserNumber waiting := by
  cases structured with
  | false => simp [Frame.fill, PointCloud.assign, arrange, holds.index rfl, holds.array rfl]
  | true =>
    simp only [Frame.fill, if_true, PointCloud.pushAll, holds.gathered, arrange]
    split
    · rename_i empty
      rw [holds.outMsg rfl, List.isEmpty_iff.mp empty]
    · simp [holds.outMsg rfl]

/-- What an emission does: the handed-over points leave in one callback unless there are none, and the
buffers keep the rest. -/
structure Emits (structured : Bool) (chLaserNumber : Nat) (f g : Frame) (waiting : List PPoint) : Prop where
  holds : g.Holds structured (leftover structured chLaserNumber waiting)
  lastAzimuth : g.lastAzimuth = f.lastAzimuth
  lastTimestamp : g.lastTimestamp = f.lastTimestamp
  scan : g.scan = f.scan
  stored : g.stored = 0
  index : g.pointCloudIndex = if structured then f.pointCloudIndex else 0
  callbacks :
    arrange structured chLaserNumber waiting = [] ∧ g.callbacks = f.callbacks ∨
    ∃ cloud first, cloud.points = arrange structured chLaserNumber waiting ∧ cloud.points.head? = some first ∧
      g.callbacks = f.callbacks ++ [⟨cloud, first.timestamp, f.scan⟩]

theorem leftover_holds (holds : f.Holds structured waiting) {g : Frame}
    (index : structured = false → g.pointCloudIndex = 0)
    (rings : g.pointCloudList = if structured then (f.clearRings chLaserNumber).pointCloudList else f.pointCloudList)
    (outMsg : structured = true → g.outMsg.points = []) :
    g.Holds structured (leftover structured chLaserNumber waiting) := by
  cases structured with
  | false =>
    refine ⟨fun mode => (index mode).trans rfl, fun _ => rfl, fun r => ?_, nofun⟩
    rw [rings]
    exact holds.rings r
  | true =>
    refine ⟨nofun, nofun, fun r => ?_, outMsg⟩
    rw [rings]
    simp only [if_true, Frame.clearRings, leftover, Buckets.bucket_filter_ge, holds.rings]

variable (chLaserNumber) in
theorem emitBackMessege_spec (holds : f.Holds structured waiting) :
    Emits structured chLaserNumber f (emitBackMessege structured chLaserNumber f) waiting := by
  have filled := holds.fill chLaserNumber
  unfold emitBackMessege
  dsimp only
  split
  · rename_i empty
    rw [empty] at filled
    cases structured with
    | false =>
      exact
        { holds := leftover_holds holds (fun _ => rfl) rfl nofun
          lastAzimuth := rfl, lastTimestamp := rfl, scan := rfl, stored := rfl, index := rfl
          callbacks := .inl ⟨filled.symm, rfl⟩ }
    | true =>
      exact
        { holds := leftover_holds holds nofun rfl fun _ => empty
          lastAzimuth := rfl, lastTimestamp := rfl, scan := rfl, stored := rfl, index := rfl
          callbacks := .inl ⟨filled.symm, rfl⟩ }
  · rename_i first rest points
    cases structured with
    | false =>
      exact
        { holds := leftover_holds holds (fun _ => rfl) rfl nofun
          lastAzimuth := rfl, lastTimestamp := rfl, scan := rfl, stored := rfl, index := rfl
          callbacks := .inr ⟨_, first, filled, by rw [points]; rfl, rfl⟩ }
    | true =>
      -- A cloud with a point comes from at least one laser, so the cloud object is emptied.
      have lasers : chLaserNumber ≠ 0 := by
        rintro rfl
        rw [points] at filled
        cases filled
      simp only [if_true, Frame.clearOutMsg, lasers, if_false]
      exact
        { holds := leftover_holds holds nofun rfl fun _ => rfl
          lastAzimuth := rfl, lastTimestamp := rfl, scan := rfl, stored := rfl, index := rfl
          callbacks := .inr ⟨_, first, filled, by rw [points]; rfl, rfl⟩ }

theorem emitBackMessege_callbacks (structured : Bool) (lasers : Nat) :
    (emitBackMessege structured lasers f).callbacks = f.callbacks ++
      match (f.fill structured lasers).outMsg.points with
      | [] => []
      | first :: _ => [⟨(f.fill structured lasers).outMsg, first.timestamp, f.scan⟩] := by
  have kept : (f.fill structured lasers).callbacks = f.callbacks ∧ (f.fill structured lasers).scan = f.scan := by
    unfold Frame.fill
    split <;> exact ⟨rfl, rfl⟩
  unfold emitBackMessege Frame.clearOutMsg
  dsimp only
  cases (f.fill structured lasers).outMsg.points with
  | nil =>
    rw [List.append_nil]
    dsimp only
    split <;> exact kept.1
  | cons first rest =>
    rw [← kept.1, ← kept.2]
    dsimp only
    split_ifs <;> rfl

/-- What a cut in front of a block does to the frame. -/
structure Cuts (cfg : Config) (packet : LidarPacket) (f g : Frame) (waiting : List PPoint) : Prop where
  holds : g.Holds cfg.structured (leftover cfg.structured packet.header.chLaserNumber waiting)
  lastAzimuth : g.lastAzimuth = f.lastAzimuth
  lastTimestamp : g.lastTimestamp = f.lastTimestamp
  scan : g.scan = []
  stored : g.stored = 0
  index : g.pointCloudIndex = if cfg.structured then f.pointCloudIndex else 0
  callbacks :
    arrange cfg.structured packet.header.chLaserNumber waiting = [] ∧ g.callbacks = f.callbacks ∨
    ∃ cloud first, cloud.points = arrange cfg.structured packet.header.chLaserNumber waiting ∧
      cloud.points.head? = some first ∧
      g.callbacks = f.callbacks ++
        [⟨cloud, first.timestamp, f.scan ++ [saveCorrectionFile cfg packet.header.chLaserNumber]⟩]

theorem cut_spec (cfg : Config) (packet : LidarPacket) (holds : f.Holds cfg.structured waiting) :
    Cuts cfg packet f (f.cut cfg packet) waiting := by
  have emits := emitBackMessege_spec packet.header.chLaserNumber
    (f := { f with scan := f.scan ++ [saveCorrectionFile cfg packet.header.chLaserNumber] }) ⟨holds.index, holds.array, holds.rings, holds.outMsg⟩
  exact
    { holds := ⟨emits.holds.index, emits.holds.array, emits.holds.rings, emits.holds.outMsg⟩
      lastAzimuth := emits.lastAzimuth
      lastTimestamp := emits.lastTimestamp
      scan := rfl
      stored := emits.stored
      index := emits.index
      callbacks := emits.callbacks }

end Emit

end HesaiLidar
