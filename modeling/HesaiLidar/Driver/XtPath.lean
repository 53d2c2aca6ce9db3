import HesaiLidar.Frame.Segmentation
import HesaiLidar.Wire.XtFormat

/-!
# The XT path

A driver without transform frames whose packets are all handled by the XT branch or dropped. Its
frames are the segments of the accepted blocks: nothing is lost, repeated or moved across a boundary.
-/

namespace HesaiLidar

def xtLasers : LidarType → Nat
  | .pandarXT16 => 16
  | _ => 32

theorem xtLasers_le (lidarType : LidarType) : xtLasers lidarType ≤ maxLaserNum := by
  cases lidarType <;> decide

theorem dispatch_xt {lidarType : LidarType} {size : Nat} (h : dispatch lidarType size = some .xt) :
    size = 1080 ∧ lidarType ≠ .pandarXT16 ∨ size = 568 ∧ lidarType = .pandarXT16 ∨
      size = 820 ∧ lidarType ≠ .pandarXT16 := by
  unfold dispatch at h
  split_ifs at h with _ _ _ _ sizes
  · cases h
  · cases h
  · cases h
  · cases h
  · rcases sizes with ⟨rfl, rfl | rfl⟩ | ⟨rfl, rfl⟩ | ⟨rfl, rfl⟩
    · exact .inl ⟨rfl, nofun⟩
    · exact .inl ⟨rfl, nofun⟩
    · exact .inr (.inl ⟨rfl, rfl⟩)
    · exact .inr (.inr ⟨rfl, nofun⟩)

variable {cfg : Config} {packet : PandarPacket} {stamp : ℚ} {a : AcceptedPacket} {s t : Driver}

/-- The size tests leave the XT parser inside the packet array. -/
theorem parse_xt (dispatched : dispatch cfg.lidarType packet.size = some .xt) :
    parse cfg .xt ⟨packet.data, ethernetMtu⟩ packet.size =
      .ok (if XtFormat.WellFormed packet.data packet.size then
        some (XtFormat.packetAt cfg.mktime packet.data packet.size) else none) := by
  have covered : ((packet.size : Int)).toNat ≤ ethernetMtu := by
    rcases dispatch_xt dispatched with ⟨size, -⟩ | ⟨size, -⟩ | ⟨size, -⟩ <;> rw [size] <;> decide
  unfold parse
  dsimp only
  split
  · rename_i wellFormed
    exact XtFormat.parse_of_wellFormed wellFormed covered
  · rename_i malformed
    exact XtFormat.parse_of_malformed malformed covered

/-- An admitted XT packet has the lasers of the model and begins with the XT magic. -/
theorem Admitted.xt (admitted : Admitted cfg packet stamp a) (format : a.format = .xt) :
    a.Uniform (xtLasers cfg.lidarType) ∧ a.raw.isCorrection = false := by
  have dispatched := admitted.format
  have parsed := admitted.parsed
  rw [format] at dispatched parsed
  rw [parse_xt dispatched] at parsed
  split at parsed
  · rename_i wellFormed
    have same : XtFormat.packetAt cfg.mktime packet.data packet.size = a.packet := Option.some.inj (Except.ok.inj parsed)
    have lasers : XtFormat.laserNumber packet.data = xtLasers cfg.lidarType := by
      have counts := wellFormed.counts
      simp only [List.mem_cons, Prod.mk.injEq, List.not_mem_nil, or_false] at counts
      rcases dispatch_xt dispatched with ⟨size, model⟩ | ⟨size, model⟩ | ⟨size, model⟩ <;> rw [size] at counts
      · cases type : cfg.lidarType <;> simp_all [xtLasers]
      · simp_all [xtLasers]
      · cases type : cfg.lidarType <;> simp_all [xtLasers]
    constructor
    · constructor
      · rw [format]
        decide
      · rw [← same]
        exact lasers
      · rw [← same]
        intro block member
        simp only [XtFormat.packetAt, assemble, List.mem_map, List.mem_range] at member
        obtain ⟨b, -, rfl⟩ := member
        simp [Layout.blockAt, lasers]
    · have raw := admitted.raw
      unfold rawPacket at raw
      split at raw
      · have long : 2 ≤ packet.size := by
          rcases dispatch_xt dispatched with ⟨size, -⟩ | ⟨size, -⟩ | ⟨size, -⟩ <;> rw [size] <;> decide
        rw [← Except.ok.inj raw, PandarPacketMsg.isCorrection, decide_eq_false_iff_not]
        obtain ⟨rest, size⟩ := Nat.exists_eq_add_of_le long
        simp [size, List.range_add, List.range_succ, wellFormed.magic.1]
      · cases raw
  · cases parsed

/-! ### Outcomes without transform frames -/

/-- The two accesses out of bounds left on the XT path: a frame that outgrows the point array, and a
packet larger than the packet array. -/
def OutOfRoom (stop : Stop Driver) : Prop :=
  (∃ k, maxPointCloudNum ≤ k ∧ stop = .undefined (.pointStore k)) ∨
    ∃ size, ethernetMtu < size ∧ stop = .undefined (.packetCopy size)

/-- Packets the XT branch handles and packets that are dropped for their size. -/
def OnXtPath (cfg : Config) (packet : PandarPacket) : Prop :=
  dispatch cfg.lidarType packet.size = none ∨ dispatch cfg.lidarType packet.size = some .xt

theorem Admitted.xt_format (admitted : Admitted cfg packet stamp a) (path : OnXtPath cfg packet) : a.format = .xt := by
  rcases path with dropped | dispatched
  · exact absurd (dropped.symm.trans admitted.format) nofun
  · exact Option.some.inj (admitted.format.symm.trans dispatched)

instance : Decidable (OnXtPath cfg packet) := inferInstanceAs (Decidable (_ ∨ _))

theorem accept_error (noTf : s.NoTf cfg) (path : OnXtPath cfg packet) {stop : Stop Driver}
    (h : s.accept cfg stamp packet = .error stop) : OutOfRoom stop := by
  have ways := accept_cases cfg s packet stamp
  rw [h] at ways
  cases ways with
  | tooLarge large => exact .inr ⟨_, large, rfl⟩
  | lookup _ failed =>
    rw [computeTransformToFixed_noTf noTf] at failed
    cases failed
  | parser dispatched faulty =>
    rcases path with dropped | xt
    · rw [dropped] at dispatched
      cases dispatched
    · obtain rfl := Option.some.inj (dispatched.symm.trans xt)
      rw [parse_xt xt] at faulty
      cases faulty

/-! ### The run -/

/-- The accepted packets come from the popped ones, in order and each at most once. -/
def AcceptedFrom (cfg : Config) (popped : List PandarPacket) (accepted : List AcceptedPacket) : Prop :=
  ∃ kept, kept.Sublist popped ∧
    List.Forall₂ (fun packet a => packet.stamp = .finite a.stamp ∧ Admitted cfg packet a.stamp a) kept accepted

theorem AcceptedFrom.skip {popped : List PandarPacket} {accepted : List AcceptedPacket}
    (from' : AcceptedFrom cfg popped accepted) (packet : PandarPacket) : AcceptedFrom cfg (popped ++ [packet]) accepted := by
  obtain ⟨kept, sublist, admitted⟩ := from'
  exact ⟨kept, sublist.trans (List.sublist_append_left ..), admitted⟩

theorem AcceptedFrom.keep {popped : List PandarPacket} {accepted : List AcceptedPacket}
    (from' : AcceptedFrom cfg popped accepted) (finite : packet.stamp = .finite a.stamp)
    (admitted : Admitted cfg packet a.stamp a) : AcceptedFrom cfg (popped ++ [packet]) (accepted ++ [a]) := by
  obtain ⟨kept, sublist, earlier⟩ := from'
  exact ⟨kept ++ [packet], sublist.append (.refl _), List.rel_append earlier (.cons ⟨finite, admitted⟩ .nil)⟩

/-- Every accepted packet is one of the popped ones. -/
theorem AcceptedFrom.source {popped : List PandarPacket} {accepted : List AcceptedPacket}
    (from' : AcceptedFrom cfg popped accepted) (member : a ∈ accepted) :
    ∃ packet ∈ popped, packet.stamp = .finite a.stamp ∧ Admitted cfg packet a.stamp a := by
  obtain ⟨kept, sublist, admitted⟩ := from'
  have found : ∃ packet ∈ kept, packet.stamp = .finite a.stamp ∧ Admitted cfg packet a.stamp a := by
    clear sublist
    induction admitted with
    | nil => cases member
    | cons first _ ih =>
      rcases List.mem_cons.mp member with rfl | later
      · exact ⟨_, List.mem_cons_self, first⟩
      · obtain ⟨packet, known, admitted⟩ := ih later
        exact ⟨packet, List.mem_cons_of_mem _ known, admitted⟩
  obtain ⟨packet, known, admitted⟩ := found
  exact ⟨packet, sublist.subset known, admitted⟩

def Driver.blocks (s : Driver) : List BlockEntry := s.accepted.flatMap AcceptedPacket.entries

/-- The state after some popped packets on the XT path. -/
structure XtRun (cfg : Config) (popped : List PandarPacket) (s : Driver) : Prop where
  noTf : s.NoTf cfg
  from' : AcceptedFrom cfg popped s.accepted
  represents : Represents cfg (xtLasers cfg.lidarType) s.frame (.split (cutsAt cfg) s.blocks)
    (s.accepted.map AcceptedPacket.raw)
  xt : ∀ a ∈ s.accepted, a.Uniform (xtLasers cfg.lidarType) ∧ a.raw.isCorrection = false

theorem XtRun.drop {popped : List PandarPacket} (run : XtRun cfg popped s) (packet : PandarPacket)
    (noTf : t.NoTf cfg) (frame : t.frame = s.frame) (accepted : t.accepted = s.accepted) :
    XtRun cfg (popped ++ [packet]) t where
  noTf := noTf
  from' := accepted ▸ run.from'.skip packet
  represents := by rw [Driver.blocks, accepted, frame]; exact run.represents
  xt := accepted ▸ run.xt

theorem XtRun.step {popped : List PandarPacket} (run : XtRun cfg popped s) (path : OnXtPath cfg packet) :
    Runs.Outcome (XtRun cfg (popped ++ [packet])) OutOfRoom (s.processPacket cfg packet) := by
  cases result : s.processPacket cfg packet with
  | ok t =>
    rcases processPacket_ok result with ⟨-, rfl⟩ | ⟨stamp, finite, -, admitted | ⟨m, a, admitted, blocks⟩⟩
    · exact run.drop packet run.noTf rfl rfl
    · obtain ⟨frame, accepted, -, -, noTf, -⟩ := accept_ok admitted
      exact run.drop packet (noTf run.noTf) frame accepted
    · obtain ⟨frame, accepted, -, stamped, noTf, admitted⟩ := accept_ok admitted
      have admitted := admitted a rfl
      obtain rfl := admitted.stamp
      have xt := admitted.xt (admitted.xt_format path)
      obtain ⟨g, framed, rfl⟩ := processBlocks_noTf_ok (noTf run.noTf) stamped blocks
      rw [frame] at framed
      have frames := run.represents.packet (fun e member => xt.1.entry member) (xtLasers_le cfg.lidarType) framed
      exact
        { noTf := noTf run.noTf
          from' := by
            rw [accepted]
            exact run.from'.keep finite admitted
          represents := by
            rw [accepted, Driver.blocks, List.flatMap_append, List.flatMap_singleton, Segments.split_append, List.map_append]
            exact frames
          xt := by
            rw [accepted]
            intro b member
            rcases List.mem_append.mp member with old | new
            · exact run.xt b old
            · obtain rfl := List.mem_singleton.mp new
              exact xt }
  | error stop =>
    obtain ⟨stamp, -, early | ⟨m, a, admitted, blocks⟩⟩ := processPacket_stopped result
    · exact accept_error (s := s.guarded packet) run.noTf path early
    · obtain ⟨-, -, -, stamped, noTf, known⟩ := accept_ok admitted
      obtain ⟨fault, framed, rfl⟩ :=
        processBlocks_noTf_error (noTf run.noTf) (stamped.trans (known a rfl).stamp.symm) blocks
      obtain ⟨k, full, rfl⟩ := processPacket_error framed
      exact .inl ⟨k, full, rfl⟩

theorem start_xtRun (cfg : Config) (noTf : cfg.fixedFrame = "") (pointCloud : Nat → PPoint) :
    XtRun cfg [] (Driver.start "" pointCloud) where
  noTf := ⟨noTf, rfl⟩
  from' := ⟨[], .slnil, .nil⟩
  represents := start_represents cfg _ pointCloud
  xt := nofun

theorem xtRun_of_run (noTf : cfg.fixedFrame = "") {pointCloud : Nat → PPoint} {popped : List PandarPacket}
    (path : ∀ packet ∈ popped, OnXtPath cfg packet)
    (run : processLiarPacket cfg (Driver.start "" pointCloud) popped = .ok s) : XtRun cfg popped s := by
  have packets : popped.foldlM (Driver.processPacket cfg) (Driver.start "" pointCloud) = .ok s := run
  have outcome := Runs.foldlM_outcome (f := Driver.processPacket cfg) (I := XtRun cfg) XtRun.step
    (start_xtRun cfg noTf pointCloud) path
  rw [List.nil_append, packets] at outcome
  exact outcome

/-- What is conserved: the points are those of the valid units of the accepted packets, each in one cloud or
still buffered; clouds and buffers are the segments of the accepted blocks; and every emitted scan holds the
messages of its frame and then one correction packet. -/
structure FramesConserved (cfg : Config) (popped : List PandarPacket) (s : Driver) : Prop where
  accepted : AcceptedFrom cfg popped s.accepted
  units : ∀ a ∈ s.accepted,
    (pointsOf cfg a.entries).length = (a.packet.blocks.flatMap LidarBlock.units).countP LidarUnit.valid
  points : ((s.frame.callbacks.flatMap fun c => c.cloud.points) ++ s.frame.buffered cfg.structured).Perm
    (s.accepted.flatMap fun a => pointsOf cfg a.entries)
  order : cfg.structured = false →
    (s.frame.callbacks.flatMap fun c => c.cloud.points) ++ s.frame.buffered cfg.structured =
      s.accepted.flatMap fun a => pointsOf cfg a.entries
  clouds : (s.frame.callbacks.map fun c => c.cloud.points) =
    (Segments.split (cutsAt cfg) s.blocks).closed.map (cloudOf cfg)
  buffered : s.frame.buffered cfg.structured = cloudOf cfg (Segments.split (cutsAt cfg) s.blocks).current
  scans : (s.frame.callbacks.flatMap fun c => c.scan.filter fun msg => ¬ msg.isCorrection) ++ s.frame.scan =
    s.accepted.map AcceptedPacket.raw
  corrections : ∀ c ∈ s.frame.callbacks, c.scan.countP PandarPacketMsg.isCorrection = 1 ∧
    c.scan.getLast? = some (saveCorrectionFile cfg (xtLasers cfg.lidarType))

theorem pointsOf_blocks (s : Driver) : pointsOf cfg s.blocks = s.accepted.flatMap fun a => pointsOf cfg a.entries := by
  simp only [pointsOf, Driver.blocks, List.flatMap_assoc]

theorem length_pointsOf (a : AcceptedPacket) :
    (pointsOf cfg a.entries).length = (a.packet.blocks.flatMap LidarBlock.units).countP LidarUnit.valid := by
  have blocks : (a.packet.blocks.zipIdx.map Prod.fst) = a.packet.blocks := List.zipIdx_map_fst ..
  rw [← blocks, pointsOf, List.length_flatMap, List.countP_flatMap, AcceptedPacket.entries, List.map_map, List.map_map]
  exact congrArg List.sum (List.map_congr_left fun _ _ => length_blockPoints ..)

/-- A scan of LiDAR messages that ends in the correction packet. -/
theorem Represents.scan_eq {lasers : Nat} {f : Frame} {segments : Segments BlockEntry} {messages : List PandarPacketMsg}
    (rep : Represents cfg lasers f segments messages) (lidar : ∀ msg ∈ messages, msg.isCorrection = false)
    {c : Callback} (member : c ∈ f.callbacks) :
    (c.scan.filter fun msg => ¬ msg.isCorrection) = c.scan.dropLast ∧ c.scan.countP PandarPacketMsg.isCorrection = 1 := by
  obtain ⟨e, -, last⟩ := rep.corrected c member
  have front : ∀ msg ∈ c.scan.dropLast, msg.isCorrection = false := by
    intro msg earlier
    apply lidar
    rw [← rep.scans]
    exact List.mem_append_left _ (List.mem_flatMap.mpr ⟨c, member, earlier⟩)
  obtain ⟨init, split⟩ := List.getLast?_eq_some_iff.mp last
  rw [split, List.dropLast_concat] at front
  rw [split, List.dropLast_concat, List.filter_append, List.countP_append]
  constructor
  · rw [List.filter_eq_self.mpr (by simpa using front)]
    simp [saveCorrectionFile_isCorrection]
  · rw [List.countP_eq_zero.mpr (by simpa using front)]
    simp [saveCorrectionFile_isCorrection]

theorem cloudOf_perm {segment : List BlockEntry} (rings : ∀ p ∈ pointsOf cfg segment, p.ring < maxLaserNum) :
    (cloudOf cfg segment).Perm (pointsOf cfg segment) := by
  unfold cloudOf arrange
  split
  · exact Buckets.gather_perm rings
  · exact .refl _

theorem cloudOf_unstructured (unstructured : cfg.structured = false) (segment : List BlockEntry) :
    cloudOf cfg segment = pointsOf cfg segment := by
  rw [cloudOf, arrange, unstructured, if_neg Bool.false_ne_true]

theorem pointsOf_all (segments : Segments BlockEntry) :
    pointsOf cfg segments.all = segments.closed.flatMap (pointsOf cfg) ++ pointsOf cfg segments.current := by
  rw [Segments.all, pointsOf_append, pointsOf, List.flatten_eq_flatMap, List.flatMap_assoc]
  rfl

/-- Every block comes from an accepted packet with the lasers of the model. -/
theorem XtRun.of_mem_blocks {popped : List PandarPacket} (run : XtRun cfg popped s) {e : BlockEntry} (member : e ∈ s.blocks) :
    e.accepted.packet.header.chLaserNumber = xtLasers cfg.lidarType ∧ e.block.units.length ≤ xtLasers cfg.lidarType := by
  obtain ⟨a, accepted, entry⟩ := List.mem_flatMap.mp member
  obtain ⟨rfl, block⟩ := a.mem_entries entry
  have uniform := (run.xt e.accepted accepted).1
  exact ⟨uniform.chLaserNumber, uniform.units e.block block⟩

theorem XtRun.rings {popped : List PandarPacket} (run : XtRun cfg popped s) {p : PPoint}
    (member : p ∈ pointsOf cfg s.blocks) : p.ring < maxLaserNum := by
  obtain ⟨e, entry, point⟩ := List.mem_flatMap.mp member
  exact Nat.lt_of_lt_of_le (ring_lt point) ((run.of_mem_blocks entry).2.trans (xtLasers_le cfg.lidarType))

theorem XtRun.conserved {popped : List PandarPacket} (run : XtRun cfg popped s) : FramesConserved cfg popped s := by
  have rep := run.represents
  have buffered : s.frame.buffered cfg.structured = cloudOf cfg (Segments.split (cutsAt cfg) s.blocks).current :=
    rep.holds.buffered
  have clouds : (s.frame.callbacks.flatMap fun c => c.cloud.points) =
      (Segments.split (cutsAt cfg) s.blocks).closed.flatMap (cloudOf cfg) := by
    rw [List.flatMap_def, List.flatMap_def, rep.clouds]
  have all : s.accepted.flatMap (fun a => pointsOf cfg a.entries) =
      (Segments.split (cutsAt cfg) s.blocks).closed.flatMap (pointsOf cfg) ++
        pointsOf cfg (Segments.split (cutsAt cfg) s.blocks).current := by
    rw [← pointsOf_blocks, ← pointsOf_all, Segments.all_split _]
  have rings : ∀ p ∈ s.accepted.flatMap (fun a => pointsOf cfg a.entries), p.ring < maxLaserNum := by
    rw [← pointsOf_blocks]
    exact fun p member => run.rings member
  rw [all] at rings
  have lidar : ∀ msg ∈ s.accepted.map AcceptedPacket.raw, msg.isCorrection = false := by
    rintro _ member
    obtain ⟨a, accepted, rfl⟩ := List.mem_map.mp member
    exact (run.xt a accepted).2
  exact
    { accepted := run.from'
      units := fun a _ => length_pointsOf a
      points := by
        rw [clouds, buffered, all]
        refine .append (List.Perm.flatMap_left _ fun segment closed => cloudOf_perm fun p point => ?_)
          (cloudOf_perm fun p point => ?_)
        · exact rings p (List.mem_append_left _ (List.mem_flatMap.mpr ⟨segment, closed, point⟩))
        · exact rings p (List.mem_append_right _ point)
      order := by
        intro unstructured
        rw [clouds, buffered, all, show cloudOf cfg = pointsOf cfg from funext (cloudOf_unstructured unstructured)]
      clouds := rep.clouds
      buffered := buffered
      scans := by
        rw [← rep.scans]
        congr 1
        rw [List.flatMap_def, List.flatMap_def]
        exact congrArg List.flatten (List.map_congr_left fun c member => (rep.scan_eq lidar member).1)
      corrections := by
        intro c member
        obtain ⟨e, known, last⟩ := rep.corrected c member
        rw [Segments.all_split _] at known
        rw [(run.of_mem_blocks known).1] at last
        exact ⟨(rep.scan_eq lidar member).2, last⟩ }

/-- From `Start`, on any popped packets the XT branch handles or drops, the run ends in one of the two
accesses out of room or conserves everything. -/
theorem xt_frames_conserved (cfg : Config) (noTf : cfg.fixedFrame = "") (pointCloud : Nat → PPoint)
    (popped : List PandarPacket) (path : ∀ packet ∈ popped, OnXtPath cfg packet) :
    Runs.Outcome (FramesConserved cfg popped) OutOfRoom (processLiarPacket cfg (Driver.start "" pointCloud) popped) := by
  have outcome := Runs.foldlM_outcome (f := Driver.processPacket cfg) (I := XtRun cfg) XtRun.step
    (start_xtRun cfg noTf pointCloud) path
  rw [List.nil_append] at outcome
  have entry : processLiarPacket cfg (Driver.start "" pointCloud) popped =
      popped.foldlM (Driver.processPacket cfg) (Driver.start "" pointCloud) := rfl
  rw [entry]
  cases result : popped.foldlM (Driver.processPacket cfg) (Driver.start "" pointCloud) with
  | error stop => rw [result] at outcome; exact outcome
  | ok t => rw [result] at outcome; exact outcome.conserved

/-- An XT16 packet with one return in each block. -/
def xt16Packet (stamp : ℚ) (sequence : UInt8) (azimuth : Nat → Nat) : PandarPacket where
  stamp := .finite stamp
  size := 568
  data := fun i => if i = 564 then sequence else layoutXT.payload 16 8 azimuth (fun _ unit => unit = 0) i

/-- Three packets, the last one a duplicate: one boundary in the middle of the second packet. -/
theorem xt_frames_conserved_sweep :
    let cfg := Config.plain .pandarXT16 0 0
    let popped := [xt16Packet 10 0 fun b => 35800 + b, xt16Packet 11 1 fun b => (35996 + b) % 36000,
      xt16Packet 12 1 fun b => 10 + b]
    ∃ s, processLiarPacket cfg (Driver.start "" fun _ => ⟨0, 0, 0, 0, 0, 0⟩) popped = .ok s ∧
      (s.frame.callbacks.map fun c => (c.cloud.points.length, c.scan.length)) = [(12, 3)] ∧ FramesConserved cfg popped s := by
  intro cfg popped
  have outcome := xt_frames_conserved cfg rfl (fun _ => ⟨0, 0, 0, 0, 0, 0⟩) popped
    (by decide)
  have emitted : (processLiarPacket cfg (Driver.start "" fun _ => ⟨0, 0, 0, 0, 0, 0⟩) popped).toOption.map
      (fun s => s.frame.callbacks.map fun c => (c.cloud.points.length, c.scan.length)) = some [(12, 3)] := by
    decide +kernel
  obtain ⟨s, run, sizes⟩ := Except.ok_of_map emitted
  rw [run] at outcome
  exact ⟨s, run, sizes, outcome⟩

end HesaiLidar
