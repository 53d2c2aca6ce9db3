import HesaiLidar.Driver.ProcessLiarPacket
import HesaiLidar.Frame.CheckedPoints
import HesaiLidar.Wire.HeaderCounts

/-!
# Table accesses

Which accesses of the packet path are in bounds and initialised when the tables are as `Init` leaves them. The
formats are told apart by the payload size and count their blocks and lasers by the header, but the angle tables have
the size of the configured model and the firing-time tables that of one variant of a format.
-/

namespace HesaiLidar

open Slots

/-! ### The packet path with its accesses -/

inductive AccessFault where
  | packet (fault : Fault)
  | table (misread : Misread)
  deriving DecidableEq, Repr

/-- The parser and the point-calculation function the dispatch selects, on every block. -/
def checkedPacket (cfg : Config) (tables : InitTables) (dPktTimestamp : ℚ) (transformPoint : Affine3) (data : Nat → UInt8)
    (size : Nat) : Except AccessFault (List (List PPoint)) :=
  match dispatch cfg.lidarType size with
  | none => .ok []
  | some format =>
    match parse cfg format ⟨data, ethernetMtu⟩ size with
    | .error fault => .error (.packet fault)
    | .ok none => .ok []
    | .ok (some packet) =>
      (packet.blocks.zipIdx.mapM fun (block, blockid) =>
        checkedBlock cfg tables ⟨format, packet, dPktTimestamp, transformPoint⟩ blockid block).mapError .table

/-! ### What a payload declares -/

def Format.layout : Format → Layout
  | .pandar40P => layout40P
  | .l64 => layoutL64
  | .l20 => layoutL20
  | .qt => layoutQT
  | .xt => layoutXT

def Format.counts (format : Format) (bytes : Nat → UInt8) : HeaderCounts :=
  match format with
  | .pandar40P => ⟨Pandar40P.laserCount, Pandar40P.blocksPerPacket⟩
  | _ => headerCounts format.layout bytes

def Format.decode (format : Format) (bytes : Nat → UInt8) : DecodeUnit :=
  match format with
  | .pandar40P => decode40PUnit
  | _ => millimetres (bytes (format.layout.laserNumberAt + 3)).toNat

def Format.Accepts (format : Format) (bytes : Nat → UInt8) (size : Nat) : Prop :=
  match format with
  | .pandar40P => True
  | .xt => XtFormat.WellFormed bytes size
  | _ => HasMagic bytes

def Format.returnAt (format : Format) (bytes : Nat → UInt8) (b i : Nat) : LidarUnit :=
  format.layout.unitAt (format.decode bytes) bytes (format.layout.unitOffset (format.counts bytes).laserNumber b i)

def xtEcho (bytes : Nat → UInt8) (size : Nat) : Nat := (bytes (size - 18)).toNat

/-- The tables of a model have what the point of a return is computed from. -/
structure ReturnCovered (cfg : Config) (format : Format) (echo b i : Nat) : Prop where
  laser : i < writtenLasers cfg.lidarType
  firing : format = .pandar40P → i ≠ 7
  block : cfg.realtime = false → format = .l64 → b < L64.blockNumber6
  triple : cfg.realtime = false → format = .xt → echo = 0x3d → cfg.lidarType = .pandarXTM

/-- The counts of a payload fit its packet, and the tables cover every usable return. -/
def Covered (cfg : Config) (bytes : Nat → UInt8) (size : Nat) : Prop :=
  ∀ format, dispatch cfg.lidarType size = some format → format.Accepts bytes size →
    (format.counts bytes).Fit format.layout ∧
      ∀ b < (format.counts bytes).blockNumber, ∀ i < (format.counts bytes).laserNumber,
        (format.returnAt bytes b i).valid = true → ReturnCovered cfg format (xtEcho bytes size) b i

/-! ### The parser -/

variable {cfg : Config} {format : Format} {bytes : Nat → UInt8} {size : Nat}

theorem Format.sound (format : Format) : format.layout.Sound ethernetMtu := by
  cases format <;> exact ⟨by decide, by decide, by decide, by decide⟩

theorem size_of_dispatch (dispatched : dispatch cfg.lidarType size = some format) :
    (size : Int) ∈ format.layout.sizes ∧ (format = .xt → size ≤ ethernetMtu) := by
  unfold dispatch at dispatched
  split at dispatched
  · rename_i same
    cases dispatched
    refine ⟨?_, nofun⟩
    rcases same with rfl | rfl <;> decide
  · split at dispatched
    · rename_i same
      cases dispatched
      refine ⟨?_, nofun⟩
      rcases same with rfl | rfl | rfl | rfl <;> decide
    · split at dispatched
      · rename_i same
        cases dispatched
        refine ⟨?_, nofun⟩
        rw [same]
        decide
      · split at dispatched
        · rename_i same
          cases dispatched
          refine ⟨?_, nofun⟩
          rcases same with rfl | rfl <;> decide
        · split at dispatched
          · rename_i same
            cases dispatched
            rcases same with ⟨rfl, -⟩ | ⟨rfl, -⟩ | ⟨rfl, -⟩ <;> exact ⟨by decide, fun _ => by decide⟩
          · cases dispatched

theorem parse_rejects (dispatched : dispatch cfg.lidarType size = some format) (rejected : ¬ format.Accepts bytes size) :
    parse cfg format ⟨bytes, ethernetMtu⟩ size = .ok none := by
  obtain ⟨known, covered⟩ := size_of_dispatch dispatched
  cases format with
  | pandar40P => exact absurd trivial rejected
  | l64 => exact parseByHeader_rejects known Format.l64.sound rejected
  | l20 => exact parseByHeader_rejects known Format.l20.sound rejected
  | qt => exact parseByHeader_rejects known Format.qt.sound rejected
  | xt => exact XtFormat.parse_of_malformed rejected (covered rfl)

theorem parse_parsesBy (dispatched : dispatch cfg.lidarType size = some format) (accepts : format.Accepts bytes size) :
    ParsesBy format.layout (format.decode bytes) bytes (format.counts bytes) (parse cfg format ⟨bytes, ethernetMtu⟩ size) := by
  obtain ⟨known, covered⟩ := size_of_dispatch dispatched
  cases format with
  | pandar40P => exact parseRawData_parsesBy ⟨bytes, ethernetMtu⟩ known Format.pandar40P.sound
  | l64 => exact parseByHeader_parsesBy ⟨bytes, ethernetMtu⟩ known Format.l64.sound accepts
  | l20 => exact parseByHeader_parsesBy ⟨bytes, ethernetMtu⟩ known Format.l20.sound accepts
  | qt => exact parseByHeader_parsesBy ⟨bytes, ethernetMtu⟩ known Format.qt.sound accepts
  | xt => exact parseXTData_parsesBy ⟨bytes, ethernetMtu⟩ accepts (covered rfl)

theorem echo_of_parse {packet : LidarPacket} (dispatched : dispatch cfg.lidarType size = some .xt)
    (accepts : Format.xt.Accepts bytes size) (parsed : parse cfg .xt ⟨bytes, ethernetMtu⟩ size = .ok (some packet)) :
    packet.echo = xtEcho bytes size := by
  obtain ⟨-, covered⟩ := size_of_dispatch dispatched
  have known : parse cfg .xt ⟨bytes, ethernetMtu⟩ size = .ok (some (XtFormat.packetAt cfg.mktime bytes size)) :=
    XtFormat.parse_of_wellFormed accepts (covered rfl)
  obtain rfl := Option.some.inj (Except.ok.inj (parsed.symm.trans known))
  rfl

/-! ### The points -/

theorem forall_zipIdx_range {α : Type} {f : Nat → α} {n : Nat} {P : α → Nat → Prop} :
    (∀ entry ∈ ((List.range n).map f).zipIdx, P entry.1 entry.2) ↔ ∀ k < n, P (f k) k := by
  constructor
  · intro all k below
    refine all (f k, k) (List.mem_zipIdx_iff_getElem?.mpr ?_)
    rw [List.getElem?_map, List.getElem?_range below, Option.map_some]
  · rintro all ⟨a, k⟩ member
    have found := List.mem_zipIdx_iff_getElem?.mp member
    dsimp only at found
    rw [List.getElem?_map] at found
    obtain ⟨j, place, rfl⟩ := Option.map_eq_some_iff.mp found
    obtain ⟨below, same⟩ := List.getElem?_eq_some_iff.mp place
    rw [List.length_range] at below
    rw [List.getElem_range] at same
    exact same ▸ all k below

variable {trig : Trigonometry} {ctx : PacketContext} {blockid : Nat} {block : LidarBlock}

theorem succeeds_checkedBlock (own : ctx.format = .l20 → blockid < 20) :
    Succeeds (checkedBlock cfg (init trig cfg.lidarType) ctx blockid block) ↔
      ∀ entry ∈ block.units.zipIdx, entry.1.valid = true → PointCovered cfg ctx.format ctx.packet.echo blockid entry.2 := by
  unfold checkedBlock
  rw [succeeds_mapM]
  constructor
  · intro all entry member valid
    exact (succeeds_checkedPoint own).mp (all entry (List.mem_filter.mpr ⟨member, valid⟩))
  · intro all entry member
    obtain ⟨inside, valid⟩ := List.mem_filter.mp member
    exact (succeeds_checkedPoint own).mpr (all entry inside valid)

theorem succeeds_mapError {ε δ α : Type} {x : Except ε α} {f : ε → δ} : Succeeds (x.mapError f) ↔ Succeeds x := by
  cases x with
  | error e => exact iff_of_false (not_succeeds_error _) (not_succeeds_error _)
  | ok a => exact iff_of_true (succeeds_ok a) (succeeds_ok a)

/-- The XT branch is taken for models whose lasers all have an offset, or for one that has none. -/
theorem xtLasers_of_dispatch (dispatched : dispatch cfg.lidarType size = some .xt) :
    (laserXTOffsets cfg.lidarType).length = writtenLasers cfg.lidarType := by
  unfold dispatch at dispatched
  split at dispatched
  · cases dispatched
  · split at dispatched
    · cases dispatched
    · split at dispatched
      · cases dispatched
      · split at dispatched
        · cases dispatched
        · split at dispatched
          · rename_i model
            rcases model with ⟨-, model | model⟩ | ⟨-, model⟩ | ⟨-, model⟩ <;> rw [model] <;> rfl
          · cases dispatched

theorem pointCovered_iff {echo b i : Nat} (dispatched : dispatch cfg.lidarType size = some format)
    (blocks : b < format.layout.blockNumber) (lasers : i < format.layout.unitNum) (mode : format = .xt → echo = xtEcho bytes size) :
    PointCovered cfg format echo b i ↔ ReturnCovered cfg format (xtEcho bytes size) b i := by
  cases format with
  | pandar40P =>
    exact ⟨fun ⟨laser, firing, _⟩ => ⟨laser, fun _ => firing.2, nofun, nofun⟩,
      fun ⟨laser, firing, _, _⟩ => ⟨laser, ⟨lasers, firing rfl⟩, fun _ => blocks⟩⟩
  | l64 =>
    exact ⟨fun ⟨laser, _, block⟩ => ⟨laser, nofun, fun sensor _ => block sensor, nofun⟩,
      fun ⟨laser, _, block, _⟩ => ⟨laser, lasers, fun sensor => block sensor rfl⟩⟩
  | l20 =>
    exact ⟨fun ⟨laser, _, _⟩ => ⟨laser, nofun, nofun, nofun⟩,
      fun ⟨laser, _, _, _⟩ => ⟨laser, lasers, fun _ => blocks⟩⟩
  | qt =>
    exact ⟨fun ⟨laser, _, _⟩ => ⟨laser, nofun, nofun, nofun⟩,
      fun ⟨laser, _, _, _⟩ => ⟨laser, lasers, fun _ => blocks⟩⟩
  | xt =>
    rw [mode rfl]
    exact ⟨fun ⟨laser, _, block⟩ => ⟨laser, nofun, nofun, fun sensor _ => (block sensor).2⟩,
      fun ⟨laser, _, _, triple⟩ =>
        ⟨laser, Nat.lt_of_lt_of_eq laser (xtLasers_of_dispatch dispatched).symm, fun sensor => ⟨blocks, triple sensor rfl⟩⟩⟩

theorem succeeds_points {packet : LidarPacket} {dPktTimestamp : ℚ} {transformPoint : Affine3}
    (dispatched : dispatch cfg.lidarType size = some format) (fit : (format.counts bytes).Fit format.layout)
    (blocks : packet.blocks = format.layout.blocksAt (format.decode bytes) bytes (format.counts bytes))
    (mode : format = .xt → packet.echo = xtEcho bytes size) :
    Succeeds (packet.blocks.zipIdx.mapM fun (block, blockid) =>
      checkedBlock cfg (init trig cfg.lidarType) ⟨format, packet, dPktTimestamp, transformPoint⟩ blockid block) ↔
      ∀ b < (format.counts bytes).blockNumber, ∀ i < (format.counts bytes).laserNumber,
        (format.returnAt bytes b i).valid = true → ReturnCovered cfg format (xtEcho bytes size) b i := by
  -- A block that exists is one the counts allow.
  have inside {b : Nat} (below : b < (format.counts bytes).blockNumber) :
      b < format.layout.blockNumber ∧ (format.counts bytes).laserNumber ≤ format.layout.unitNum := by
    rcases fit with none | ⟨few, lasers⟩
    · omega
    · exact ⟨by omega, lasers⟩
  have own {b : Nat} (below : b < (format.counts bytes).blockNumber) (same : format = .l20) : b < 20 := by
    subst same
    exact (inside below).1
  rw [succeeds_mapM, blocks]
  unfold Layout.blocksAt
  refine (forall_zipIdx_range (P := fun block blockid => Succeeds (checkedBlock cfg (init trig cfg.lidarType)
    ⟨format, packet, dPktTimestamp, transformPoint⟩ blockid block))).trans ?_
  refine forall_congr' fun b => forall_congr' fun below => ?_
  refine (succeeds_checkedBlock (own below)).trans ?_
  unfold Layout.blockAt
  refine (forall_zipIdx_range (P := fun (unit : LidarUnit) i => unit.valid = true → PointCovered cfg format packet.echo b i)).trans ?_
  refine forall_congr' fun i => forall_congr' fun laser => ?_
  obtain ⟨few, lasers⟩ := inside below
  exact imp_congr Iff.rfl (pointCovered_iff dispatched few (Nat.lt_of_lt_of_le laser lasers) mode)

variable {dPktTimestamp : ℚ} {transformPoint : Affine3} {data : Nat → UInt8}

theorem succeeds_checkedPacket :
    Succeeds (checkedPacket cfg (init trig cfg.lidarType) dPktTimestamp transformPoint data size) ↔
      Covered cfg data size := by
  unfold checkedPacket Covered
  cases dispatched : dispatch cfg.lidarType size with
  | none => exact iff_of_true (succeeds_ok _) nofun
  | some format =>
    dsimp only
    by_cases accepts : format.Accepts data size
    · have parses := parse_parsesBy dispatched accepts
      by_cases fit : (format.counts data).Fit format.layout
      · obtain ⟨packet, parsed, blocks⟩ := parses.inside fit
        rw [parsed]
        dsimp only
        refine succeeds_mapError.trans ((succeeds_points dispatched fit blocks ?_).trans ?_)
        · rintro rfl
          exact echo_of_parse dispatched accepts parsed
        · constructor
          · rintro covered other ⟨⟩ -
            exact ⟨fit, covered⟩
          · intro covered
            exact (covered format rfl accepts).2
      · obtain ⟨fault, failed⟩ := parses.outside fit
        rw [failed]
        exact iff_of_false (not_succeeds_error _) fun covered => fit (covered format rfl accepts).1
    · rw [parse_rejects dispatched accepts]
      refine iff_of_true (succeeds_ok _) ?_
      rintro other ⟨⟩ accepted
      exact absurd accepted accepts

theorem checkedPacket_points {points : List (List PPoint)} {packet : LidarPacket}
    (values : cfg.tables = (init trig cfg.lidarType).values) (dispatched : dispatch cfg.lidarType size = some format)
    (parsed : parse cfg format ⟨data, ethernetMtu⟩ size = .ok (some packet))
    (run : checkedPacket cfg (init trig cfg.lidarType) dPktTimestamp transformPoint data size = .ok points) :
    points = packet.blocks.zipIdx.map fun (block, blockid) =>
      blockPoints cfg ⟨format, packet, dPktTimestamp, transformPoint⟩ blockid block := by
  unfold checkedPacket at run
  rw [dispatched] at run
  dsimp only at run
  rw [parsed] at run
  dsimp only at run
  cases looped : packet.blocks.zipIdx.mapM fun (block, blockid) =>
      checkedBlock cfg (init trig cfg.lidarType) ⟨format, packet, dPktTimestamp, transformPoint⟩ blockid block with
  | error misread =>
    rw [looped] at run
    cases run
  | ok loop =>
    rw [looped] at run
    obtain rfl := Except.ok.inj run
    exact mapM_eq_map looped fun _ _ _ passed => checkedBlock_eq values passed

/-- Every access of the parser and of the point-calculation function is inside its array and reads a value `Init` has
written, exactly for payloads whose counts fit their packet and whose usable returns the tables cover; and then the
points are those the frame is built from. -/
theorem accesses_in_bounds (cfg : Config) (trig : Trigonometry) (dPktTimestamp : ℚ) (transformPoint : Affine3)
    (data : Nat → UInt8) (size : Nat) :
    (Succeeds (checkedPacket cfg (init trig cfg.lidarType) dPktTimestamp transformPoint data size) ↔ Covered cfg data size) ∧
    ∀ points format packet, cfg.tables = (init trig cfg.lidarType).values → dispatch cfg.lidarType size = some format →
      parse cfg format ⟨data, ethernetMtu⟩ size = .ok (some packet) →
      checkedPacket cfg (init trig cfg.lidarType) dPktTimestamp transformPoint data size = .ok points →
      points = packet.blocks.zipIdx.map fun (block, blockid) =>
        blockPoints cfg ⟨format, packet, dPktTimestamp, transformPoint⟩ blockid block :=
  ⟨succeeds_checkedPacket, fun _ _ _ values dispatched parsed run => checkedPacket_points values dispatched parsed run⟩

/-- A PandarXT-16 payload with a return of every laser in every block. -/
theorem accesses_in_bounds_xt16 :
    let cfg := { Config.plain .pandarXT16 0 0 with tables := (init ⟨id, id⟩ .pandarXT16).values }
    let data := layoutXT.payload 16 8 (fun b => 100 * b) fun _ _ => true
    let packet := XtFormat.packetAt cfg.mktime data XT.xt16PacketSize
    checkedPacket cfg (init ⟨id, id⟩ .pandarXT16) 0 id data XT.xt16PacketSize =
      .ok (packet.blocks.zipIdx.map fun (block, blockid) => blockPoints cfg ⟨.xt, packet, 0, id⟩ blockid block) := by
  intro cfg data packet
  have wellFormed : XtFormat.WellFormed data XT.xt16PacketSize := by decide
  obtain ⟨safe, computed⟩ := accesses_in_bounds cfg ⟨id, id⟩ 0 id data XT.xt16PacketSize
  have covered : Covered cfg data XT.xt16PacketSize := by
    rintro format ⟨⟩ -
    exact ⟨.inr ⟨by decide, by decide⟩, fun b _ i laser _ => ⟨laser, nofun, nofun, nofun⟩⟩
  obtain ⟨points, run⟩ := safe.mpr covered
  have same := computed points .xt packet rfl rfl (XtFormat.parse_of_wellFormed wellFormed (by decide)) run
  exact run.trans (congrArg Except.ok same)

/-- A Pandar40P return of laser 7, whose firing time `Init` never writes, and a return in the seventh block of a
Pandar64 packet, which has no slot in the block offsets. -/
theorem own_packets_misread :
    let sevenBlocks : Config := { Config.plain .pandar64 0 0 with realtime := false }
    (¬ Succeeds (checkedPacket (Config.plain .pandar40P 0 0) (init ⟨id, id⟩ .pandar40P) 0 id
      (layout40P.payload 40 10 (fun b => 100 * b) fun b i => b = 0 ∧ i = 7) Pandar40P.packetSize)) ∧
    ¬ Succeeds (checkedPacket sevenBlocks (init ⟨id, id⟩ .pandar64) 0 id
      (layoutL64.payload 64 7 (fun b => 100 * b) fun b i => b = 6 ∧ i = 0) L64.packetSize7) := by
  constructor
  · intro safe
    obtain ⟨-, covered⟩ := succeeds_checkedPacket.mp safe .pandar40P rfl trivial
    exact (covered 0 (by decide) 7 (by decide) (by decide +kernel)).firing rfl rfl
  · intro safe
    obtain ⟨-, covered⟩ := succeeds_checkedPacket.mp safe .l64 rfl ⟨rfl, rfl⟩
    exact absurd ((covered 6 (by decide) 0 (by decide) (by decide +kernel)).block rfl rfl) (by decide)

end HesaiLidar
