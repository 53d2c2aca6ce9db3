import HesaiLidar.Calibration.InitTables

/-!
# Point calculation on the tables of Init

The five point-calculation functions with every table read checked: a read outside a table or of a slot nobody
has written is a fault. Where no read fails they compute the points of `calcPoint`.
-/

namespace HesaiLidar

open Slots

/-- The firing-time part of a point-calculation function with the reads it makes. -/
structure CheckedRule where
  azimuthShift : (spinSpeed : ℚ) → (laser : Nat) → Except Misread ℚ
  timestampShift : (echo blockid laser : Nat) → Except Misread ℚ

def checkedRule40P (tables : InitTables) : CheckedRule where
  azimuthShift spinSpeed i := do
    let offset ← read tables.laser40Offset i
    return -firetimeOffset spinSpeed offset
  timestampShift echo blockid i := do
    let block ← read (if echo = 0x39 then tables.block40OffsetDual else tables.block40OffsetSingle) blockid
    let laser ← read tables.laser40Offset i
    return -((block + laser) / 1000000)

def checkedRuleL64 (tables : InitTables) : CheckedRule where
  azimuthShift spinSpeed i := do
    let offset ← read tables.laser64Offset i
    return -firetimeOffset spinSpeed offset
  timestampShift echo blockid i := do
    let block ← read (if echo = 0x39 then tables.block64OffsetDual else tables.block64OffsetSingle) blockid
    let laser ← read tables.laser64Offset i
    return -((block + laser) / 1000000)

/-- Only the two Pandar20 models read the block offsets. -/
def checkedRuleL20 (lidarType : LidarType) (tables : InitTables) : CheckedRule where
  azimuthShift spinSpeed i := do
    let offset ← read tables.laser20BOffset i
    return firetimeOffset spinSpeed offset
  timestampShift echo blockid i :=
    let blockOffset := if echo = 0x39 then tables.block20OffsetDual else tables.block20OffsetSingle
    match lidarType with
    | .pandar20A => do
      let block ← read blockOffset blockid
      let laser ← read tables.laser20AOffset i
      return -((block + laser) / 1000000)
    | .pandar20B => do
      let block ← read blockOffset blockid
      let laser ← read tables.laser20BOffset i
      return -((block + laser) / 1000000)
    | _ => .ok 0

def checkedRuleQT (tables : InitTables) : CheckedRule where
  azimuthShift spinSpeed i := do
    let offset ← read tables.laserQTOffset i
    return firetimeOffset spinSpeed offset
  timestampShift echo blockid i := do
    let block ← read (if echo = 0x05 then tables.blockQTOffsetDual else tables.blockQTOffsetSingle) blockid
    let laser ← read tables.laserQTOffset i
    return (block + laser) / 1000000

def checkedRuleXT (tables : InitTables) : CheckedRule where
  azimuthShift spinSpeed i := do
    let offset ← read tables.laserXTOffset i
    return firetimeOffset spinSpeed offset
  timestampShift echo blockid i := do
    let blockOffset :=
      if echo = 0x3d then tables.blockXTOffsetTriple
      else if echo = 0x39 ∨ echo = 0x3b ∨ echo = 0x3c then tables.blockXTOffsetDual
      else tables.blockXTOffsetSingle
    let block ← read blockOffset blockid
    let laser ← read tables.laserXTOffset i
    return (block + laser) / 1000000

def checkedRule (lidarType : LidarType) (tables : InitTables) : Format → CheckedRule
  | .pandar40P => checkedRule40P tables
  | .l64 => checkedRuleL64 tables
  | .l20 => checkedRuleL20 lidarType tables
  | .qt => checkedRuleQT tables
  | .xt => checkedRuleXT tables

/-- The point of one valid return. The coordinates are computed from the elevation of the laser. -/
def checkedPoint (cfg : Config) (tables : InitTables) (ctx : PacketContext) (blockid : Nat) (block : LidarBlock) (i : Nat)
    (unit : LidarUnit) : Except Misread PPoint := do
  let rule := checkedRule cfg.lidarType tables ctx.format
  let offset ← read tables.horizatalAzimuthOffsetMap i
  let shift ← rule.azimuthShift ctx.packet.spinSpeed i
  let azimuth := truncate (offset * 100 + block.azimuth + shift * 100)
  let azimuth := if azimuth < 0 then azimuth + 36000 else azimuth
  let azimuth := if azimuth ≥ 36000 then azimuth - 36000 else azimuth
  let _cosElevation ← read tables.cosElevationMap i
  let _sinElevation ← read tables.sinElevationMap i
  let (x, y, z) := ctx.transformPoint (cfg.cartesian ctx.format i azimuth unit.distance)
  let timestamp ← (if cfg.realtime then .ok ctx.dPktTimestamp
    else do
      let shift ← rule.timestampShift ctx.packet.echo blockid i
      return ctx.packet.timestampPoint + cfg.tzSecond + shift)
  return { x, y, z, intensity := unit.intensity, timestamp, ring := i }

def checkedBlock (cfg : Config) (tables : InitTables) (ctx : PacketContext) (blockid : Nat) (block : LidarBlock) :
    Except Misread (List PPoint) :=
  (block.units.zipIdx.filter fun (unit, _) => unit.valid).mapM fun (unit, i) =>
    checkedPoint cfg tables ctx blockid block i unit

variable {cfg : Config} {tables : InitTables} {ctx : PacketContext} {blockid i : Nat} {block : LidarBlock} {unit : LidarUnit}

/-! ### The points are those of the plain functions -/

theorem azimuthShift_eq {format : Format} {spinSpeed shift : ℚ} (values : cfg.tables = tables.values)
    (run : (checkedRule cfg.lidarType tables format).azimuthShift spinSpeed i = .ok shift) :
    shift = (cfg.calcRule format).azimuthShift spinSpeed i := by
  unfold Config.calcRule
  rw [values]
  cases format
  all_goals
    obtain ⟨offset, found, run⟩ := Except.bind_ok run
    obtain rfl := Except.ok.inj run
    rw [← value_of_read 0 found]
    rfl

theorem timestampShift_eq {format : Format} {echo : Nat} {shift : ℚ} (values : cfg.tables = tables.values)
    (run : (checkedRule cfg.lidarType tables format).timestampShift echo blockid i = .ok shift) :
    shift = (cfg.calcRule format).timestampShift echo blockid i := by
  unfold Config.calcRule
  rw [values]
  cases format with
  | pandar40P =>
    rw [eq_of_reads 0 run]
    dsimp only [calcRule40P]
    split <;> rfl
  | l64 =>
    rw [eq_of_reads 0 run]
    dsimp only [calcRuleL64]
    split <;> rfl
  | l20 =>
    dsimp only [checkedRule, checkedRuleL20] at run
    dsimp only [calcRuleL20]
    generalize cfg.lidarType = model at run ⊢
    cases model with
    | pandar20A =>
      rw [eq_of_reads 0 run]
      split <;> rfl
    | pandar20B =>
      rw [eq_of_reads 0 run]
      split <;> rfl
    | _ => exact (Except.ok.inj run).symm
  | qt =>
    rw [eq_of_reads 0 run]
    dsimp only [calcRuleQT]
    split <;> rfl
  | xt =>
    rw [eq_of_reads 0 run]
    dsimp only [calcRuleXT]
    split
    · rfl
    · split <;> rfl

theorem checkedPoint_eq {p : PPoint} (values : cfg.tables = tables.values)
    (run : checkedPoint cfg tables ctx blockid block i unit = .ok p) : p = calcPoint cfg ctx blockid block i unit := by
  obtain ⟨offset, found, run⟩ := Except.bind_ok run
  obtain ⟨shift, fired, run⟩ := Except.bind_ok run
  obtain ⟨cosElevation, -, run⟩ := Except.bind_ok run
  obtain ⟨sinElevation, -, run⟩ := Except.bind_ok run
  obtain ⟨timestamp, timed, run⟩ := Except.bind_ok run
  obtain rfl := Except.ok.inj run
  have turned : offset = cfg.tables.horizatalAzimuthOffset i := by
    rw [values]
    exact (value_of_read 0 found).symm
  have stamped : timestamp = if cfg.realtime then ctx.dPktTimestamp
      else ctx.packet.timestampPoint + cfg.tzSecond + (cfg.calcRule ctx.format).timestampShift ctx.packet.echo blockid i := by
    split at timed
    · rename_i realtime
      rw [if_pos realtime]
      exact (Except.ok.inj timed).symm
    · rename_i realtime
      obtain ⟨shift, shifted, timed⟩ := Except.bind_ok timed
      obtain rfl := Except.ok.inj timed
      rw [if_neg realtime, timestampShift_eq values shifted]
  unfold calcPoint azimuthIndex
  rw [stamped, turned, azimuthShift_eq values fired]

theorem checkedBlock_eq {points : List PPoint} (values : cfg.tables = tables.values)
    (run : checkedBlock cfg tables ctx blockid block = .ok points) : points = blockPoints cfg ctx blockid block :=
  mapM_eq_map run fun _ _ _ passed => checkedPoint_eq values passed

/-! ### The reads that succeed -/

variable {trig : Trigonometry} {lidarType : LidarType} {format : Format}

theorem written_laser40Offset : Written (init trig lidarType).laser40Offset i ↔ i < 40 ∧ i ≠ 7 := by
  have slots : ∀ i < 40, (i ∈ laser40Offset.map Prod.fst ↔ i ≠ 7) := by decide
  exact written_fill.trans (and_congr_right (slots i))

theorem written_laser64Offset : Written (init trig lidarType).laser64Offset i ↔ i < 64 := by
  have slots : ∀ i < 64, i ∈ laser64Offset.map Prod.fst := by decide
  exact written_fill.trans (and_iff_left_of_imp (slots i))

theorem written_laser20AOffset : Written (init trig lidarType).laser20AOffset i ↔ i < 20 := by
  have slots : ∀ i < 20, i ∈ laser20AOffset.map Prod.fst := by decide
  exact written_fill.trans (and_iff_left_of_imp (slots i))

theorem written_laser20BOffset : Written (init trig lidarType).laser20BOffset i ↔ i < 20 := by
  have slots : ∀ i < 20, i ∈ laser20BOffset.map Prod.fst := by decide
  exact written_fill.trans (and_iff_left_of_imp (slots i))

def FiringWritten (lidarType : LidarType) : Format → Nat → Prop
  | .pandar40P, i => i < 40 ∧ i ≠ 7
  | .l64, i => i < 64
  | .l20, i => i < 20
  | .qt, i => i < 64
  | .xt, i => i < (laserXTOffsets lidarType).length

/-- The blocks of a format whose firing time is inside its table and written. -/
def BlockWritten (lidarType : LidarType) : Format → (echo b : Nat) → Prop
  | .pandar40P, _, b => b < 10
  | .l64, _, b => b < 6
  | .l20, _, b => b < 20
  | .qt, _, b => b < 4
  | .xt, echo, b => b < 8 ∧ (echo = 0x3d → lidarType = .pandarXTM)

theorem succeeds_azimuthShift (spinSpeed : ℚ) :
    Succeeds ((checkedRule lidarType (init trig lidarType) format).azimuthShift spinSpeed i) ↔
      FiringWritten lidarType format i := by
  have read {slots : List (Option ℚ)} (f : ℚ → ℚ) :
      Succeeds (read slots i >>= fun offset => (.ok (f offset) : Except Misread ℚ)) ↔ Written slots i :=
    (succeeds_bind fun offset _ => iff_true_intro (succeeds_ok (f offset))).trans
      ((and_iff_left trivial).trans succeeds_read)
  cases format with
  | pandar40P => exact (read _).trans written_laser40Offset
  | l64 => exact (read _).trans written_laser64Offset
  | l20 => exact (read _).trans written_laser20BOffset
  | qt => exact (read _).trans written_filled
  | xt => exact (read _).trans written_filled

theorem succeeds_two_reads {first second : List (Option ℚ)} {j : Nat} (f : ℚ → ℚ → ℚ) :
    Succeeds (read first j >>= fun a => read second i >>= fun b => (.ok (f a b) : Except Misread ℚ)) ↔
      Written first j ∧ Written second i := by
  refine (succeeds_bind fun a _ => (succeeds_bind fun b _ => iff_true_intro (succeeds_ok (f a b)))).trans ?_
  rw [succeeds_read, succeeds_read, and_true]

/-- Where the firing time of the laser is known, the timestamp needs that of the block. Pandar20 packets read it for
their own models alone. -/
theorem succeeds_timestampShift {echo : Nat} (firing : FiringWritten lidarType format i) (own : format = .l20 → blockid < 20) :
    Succeeds ((checkedRule lidarType (init trig lidarType) format).timestampShift echo blockid i) ↔
      BlockWritten lidarType format echo blockid := by
  cases format with
  | pandar40P =>
    refine (succeeds_two_reads _).trans ((and_iff_left (written_laser40Offset.mpr firing)).trans ?_)
    split <;> exact written_filled
  | l64 =>
    refine (succeeds_two_reads _).trans ((and_iff_left (written_laser64Offset.mpr firing)).trans ?_)
    split <;> exact written_filled
  | l20 =>
    have blocks : BlockWritten lidarType .l20 echo blockid := own rfl
    refine iff_of_true ?_ blocks
    have offsets : Written (if echo = 0x39 then (init trig lidarType).block20OffsetDual
        else (init trig lidarType).block20OffsetSingle) blockid := by
      split <;> exact written_filled.mpr blocks
    have laserA : Written (init trig lidarType).laser20AOffset i := written_laser20AOffset.mpr firing
    have laserB : Written (init trig lidarType).laser20BOffset i := written_laser20BOffset.mpr firing
    dsimp only [checkedRule, checkedRuleL20]
    split
    · exact (succeeds_two_reads _).mpr ⟨offsets, laserA⟩
    · exact (succeeds_two_reads _).mpr ⟨offsets, laserB⟩
    · exact succeeds_ok 0
  | qt =>
    refine (succeeds_two_reads _).trans ((and_iff_left (written_filled.mpr firing)).trans ?_)
    split <;> exact written_filled
  | xt =>
    refine (succeeds_two_reads _).trans ((and_iff_left (written_filled.mpr firing)).trans ?_)
    by_cases triple : echo = 0x3d
    · rw [if_pos triple]
      by_cases model : lidarType = .pandarXTM
      · subst model
        exact written_filled.trans (and_iff_left fun _ => rfl).symm
      · refine written_filled.trans (iff_of_false ?_ fun both => model (both.2 triple))
        rw [if_neg model]
        exact Nat.not_lt_zero _
    · rw [if_neg triple]
      have single : Written (init trig lidarType).blockXTOffsetSingle blockid ↔ blockid < 8 := by
        refine written_filled.trans ?_
        split <;> exact Iff.rfl
      have dual : Written (init trig lidarType).blockXTOffsetDual blockid ↔ blockid < 8 := by
        refine written_filled.trans ?_
        split <;> exact Iff.rfl
      refine Iff.trans ?_ (and_iff_left fun same => absurd same triple).symm
      split
      · exact dual
      · exact single

structure PointCovered (cfg : Config) (format : Format) (echo b i : Nat) : Prop where
  laser : i < writtenLasers cfg.lidarType
  firing : FiringWritten cfg.lidarType format i
  block : cfg.realtime = false → BlockWritten cfg.lidarType format echo b

theorem succeeds_checkedPoint (own : ctx.format = .l20 → blockid < 20) :
    Succeeds (checkedPoint cfg (init trig cfg.lidarType) ctx blockid block i unit) ↔
      PointCovered cfg ctx.format ctx.packet.echo blockid i := by
  have turned : Written (init trig cfg.lidarType).horizatalAzimuthOffsetMap i ↔ i < writtenLasers cfg.lidarType := by
    rw [← length_horizatalAzimuthOffsets]
    exact written_filled
  have cosine : Written (init trig cfg.lidarType).cosElevationMap i ↔ i < writtenLasers cfg.lidarType := by
    rw [← length_elevAngles]
    exact written_map.trans (by rw [List.length_map])
  have sine : Written (init trig cfg.lidarType).sinElevationMap i ↔ i < writtenLasers cfg.lidarType := by
    rw [← length_elevAngles]
    exact written_map.trans (by rw [List.length_map])
  unfold checkedPoint
  refine (succeeds_bind fun offset _ => succeeds_bind fun shift _ => succeeds_bind fun cosElevation _ =>
    succeeds_bind fun sinElevation _ => succeeds_bind fun timestamp _ => iff_true_intro (succeeds_ok _)).trans ?_
  rw [succeeds_read, succeeds_azimuthShift, succeeds_read, succeeds_read, turned, cosine, sine, and_true]
  constructor
  · rintro ⟨laser, firing, -, -, timed⟩
    refine ⟨laser, firing, ?_⟩
    intro sensor
    rw [sensor, if_neg Bool.false_ne_true] at timed
    have shifted := (succeeds_bind fun shift _ => iff_true_intro (succeeds_ok _)).mp timed
    exact (succeeds_timestampShift firing own).mp shifted.1
  · rintro ⟨laser, firing, blocks⟩
    refine ⟨laser, firing, laser, laser, ?_⟩
    cases realtime : cfg.realtime with
    | true => exact succeeds_ok _
    | false =>
      rw [if_neg Bool.false_ne_true]
      exact (succeeds_bind fun shift _ => iff_true_intro (succeeds_ok _)).mpr
        ⟨(succeeds_timestampShift firing own).mpr (blocks realtime), trivial⟩

end HesaiLidar
