import HesaiLidar.Wire.Parsers
import Mathlib.Data.Rat.Floor

/-!
# Points

What the five point-calculation functions compute for one return. Floats are taken as exact rationals;
the trigonometric part of a point is a parameter of the configuration.
-/

namespace HesaiLidar

/-- A point over types of floats, doubles and ring numbers. -/
structure PointXYZIT (F D R : Type) where
  x : F
  y : F
  z : F
  intensity : F
  timestamp : D
  ring : R
  deriving DecidableEq, Repr

abbrev PPoint : Type := PointXYZIT ℚ ℚ Nat

/-- `pcl::PointCloud` with the one header field the driver sets. -/
structure PointCloud (P : Type) where
  points : List P
  width : UInt32
  height : UInt32
  frameId : String
  isDense : Bool
  deriving DecidableEq, Repr

abbrev PPointCloud : Type := PointCloud PPoint

/-- The configured model names. -/
inductive LidarType where
  | pandar40P
  | pandar40M
  | pandar64
  | pandar20A
  | pandar20B
  | pandarQT
  | xt
  | pandarXT32
  | pandarXT16
  | pandarXTM
  | other
  deriving DecidableEq, Repr

/-- The packet formats the dispatch tells apart. -/
inductive Format where
  | pandar40P
  | l64
  | l20
  | qt
  | xt
  deriving DecidableEq, Repr

/-- The angle and firing-time tables `Init` fills. -/
structure Tables where
  elevAngle : Nat → ℚ
  horizatalAzimuthOffset : Nat → ℚ
  laser40Offset : Nat → ℚ
  laser64Offset : Nat → ℚ
  laser20AOffset : Nat → ℚ
  laser20BOffset : Nat → ℚ
  laserQTOffset : Nat → ℚ
  laserXTOffset : Nat → ℚ
  block40OffsetSingle : Nat → ℚ
  block40OffsetDual : Nat → ℚ
  block64OffsetSingle : Nat → ℚ
  block64OffsetDual : Nat → ℚ
  block20OffsetSingle : Nat → ℚ
  block20OffsetDual : Nat → ℚ
  blockQTOffsetSingle : Nat → ℚ
  blockQTOffsetDual : Nat → ℚ
  blockXTOffsetSingle : Nat → ℚ
  blockXTOffsetDual : Nat → ℚ
  blockXTOffsetTriple : Nat → ℚ

/-- Coordinates of a return before the frame transforms, from the laser, the azimuth index and the distance. -/
abbrev Cartesian : Type := Format → (laser : Nat) → (azimuth : Int) → (distance : ℚ) → ℚ × ℚ × ℚ

/-- An affine map between frames. -/
abbrev Affine3 : Type := ℚ × ℚ × ℚ → ℚ × ℚ × ℚ

/-- How `lookupTransform` ends: with a transform or with one of the exceptions tf2 may throw. -/
inductive LookupOutcome where
  | found (matrix : Affine3)
  | lookupException
  | extrapolationException
  | otherException

structure Config where
  lidarType : LidarType
  pclType : Int
  startAngle : Nat
  /-- `timestamp_type` is "realtime". -/
  realtime : Bool
  tzSecond : Int
  /-- `pcl_callback_` is set. -/
  pclCallback : Bool
  frameId : String
  sensorFrame : String
  fixedFrame : String
  tables : Tables
  cartesian : Cartesian
  mktime : Mktime
  /-- How a stream prints a float. -/
  printFloat : ℚ → String
  /-- The outcome of the n-th transform lookup for a target and a source frame. -/
  lookupTransform : Nat → (target source : String) → LookupOutcome

def Tables.zero : Tables where
  elevAngle _ := 0
  horizatalAzimuthOffset _ := 0
  laser40Offset _ := 0
  laser64Offset _ := 0
  laser20AOffset _ := 0
  laser20BOffset _ := 0
  laserQTOffset _ := 0
  laserXTOffset _ := 0
  block40OffsetSingle _ := 0
  block40OffsetDual _ := 0
  block64OffsetSingle _ := 0
  block64OffsetDual _ := 0
  block20OffsetSingle _ := 0
  block20OffsetDual _ := 0
  blockQTOffsetSingle _ := 0
  blockQTOffsetDual _ := 0
  blockXTOffsetSingle _ := 0
  blockXTOffsetDual _ := 0
  blockXTOffsetTriple _ := 0

/-- A configuration without transform frames, on receive time. -/
def Config.plain (lidarType : LidarType) (pclType : Int) (startAngle : Nat) : Config where
  lidarType := lidarType
  pclType := pclType
  startAngle := startAngle
  realtime := true
  tzSecond := 0
  pclCallback := true
  frameId := "hesai_lidar"
  sensorFrame := ""
  fixedFrame := ""
  tables := .zero
  cartesian _ _ _ distance := (distance, 0, 0)
  mktime _ := 0
  printFloat _ := "0.000000"
  lookupTransform _ _ _ := .lookupException

/-- `pcl_type_` is tested for being nonzero. -/
def Config.structured (cfg : Config) : Bool := cfg.pclType ≠ 0

def firetimeOffset (spinSpeed deltMicrosecond : ℚ) : ℚ := spinSpeed * deltMicrosecond * (6 / 1000000)

/-- The conversion of a floating-point number to `int`. -/
def truncate (q : ℚ) : Int := q.num.tdiv q.den

theorem truncate_of_nonneg {q : ℚ} (nonneg : 0 ≤ q) : truncate q = ⌊q⌋ := by
  rw [truncate, Rat.floor_def']
  exact Int.tdiv_eq_ediv_of_nonneg (Rat.num_nonneg.mpr nonneg)

/-- What differs between the point-calculation functions: how the firing time moves the azimuth, and how
return mode, block and laser move the sensor timestamp. -/
structure CalcRule where
  azimuthShift : (spinSpeed : ℚ) → (laser : Nat) → ℚ
  timestampShift : (echo blockid laser : Nat) → ℚ

def calcRule40P (tables : Tables) : CalcRule where
  azimuthShift spinSpeed i := -firetimeOffset spinSpeed (tables.laser40Offset i)
  timestampShift echo blockid i :=
    if echo = 0x39 then -((tables.block40OffsetDual blockid + tables.laser40Offset i) / 1000000)
    else -((tables.block40OffsetSingle blockid + tables.laser40Offset i) / 1000000)

def calcRuleL64 (tables : Tables) : CalcRule where
  azimuthShift spinSpeed i := -firetimeOffset spinSpeed (tables.laser64Offset i)
  timestampShift echo blockid i :=
    if echo = 0x39 then -((tables.block64OffsetDual blockid + tables.laser64Offset i) / 1000000)
    else -((tables.block64OffsetSingle blockid + tables.laser64Offset i) / 1000000)

/-- The azimuth uses the Pandar20B offsets for both models, the timestamp those of the configured one. -/
def calcRuleL20 (lidarType : LidarType) (tables : Tables) : CalcRule where
  azimuthShift spinSpeed i := firetimeOffset spinSpeed (tables.laser20BOffset i)
  timestampShift echo blockid i :=
    let blockOffset := if echo = 0x39 then tables.block20OffsetDual blockid else tables.block20OffsetSingle blockid
    match lidarType with
    | .pandar20A => -((blockOffset + tables.laser20AOffset i) / 1000000)
    | .pandar20B => -((blockOffset + tables.laser20BOffset i) / 1000000)
    | _ => 0

def calcRuleQT (tables : Tables) : CalcRule where
  azimuthShift spinSpeed i := firetimeOffset spinSpeed (tables.laserQTOffset i)
  timestampShift echo blockid i :=
    if echo = 0x05 then (tables.blockQTOffsetDual blockid + tables.laserQTOffset i) / 1000000
    else (tables.blockQTOffsetSingle blockid + tables.laserQTOffset i) / 1000000

def calcRuleXT (tables : Tables) : CalcRule where
  azimuthShift spinSpeed i := firetimeOffset spinSpeed (tables.laserXTOffset i)
  timestampShift echo blockid i :=
    if echo = 0x3d then (tables.blockXTOffsetTriple blockid + tables.laserXTOffset i) / 1000000
    else if echo = 0x39 ∨ echo = 0x3b ∨ echo = 0x3c then
      (tables.blockXTOffsetDual blockid + tables.laserXTOffset i) / 1000000
    else (tables.blockXTOffsetSingle blockid + tables.laserXTOffset i) / 1000000

def Config.calcRule (cfg : Config) : Format → CalcRule
  | .pandar40P => calcRule40P cfg.tables
  | .l64 => calcRuleL64 cfg.tables
  | .l20 => calcRuleL20 cfg.lidarType cfg.tables
  | .qt => calcRuleQT cfg.tables
  | .xt => calcRuleXT cfg.tables

/-- The index into the azimuth tables, with one correction by a turn in each direction. -/
def azimuthIndex (cfg : Config) (format : Format) (spinSpeed : ℚ) (blockAzimuth i : Nat) : Int :=
  let azimuth := truncate (cfg.tables.horizatalAzimuthOffset i * 100 + blockAzimuth +
    (cfg.calcRule format).azimuthShift spinSpeed i * 100)
  let azimuth := if azimuth < 0 then azimuth + 36000 else azimuth
  if azimuth ≥ 36000 then azimuth - 36000 else azimuth

def LidarUnit.valid (unit : LidarUnit) : Bool := ¬ (unit.distance ≤ 1 / 10 ∨ unit.distance > 200)

structure PacketContext where
  format : Format
  packet : LidarPacket
  dPktTimestamp : ℚ
  transformPoint : Affine3

def calcPoint (cfg : Config) (ctx : PacketContext) (blockid : Nat) (block : LidarBlock) (i : Nat) (unit : LidarUnit) :
    PPoint :=
  let azimuth := azimuthIndex cfg ctx.format ctx.packet.spinSpeed block.azimuth i
  let (x, y, z) := ctx.transformPoint (cfg.cartesian ctx.format i azimuth unit.distance)
  { x, y, z
    intensity := unit.intensity
    timestamp :=
      if cfg.realtime then ctx.dPktTimestamp
      else ctx.packet.timestampPoint + cfg.tzSecond +
        (cfg.calcRule ctx.format).timestampShift ctx.packet.echo blockid i
    ring := i }

def blockPoints (cfg : Config) (ctx : PacketContext) (blockid : Nat) (block : LidarBlock) : List PPoint :=
  (block.units.zipIdx.filter fun (unit, _) => unit.valid).map fun (unit, i) => calcPoint cfg ctx blockid block i unit

/-- How many units of a block are used. -/
def LidarBlock.validUnits (block : LidarBlock) : Nat := block.units.countP LidarUnit.valid

theorem length_blockPoints (cfg : Config) (ctx : PacketContext) (blockid : Nat) {block : LidarBlock} :
    (blockPoints cfg ctx blockid block).length = block.validUnits := by
  have units : (block.units.zipIdx.map Prod.fst).countP LidarUnit.valid = block.validUnits := by
    rw [List.zipIdx_map_fst]
    rfl
  rw [← units, List.countP_map, List.countP_eq_length_filter, blockPoints, List.length_map]
  rfl

theorem timestamp_of_realtime {cfg : Config} {ctx : PacketContext} {blockid : Nat} {block : LidarBlock} {p : PPoint}
    (realtime : cfg.realtime = true) (member : p ∈ blockPoints cfg ctx blockid block) :
    p.timestamp = ctx.dPktTimestamp := by
  obtain ⟨⟨unit, i⟩, -, rfl⟩ := List.mem_map.mp member
  simp [calcPoint, realtime]

theorem ring_lt {cfg : Config} {ctx : PacketContext} {blockid : Nat} {block : LidarBlock} {p : PPoint}
    (member : p ∈ blockPoints cfg ctx blockid block) : p.ring < block.units.length := by
  obtain ⟨⟨unit, i⟩, valid, rfl⟩ := List.mem_map.mp member
  have index := List.snd_lt_of_mem_zipIdx (List.mem_filter.mp valid).1
  simpa [calcPoint] using index

end HesaiLidar
