import HesaiLidar.Calibration.LoadCorrectionFile
import HesaiLidar.Library.Slots

/-!
# The tables Init fills

The per-block, per-laser and elevation tables of the driver as `Init` leaves them for a configured model. A slot
`Init` does not write is `none`. Numbers are the exact decimals of the source.
-/

namespace HesaiLidar

open Slots

/-! ### Angles -/

def pandar40pElevAngleMap : List ℚ :=
  [15, 11, 8, 5, 3, 2, 1.67, 1.33, 1, 0.67, 0.33, 0, -0.33, -0.67, -1, -1.33, -1.66, -2, -2.33, -2.67, -3, -3.33,
    -3.67, -4, -4.33, -4.67, -5, -5.33, -5.67, -6, -7, -8, -9, -10, -11, -12, -13, -14, -19, -25]

def pandar40pHorizatalAzimuthOffsetMap : List ℚ :=
  [-1.042, -1.042, -1.042, -1.042, -1.042, -1.042, 3.125, -5.208, -1.042, 3.125, -5.208, -1.042, 3.125, -5.208,
    -1.042, 3.125, -5.208, -1.042, 3.125, -5.208, -1.042, 3.125, -5.208, -1.042, 3.125, -5.208, -1.042, 3.125,
    -5.208, -1.042, -1.042, -1.042, -1.042, -1.042, -1.042, -1.042, -1.042, -1.042, -1.042, -1.042]

def pandarGeneralElevAngleMap : List ℚ :=
  [14.882, 11.032, 8.059, 5.057, 3.04, 2.028, 1.86, 1.688, 1.522, 1.351, 1.184, 1.013, 0.846, 0.675, 0.508, 0.337,
    0.169, 0, -0.169, -0.337, -0.508, -0.675, -0.845, -1.013, -1.184, -1.351, -1.522, -1.688, -1.86, -2.028, -2.198,
    -2.365, -2.536, -2.7, -2.873, -3.04, -3.21, -3.375, -3.548, -3.712, -3.884, -4.05, -4.221, -4.385, -4.558, -4.72,
    -4.892, -5.057, -5.229, -5.391, -5.565, -5.726, -5.898, -6.061, -7.063, -8.059, -9.06, -9.885, -11.032, -12.006,
    -12.974, -13.93, -18.889, -24.897]

def pandarGeneralHorizatalAzimuthOffsetMap : List ℚ :=
  [-1.042, -1.042, -1.042, -1.042, -1.042, -1.042, 1.042, 3.125, 5.208, -5.208, -3.125, -1.042, 1.042, 3.125, 5.208,
    -5.208, -3.125, -1.042, 1.042, 3.125, 5.208, -5.208, -3.125, -1.042, 1.042, 3.125, 5.208, -5.208, -3.125, -1.042,
    1.042, 3.125, 5.208, -5.208, -3.125, -1.042, 1.042, 3.125, 5.208, -5.208, -3.125, -1.042, 1.042, 3.125, 5.208,
    -5.208, -3.125, -1.042, 1.042, 3.125, 5.208, -5.208, -3.125, -1.042, -1.042, -1.042, -1.042, -1.042, -1.042,
    -1.042, -1.042, -1.042, -1.042, -1.042]

def pandar20ElevAngleMap : List ℚ :=
  [8, 5, 3, 2, 1.67, 1, 0.33, -0.33, -1, -2, -3, -4, -5, -6, -8, -10, -12, -14, -19, -25]

def pandar20HorizatalAzimuthOffsetMap : List ℚ :=
  [-1.042, -1.042, -1.042, -1.042, 3.125, -1.042, -5.208, 3.125, -1.042, -1.042, -1.042, -1.042, -1.042, -1.042,
    -1.042, -1.042, -1.042, -1.042, -1.042, -1.042]

def pandarQTElevAngleMap : List ℚ :=
  [-52.121, -49.785, -47.577, -45.477, -43.465, -41.528, -39.653, -37.831, -36.055, -34.320, -32.619, -30.950,
    -29.308, -27.690, -26.094, -24.517, -22.964, -21.420, -19.889, -18.372, -16.865, -15.368, -13.880, -12.399,
    -10.925, -9.457, -7.994, -6.535, -5.079, -3.626, -2.175, -0.725, 0.725, 2.175, 3.626, 5.079, 6.534, 7.993, 9.456,
    10.923, 12.397, 13.877, 15.365, 16.861, 18.368, 19.885, 21.415, 22.959, 24.524, 26.101, 27.697, 29.315, 30.957,
    32.627, 34.328, 36.064, 37.840, 39.662, 41.537, 43.475, 45.487, 47.587, 49.795, 52.133]

def pandarQTHorizatalAzimuthOffsetMap : List ℚ :=
  [8.736, 8.314, 7.964, 7.669, 7.417, 7.198, 7.007, 6.838, 6.688, 6.554, 6.434, 6.326, 6.228, 6.140, 6.059, 5.987,
    -5.270, -5.216, -5.167, -5.123, -5.083, -5.047, -5.016, -4.988, -4.963, -4.942, -4.924, -4.910, -4.898, -4.889,
    -4.884, -4.881, 5.493, 5.496, 5.502, 5.512, 5.525, 5.541, 5.561, 5.584, 5.611, 5.642, 5.676, 5.716, 5.759, 5.808,
    5.862, 5.921, -5.330, -5.396, -5.469, -5.550, -5.640, -5.740, -5.850, -5.974, -6.113, -6.269, -6.447, -6.651,
    -6.887, -7.163, -7.493, -7.892]

def pandarXTElevAngleMap : List ℚ :=
  [15, 14, 13, 12, 11, 10, 9, 8, 7, 6, 5, 4, 3, 2, 1, 0, -1, -2, -3, -4, -5, -6, -7, -8, -9, -10, -11, -12, -13, -14,
    -15, -16]

def pandarXTHorizatalAzimuthOffsetMap : List ℚ := List.replicate XT.unitNum 0

def pandarXTMElevAngleMap : List ℚ :=
  [19.5, 18.2, 16.9, 15.6, 14.3, 13, 11.7, 10.4, 9.1, 7.8, 6.5, 5.2, 3.9, 2.6, 1.3, 0, -1.3, -2.6, -3.9, -5.2, -6.5,
    -7.8, -9.1, -10.4, -11.7, -13, -14.3, -15.6, -16.9, -18.2, -19.5, -20.8]

def pandarXTMHorizatalAzimuthOffsetMap : List ℚ := List.replicate XT.unitNum 0

def xt16UnitNum : Nat := 16

/-- PandarXT-16 takes every second laser of the 32. -/
def everySecond (table : List ℚ) : List ℚ := (List.range xt16UnitNum).map fun i => table.getD (i * 2) 0

/-- The angles `Init` copies, none for the names it does not test for. -/
def elevAngles : LidarType → List ℚ
  | .pandar40P => pandar40pElevAngleMap
  | .pandar40M => pandar40pElevAngleMap
  | .pandar64 => pandarGeneralElevAngleMap
  | .pandar20A => pandar20ElevAngleMap
  | .pandar20B => pandar20ElevAngleMap
  | .pandarQT => pandarQTElevAngleMap
  | .pandarXT32 => pandarXTElevAngleMap
  | .pandarXT16 => everySecond pandarXTElevAngleMap
  | .pandarXTM => pandarXTMElevAngleMap
  | .xt => []
  | .other => []

def horizatalAzimuthOffsets : LidarType → List ℚ
  | .pandar40P => pandar40pHorizatalAzimuthOffsetMap
  | .pandar40M => pandar40pHorizatalAzimuthOffsetMap
  | .pandar64 => pandarGeneralHorizatalAzimuthOffsetMap
  | .pandar20A => pandar20HorizatalAzimuthOffsetMap
  | .pandar20B => pandar20HorizatalAzimuthOffsetMap
  | .pandarQT => pandarQTHorizatalAzimuthOffsetMap
  | .pandarXT32 => pandarXTHorizatalAzimuthOffsetMap
  | .pandarXT16 => everySecond pandarXTHorizatalAzimuthOffsetMap
  | .pandarXTM => pandarXTMHorizatalAzimuthOffsetMap
  | .xt => []
  | .other => []

/-! ### Firing times -/

/-- Blocks are counted from the last one of the packet. -/
def blockOffsets (interval last : ℚ) (blocks : List Nat) : List ℚ := blocks.map fun k => interval * k + last

def block40OffsetSingle : List ℚ := blockOffsets 55.56 28.58 [9, 8, 7, 6, 5, 4, 3, 2, 1, 0]

def block40OffsetDual : List ℚ := blockOffsets 55.56 28.58 [4, 4, 3, 3, 2, 2, 1, 1, 0, 0]

/-- The assignments in the order of the source. -/
def laser40Offset : List (Nat × ℚ) :=
  [(3, 3.62), (39, 3.62), (35, 4.92), (27, 6.23), (11, 8.19), (15, 8.19), (31, 9.5), (23, 11.47), (28, 12.77),
    (16, 14.74), (2, 16.04), (38, 16.04), (34, 17.35), (24, 18.65), (8, 20.62), (12, 20.62), (30, 21.92),
    (20, 23.89), (25, 25.19), (13, 27.16), (1, 28.47), (37, 28.47), (33, 29.77), (5, 31.74), (21, 31.7447),
    (9, 33.71), (29, 35.01), (17, 36.98), (22, 38.95), (10, 40.91), (0, 42.22), (36, 42.22), (32, 43.52), (4, 45.49),
    (18, 45.49), (6, 47.46), (26, 48.76), (14, 50.73), (19, 52.7), (9, 54.67)]

def block64OffsetSingle : List ℚ := blockOffsets 55.56 42.58 [5, 4, 3, 2, 1, 0]

def block64OffsetDual : List ℚ := blockOffsets 55.56 42.58 [2, 2, 1, 1, 0, 0]

def shot (short long : Nat) : ℚ := 1.304 * short + 1.968 * long + 3.62

def laser64Offset : List (Nat × ℚ) :=
  [(50, shot 0 0), (60, shot 0 0), (44, shot 1 0), (59, shot 1 0), (38, shot 2 0), (56, shot 2 0), (8, shot 3 0),
    (54, shot 3 0), (48, shot 4 0), (62, shot 4 0), (42, shot 5 0), (58, shot 5 0), (6, shot 6 0), (55, shot 6 0),
    (52, shot 7 0), (63, shot 7 0), (46, shot 8 0), (61, shot 8 0), (40, shot 9 0), (57, shot 9 0), (5, shot 10 0),
    (53, shot 10 0), (4, shot 11 0), (47, shot 11 0), (3, shot 12 0), (49, shot 12 0), (2, shot 13 0),
    (51, shot 13 0), (1, shot 14 0), (45, shot 14 0), (0, shot 15 0), (43, shot 15 0), (23, shot 15 1),
    (32, shot 15 1), (26, shot 15 2), (41, shot 15 2), (20, shot 15 3), (35, shot 15 3), (14, shot 15 4),
    (29, shot 15 4), (21, shot 15 5), (36, shot 15 5), (15, shot 15 6), (30, shot 15 6), (9, shot 15 7),
    (24, shot 15 7), (18, shot 15 8), (33, shot 15 8), (12, shot 15 9), (27, shot 15 9), (19, shot 15 10),
    (34, shot 15 10), (13, shot 15 11), (28, shot 15 11), (7, shot 15 12), (22, shot 15 12), (16, shot 15 13),
    (31, shot 15 13), (10, shot 15 14), (25, shot 15 14), (17, shot 15 15), (37, shot 15 15), (11, shot 15 16),
    (39, shot 15 16)]

def block20OffsetSingle : List ℚ :=
  (List.range L20.blockNumber).map fun i => 28.58 + (L20.blockNumber - 1 - i : Nat) * 55.56

def block20OffsetDual : List ℚ :=
  (List.range L20.blockNumber).map fun i => 28.58 + ((L20.blockNumber - 1 - i) / 2 : Nat) * 55.56

def laser20AOffset : List (Nat × ℚ) :=
  [(1, shot 0 0), (19, shot 0 0), (16, shot 1 0), (14, shot 3 1), (11, shot 3 2), (0, shot 5 3), (18, shot 5 3),
    (5, shot 7 4), (7, shot 7 4), (10, shot 8 5), (17, shot 10 6), (15, shot 11 6), (3, shot 11 7), (13, shot 12 8),
    (9, shot 12 9), (6, shot 12 11), (2, shot 14 12), (4, shot 14 13), (12, shot 15 13), (8, shot 15 14)]

def laser20BOffset : List (Nat × ℚ) :=
  [(17, shot 1 0), (5, shot 2 1), (15, shot 3 1), (11, shot 3 2), (8, shot 4 3), (19, shot 5 3), (3, shot 7 4),
    (6, shot 7 4), (14, shot 8 4), (10, shot 8 5), (18, shot 10 6), (16, shot 11 6), (1, shot 11 7), (13, shot 12 8),
    (4, shot 12 11), (0, shot 14 12), (9, shot 14 12), (2, shot 14 13), (12, shot 15 13), (7, shot 15 14)]

def blockQTOffsetSingle : List ℚ := [25.71, 25.71 + 166.67, 25.71 + 333.33, 25.71 + 500]

def blockQTOffsetDual : List ℚ := [25.71, 25.71, 25.71 + 166.67, 25.71 + 166.67]

def laserQTOffset : List ℚ :=
  [2.31, 4.37, 6.43, 8.49, 10.54, 12.60, 14.66, 16.71, 19.16, 21.22, 23.28, 25.34, 27.39, 29.45, 31.50, 33.56, 36.61,
    38.67, 40.73, 42.78, 44.84, 46.90, 48.95, 51.01, 53.45, 55.52, 57.58, 59.63, 61.69, 63.74, 65.80, 67.86, 70.90,
    72.97, 75.02, 77.08, 79.14, 81.19, 83.25, 85.30, 87.75, 89.82, 91.87, 93.93, 95.98, 98.04, 100.10, 102.15,
    105.20, 107.26, 109.32, 111.38, 113.43, 115.49, 117.54, 119.60, 122.05, 124.11, 126.17, 128.22, 130.28, 132.34,
    134.39, 136.45].map (10 + ·)

def blockXTOffset (blocks : List Nat) : List ℚ := blocks.map fun k => 5.632 - 50 * k

def blockXTOffsetSingle : List ℚ := blockXTOffset [7, 6, 5, 4, 3, 2, 1, 0]

def blockXTOffsetDual : List ℚ := blockXTOffset [3, 3, 2, 2, 1, 1, 0, 0]

def blockXTMOffsetSingle : List ℚ := blockXTOffset [5, 4, 3, 2, 1, 0, 0, 0]

def blockXTMOffsetDual : List ℚ := blockXTOffset [2, 2, 1, 1, 0, 0, 0, 0]

def blockXTMOffsetTriple : List ℚ := blockXTOffset [1, 1, 1, 0, 0, 0, 0, 0]

def laserXTOffset : List ℚ := (List.range XT.unitNum).map fun i => 1.512 * i + 0.368

/-- The two halves of the lasers fire together. -/
def laserXTMOffset : List ℚ := (List.range XT.unitNum).map fun i => 2.856 * (i % 16 : Nat) + 0.368

def laserXTOffsets : LidarType → List ℚ
  | .pandarXT32 => laserXTOffset
  | .pandarXT16 => everySecond laserXTOffset
  | .pandarXTM => laserXTMOffset
  | _ => []

/-! ### Init -/

structure InitTables where
  elevAngleMap : List (Option ℚ)
  horizatalAzimuthOffsetMap : List (Option ℚ)
  sinElevationMap : List (Option ℚ)
  cosElevationMap : List (Option ℚ)
  block40OffsetSingle : List (Option ℚ)
  block40OffsetDual : List (Option ℚ)
  laser40Offset : List (Option ℚ)
  block64OffsetSingle : List (Option ℚ)
  block64OffsetDual : List (Option ℚ)
  laser64Offset : List (Option ℚ)
  block20OffsetSingle : List (Option ℚ)
  block20OffsetDual : List (Option ℚ)
  laser20AOffset : List (Option ℚ)
  laser20BOffset : List (Option ℚ)
  blockQTOffsetSingle : List (Option ℚ)
  blockQTOffsetDual : List (Option ℚ)
  laserQTOffset : List (Option ℚ)
  blockXTOffsetSingle : List (Option ℚ)
  blockXTOffsetDual : List (Option ℚ)
  blockXTOffsetTriple : List (Option ℚ)
  laserXTOffset : List (Option ℚ)

/-- The arrays have the sizes of the header file, and the elevation vectors that of the configured model. The
XT blocks are written for every model and overwritten for PandarXTM, the only one with a third return. -/
def init (trig : Trigonometry) (lidarType : LidarType) : InitTables where
  elevAngleMap := filled maxLaserNum (elevAngles lidarType)
  horizatalAzimuthOffsetMap := filled maxLaserNum (horizatalAzimuthOffsets lidarType)
  sinElevationMap := ((elevAngles lidarType).map trig.sinf).map some
  cosElevationMap := ((elevAngles lidarType).map trig.cosf).map some
  block40OffsetSingle := filled Pandar40P.blocksPerPacket HesaiLidar.block40OffsetSingle
  block40OffsetDual := filled Pandar40P.blocksPerPacket HesaiLidar.block40OffsetDual
  laser40Offset := fill Pandar40P.laserCount HesaiLidar.laser40Offset
  block64OffsetSingle := filled L64.blockNumber6 HesaiLidar.block64OffsetSingle
  block64OffsetDual := filled L64.blockNumber6 HesaiLidar.block64OffsetDual
  laser64Offset := fill L64.unitNum HesaiLidar.laser64Offset
  block20OffsetSingle := filled L20.blockNumber HesaiLidar.block20OffsetSingle
  block20OffsetDual := filled L20.blockNumber HesaiLidar.block20OffsetDual
  laser20AOffset := fill L20.unitNum HesaiLidar.laser20AOffset
  laser20BOffset := fill L20.unitNum HesaiLidar.laser20BOffset
  blockQTOffsetSingle := filled QT.blockNumber HesaiLidar.blockQTOffsetSingle
  blockQTOffsetDual := filled QT.blockNumber HesaiLidar.blockQTOffsetDual
  laserQTOffset := filled QT.unitNum HesaiLidar.laserQTOffset
  blockXTOffsetSingle :=
    filled XT.blockNumber (if lidarType = .pandarXTM then blockXTMOffsetSingle else HesaiLidar.blockXTOffsetSingle)
  blockXTOffsetDual :=
    filled XT.blockNumber (if lidarType = .pandarXTM then blockXTMOffsetDual else HesaiLidar.blockXTOffsetDual)
  blockXTOffsetTriple := filled XT.blockNumber (if lidarType = .pandarXTM then blockXTMOffsetTriple else [])
  laserXTOffset := filled XT.unitNum (laserXTOffsets lidarType)

/-- The numbers in the tables, with zero in place of what nobody has written. -/
def InitTables.values (tables : InitTables) : Tables where
  elevAngle := value 0 tables.elevAngleMap
  horizatalAzimuthOffset := value 0 tables.horizatalAzimuthOffsetMap
  laser40Offset := value 0 tables.laser40Offset
  laser64Offset := value 0 tables.laser64Offset
  laser20AOffset := value 0 tables.laser20AOffset
  laser20BOffset := value 0 tables.laser20BOffset
  laserQTOffset := value 0 tables.laserQTOffset
  laserXTOffset := value 0 tables.laserXTOffset
  block40OffsetSingle := value 0 tables.block40OffsetSingle
  block40OffsetDual := value 0 tables.block40OffsetDual
  block64OffsetSingle := value 0 tables.block64OffsetSingle
  block64OffsetDual := value 0 tables.block64OffsetDual
  block20OffsetSingle := value 0 tables.block20OffsetSingle
  block20OffsetDual := value 0 tables.block20OffsetDual
  blockQTOffsetSingle := value 0 tables.blockQTOffsetSingle
  blockQTOffsetDual := value 0 tables.blockQTOffsetDual
  blockXTOffsetSingle := value 0 tables.blockXTOffsetSingle
  blockXTOffsetDual := value 0 tables.blockXTOffsetDual
  blockXTOffsetTriple := value 0 tables.blockXTOffsetTriple

/-! ### Which slots are written -/

/-- For how many lasers `Init` writes the angle tables of a model. -/
def writtenLasers : LidarType → Nat
  | .pandar40P => 40
  | .pandar40M => 40
  | .pandar64 => 64
  | .pandar20A => 20
  | .pandar20B => 20
  | .pandarQT => 64
  | .pandarXT32 => 32
  | .pandarXT16 => 16
  | .pandarXTM => 32
  | .xt => 0
  | .other => 0

theorem length_elevAngles (lidarType : LidarType) : (elevAngles lidarType).length = writtenLasers lidarType := by
  cases lidarType <;> rfl

theorem length_horizatalAzimuthOffsets (lidarType : LidarType) :
    (horizatalAzimuthOffsets lidarType).length = writtenLasers lidarType := by
  cases lidarType <;> rfl

end HesaiLidar
