import HesaiLidar.Calibration.InitTables
import Mathlib.Algebra.Order.Ring.Rat
import Mathlib.Tactic.Linarith
import Mathlib.Tactic.Ring

/-!
# The azimuth index stays in its table

The azimuth tables have 36000 entries and the index is corrected by one turn in each direction. Block
azimuth and motor speed are taken from the packet unchecked, so what keeps the index inside is the angle
and the firing delay of each single laser.
-/

namespace HesaiLidar

open Slots

/-! ### Conversion to int and one correction -/

theorem le_truncate {q : ℚ} {n : Int} (le : (n : ℚ) ≤ q) : n ≤ truncate q := by
  have positive : (0 : Int) < q.den := by exact_mod_cast q.den_pos
  refine Int.le_tdiv_of_mul_le positive ?_
  have scaled := mul_le_mul_of_nonneg_right le (Nat.cast_nonneg (α := ℚ) q.den)
  rw [Rat.mul_den_eq_num] at scaled
  exact_mod_cast scaled

theorem truncate_lt {q : ℚ} {n : Int} (positive : 0 < n) (lt : q < n) : truncate q < n := by
  rcases le_or_gt 0 q with nonneg | negative
  · rw [truncate_of_nonneg nonneg]
    exact Int.floor_lt.mpr lt
  · have small := Int.tdiv_le_tdiv (c := q.den) (by exact_mod_cast q.den_pos) (Rat.num_nonpos.mpr negative.le)
    rw [Int.zero_tdiv] at small
    exact lt_of_le_of_lt small positive

/-- One correction by a turn brings an index between minus one turn and two turns into the table. -/
theorem azimuthIndex_mem_of_raw {cfg : Config} {format : Format} {spinSpeed : ℚ} {blockAzimuth i : Nat}
    (lower : -36000 ≤ cfg.tables.horizatalAzimuthOffset i * 100 + blockAzimuth +
      (cfg.calcRule format).azimuthShift spinSpeed i * 100)
    (upper : cfg.tables.horizatalAzimuthOffset i * 100 + blockAzimuth +
      (cfg.calcRule format).azimuthShift spinSpeed i * 100 < 72000) :
    0 ≤ azimuthIndex cfg format spinSpeed blockAzimuth i ∧ azimuthIndex cfg format spinSpeed blockAzimuth i ≤ 35999 := by
  have above := le_truncate (n := -36000) (by exact_mod_cast lower)
  have below := truncate_lt (n := 72000) (by decide) (by exact_mod_cast upper)
  unfold azimuthIndex
  dsimp only
  split_ifs <;> omega

/-! ### Each laser -/

/-- The delay by which the firing of a laser moves the azimuth, in microseconds and with its sign. -/
def firingDelay (lidarType : LidarType) : Format → Nat → ℚ
  | .pandar40P => fun i => -value 0 (fill Pandar40P.laserCount laser40Offset) i
  | .l64 => fun i => -value 0 (fill L64.unitNum laser64Offset) i
  | .l20 => value 0 (fill L20.unitNum laser20BOffset)
  | .qt => value 0 (filled QT.unitNum laserQTOffset)
  | .xt => value 0 (filled XT.unitNum (laserXTOffsets lidarType))

def azimuthOffset (lidarType : LidarType) : Nat → ℚ :=
  value 0 (filled maxLaserNum (horizatalAzimuthOffsets lidarType))

/-- The angle and the delay of a laser leave the raw index between minus one turn and two turns, for the
largest block azimuth and motor speed. -/
def OneTurnOff (offset delay : ℚ) : Prop :=
  -36000 ≤ offset * 100 + min 0 (firetimeOffset 65535 delay * 100) ∧
    offset * 100 + 65535 + max 0 (firetimeOffset 65535 delay * 100) < 72000

instance (offset delay : ℚ) : Decidable (OneTurnOff offset delay) := inferInstanceAs (Decidable (_ ∧ _))

theorem firetimeOffset_neg (spinSpeed delay : ℚ) : firetimeOffset spinSpeed (-delay) = -firetimeOffset spinSpeed delay := by
  unfold firetimeOffset
  ring

theorem firetimeOffset_between {spinSpeed delay : ℚ} (nonneg : 0 ≤ spinSpeed) (fast : spinSpeed ≤ 65535) :
    min 0 (firetimeOffset 65535 delay * 100) ≤ firetimeOffset spinSpeed delay * 100 ∧
      firetimeOffset spinSpeed delay * 100 ≤ max 0 (firetimeOffset 65535 delay * 100) := by
  unfold firetimeOffset
  rcases le_or_gt 0 delay with late | early
  · have least : 0 ≤ spinSpeed * delay := mul_nonneg nonneg late
    have most : spinSpeed * delay ≤ 65535 * delay := mul_le_mul_of_nonneg_right fast late
    exact ⟨min_le_of_left_le (by linarith), le_max_of_le_right (by linarith)⟩
  · have most : spinSpeed * delay ≤ 0 := mul_nonpos_of_nonneg_of_nonpos nonneg early.le
    have least : 65535 * delay ≤ spinSpeed * delay := mul_le_mul_of_nonpos_right fast early.le
    exact ⟨min_le_of_right_le (by linarith), le_max_of_le_left (by linarith)⟩

/-- The models with the format whose point-calculation function they use. -/
def azimuthModels : List (LidarType × Format) :=
  [(.pandar64, .l64), (.pandar20A, .l20), (.pandar20B, .l20), (.pandarQT, .qt), (.pandarXT32, .xt), (.pandarXT16, .xt),
    (.pandarXTM, .xt)]

theorem oneTurnOff_of_model {lidarType : LidarType} {format : Format} {i : Nat}
    (model : (lidarType, format) ∈ azimuthModels) (laser : i < writtenLasers lidarType) :
    OneTurnOff (azimuthOffset lidarType i) (firingDelay lidarType format i) := by
  have checked : ∀ entry ∈ azimuthModels, ∀ i < writtenLasers entry.1,
      OneTurnOff (azimuthOffset entry.1 i) (firingDelay entry.1 entry.2 i) := by
    decide +kernel
  exact checked _ model i laser

/-! ### Every packet -/

variable {trig : Trigonometry} {cfg : Config}

theorem azimuthShift_init (tables : cfg.tables = (init trig cfg.lidarType).values) (format : Format) (spinSpeed : ℚ)
    (i : Nat) :
    (cfg.calcRule format).azimuthShift spinSpeed i = firetimeOffset spinSpeed (firingDelay cfg.lidarType format i) := by
  unfold Config.calcRule
  rw [tables]
  cases format with
  | pandar40P => exact (firetimeOffset_neg ..).symm
  | l64 => exact (firetimeOffset_neg ..).symm
  | l20 => rfl
  | qt => rfl
  | xt => rfl

/-- With the tables of `Init`, whatever azimuth and motor speed a packet carries, the azimuth index of every
laser lies in the table. -/
theorem azimuthIndex_mem (tables : cfg.tables = (init trig cfg.lidarType).values) {format : Format}
    (model : (cfg.lidarType, format) ∈ azimuthModels) (blockAzimuth spinSpeed : UInt16) {i : Nat}
    (laser : i < writtenLasers cfg.lidarType) :
    0 ≤ azimuthIndex cfg format spinSpeed.toNat blockAzimuth.toNat i ∧
      azimuthIndex cfg format spinSpeed.toNat blockAzimuth.toNat i ≤ 35999 := by
  obtain ⟨low, high⟩ := oneTurnOff_of_model model laser
  have azimuth : (blockAzimuth.toNat : ℚ) ≤ 65535 := by exact_mod_cast Nat.le_of_lt_succ blockAzimuth.toNat_lt
  have speed : (spinSpeed.toNat : ℚ) ≤ 65535 := by exact_mod_cast Nat.le_of_lt_succ spinSpeed.toNat_lt
  have here : (0 : ℚ) ≤ blockAzimuth.toNat := Nat.cast_nonneg _
  obtain ⟨least, most⟩ := @firetimeOffset_between _ (firingDelay cfg.lidarType format i) (Nat.cast_nonneg _) speed
  have offset : cfg.tables.horizatalAzimuthOffset i = azimuthOffset cfg.lidarType i := by
    rw [tables]
    rfl
  apply azimuthIndex_mem_of_raw
  · rw [offset, azimuthShift_init tables]
    linarith
  · rw [offset, azimuthShift_init tables]
    linarith

/-- The PandarQT laser that comes closest to two turns, with every bit of azimuth and motor speed set. -/
theorem azimuthIndex_mem_pandarQT :
    let cfg : Config := { Config.plain .pandarQT 0 0 with tables := (init ⟨id, id⟩ .pandarQT).values }
    0 ≤ azimuthIndex cfg .qt (0xffff : UInt16).toNat (0xffff : UInt16).toNat 47 ∧
      azimuthIndex cfg .qt (0xffff : UInt16).toNat (0xffff : UInt16).toNat 47 ≤ 35999 :=
  azimuthIndex_mem rfl (by decide) 0xffff 0xffff (by decide)

end HesaiLidar
