import HesaiLidar.Frame.Points
import HesaiLidar.Library.Records

/-!
# makeCompactPointCloud2

The conversion of a cloud to the packed 26-byte layout, on the bit patterns of its numbers, and a reader
that knows of a message only what the message says about itself.
-/

namespace HesaiLidar

abbrev BitPoint : Type := PointXYZIT (BitVec 32) (BitVec 64) (BitVec 16)

abbrev BitCloud : Type := PointCloud BitPoint

/-- `std_msgs::msg::Header`. -/
structure Header where
  stampSec : Int
  stampNanosec : Int
  frameId : String
  deriving DecidableEq, Repr

/-- `sensor_msgs::msg::PointField`. -/
structure PointField where
  name : String
  offset : UInt32
  datatype : UInt8
  count : UInt32
  deriving DecidableEq, Repr

namespace PointField

def int8 : UInt8 := 1
def uint8 : UInt8 := 2
def int16 : UInt8 := 3
def uint16 : UInt8 := 4
def int32 : UInt8 := 5
def uint32 : UInt8 := 6
def float32 : UInt8 := 7
def float64 : UInt8 := 8

/-- How many bytes a value of a datatype takes. -/
def sizeOfDatatype (datatype : UInt8) : Option Nat :=
  if datatype = int8 ∨ datatype = uint8 then some 1
  else if datatype = int16 ∨ datatype = uint16 then some 2
  else if datatype = int32 ∨ datatype = uint32 ∨ datatype = float32 then some 4
  else if datatype = float64 then some 8
  else none

end PointField

/-- `sensor_msgs::msg::PointCloud2`. -/
structure PointCloud2 where
  header : Header
  height : UInt32
  width : UInt32
  fields : List PointField
  isBigendian : Bool
  pointStep : UInt32
  rowStep : UInt32
  data : List UInt8
  isDense : Bool
  deriving DecidableEq, Repr

/-- `std::length_error` with its text. -/
structure LengthError where
  what : String
  deriving DecidableEq, Repr

def kCompactPointStep : UInt32 := 26

def uint32Max : Nat := 4294967295

def pointField (name : String) (offset : UInt32) (datatype : UInt8) : PointField := ⟨name, offset, datatype, 1⟩

/-- The memory of a packed `CompactPointXYZIT`. -/
def compactPointXYZIT (hostIsBigEndian : Bool) (point : BitPoint) : List UInt8 :=
  let encode := ByteOrder.encode hostIsBigEndian
  encode 4 point.x.toNat ++ (encode 4 point.y.toNat ++ (encode 4 point.z.toNat ++ (encode 4 point.intensity.toNat ++
    (encode 8 point.timestamp.toNat ++ encode 2 point.ring.toNat))))

/-- The copy of one point: its bytes and their addresses in the message. -/
def pointWrites (hostIsBigEndian : Bool) (point : BitPoint) (index : Nat) : List (Nat × UInt8) :=
  ((compactPointXYZIT hostIsBigEndian point).zipIdx (index * kCompactPointStep.toNat)).map Prod.swap

def cloudWrites (hostIsBigEndian : Bool) (cloud : BitCloud) : List (Nat × UInt8) :=
  cloud.points.zipIdx.flatMap fun (point, index) => pointWrites hostIsBigEndian point index

def normalised (cloud : BitCloud) : UInt32 × UInt32 :=
  let declaredPoints := cloud.width.toUInt64 * cloud.height.toUInt64
  if cloud.height = 0 ∨ declaredPoints.toNat ≠ cloud.points.length then (.ofNat cloud.points.length, 1)
  else (cloud.width, cloud.height)

def makeCompactPointCloud2 (hostIsBigEndian : Bool) (cloud : BitCloud) : Except LengthError PointCloud2 :=
  if cloud.points.length > uint32Max then .error ⟨"point cloud exceeds PointCloud2 width range"⟩
  else
    let (width, height) := normalised cloud
    if width.toNat > uint32Max / kCompactPointStep.toNat then
      .error ⟨"point cloud row exceeds PointCloud2 row_step range"⟩
    else
      let pointStep := kCompactPointStep
      let rowStep := width * pointStep
      .ok {
        header := ⟨0, 0, cloud.frameId⟩
        height, width
        fields := [
          pointField "x" 0 PointField.float32,
          pointField "y" 4 PointField.float32,
          pointField "z" 8 PointField.float32,
          pointField "intensity" 12 PointField.float32,
          pointField "timestamp" 16 PointField.float64,
          pointField "ring" 24 PointField.uint16]
        isBigendian := hostIsBigEndian
        pointStep, rowStep
        data := Records.storeAll (List.replicate (rowStep.toNat * height.toNat) 0) (cloudWrites hostIsBigEndian cloud)
        isDense := cloud.isDense }

/-! ### A reader -/

/-- The bits of a field of the point at a row and a column, found by what the message publishes. -/
def PointCloud2.read (message : PointCloud2) (row col : Nat) (name : String) : Option Nat := do
  let field ← message.fields.find? fun field => field.name = name
  let size ← PointField.sizeOfDatatype field.datatype
  let start := row * message.rowStep.toNat + col * message.pointStep.toNat + field.offset.toNat
  let bytes ← Records.slice message.data start size
  return ByteOrder.decode message.isBigendian bytes

/-- The reader finds this point, bit for bit. -/
structure PointCloud2.Shows (message : PointCloud2) (row col : Nat) (point : BitPoint) : Prop where
  x : message.read row col "x" = some point.x.toNat
  y : message.read row col "y" = some point.y.toNat
  z : message.read row col "z" = some point.z.toNat
  intensity : message.read row col "intensity" = some point.intensity.toNat
  timestamp : message.read row col "timestamp" = some point.timestamp.toNat
  ring : message.read row col "ring" = some point.ring.toNat

variable {hostIsBigEndian : Bool} {cloud : BitCloud} {point : BitPoint}

/-! ### The data of the message -/

variable (hostIsBigEndian) in
theorem compactPointXYZIT_length (point : BitPoint) :
    (compactPointXYZIT hostIsBigEndian point).length = kCompactPointStep.toNat := by
  simp [compactPointXYZIT]
  rfl

theorem pointWrites_fst (point : BitPoint) (index : Nat) :
    (pointWrites hostIsBigEndian point index).map Prod.fst =
      List.range' (index * kCompactPointStep.toNat) kCompactPointStep.toNat := by
  rw [pointWrites, List.map_map, ← compactPointXYZIT_length hostIsBigEndian point,
    ← List.zipIdx_map_snd]
  rfl

theorem pointWrites_snd (point : BitPoint) (index : Nat) :
    (pointWrites hostIsBigEndian point index).map Prod.snd = compactPointXYZIT hostIsBigEndian point := by
  rw [pointWrites, List.map_map]
  exact List.zipIdx_map_fst ..

theorem flatMap_range' (step : Nat) (points : List BitPoint) (first : Nat) :
    ((points.zipIdx first).flatMap fun (_, index) => List.range' (index * step) step) =
      List.range' (first * step) (points.length * step) := by
  induction points generalizing first with
  | nil => simp
  | cons point points ih =>
    have next : (first + 1) * step = first * step + step := Nat.succ_mul ..
    have total : (points.length + 1) * step = step + points.length * step := by rw [Nat.succ_mul, Nat.add_comm]
    rw [List.zipIdx_cons, List.flatMap_cons, ih, List.length_cons, next, total]
    exact List.range'_append_1

/-- The copies go to every byte of the message, once each and in order. -/
theorem cloudWrites_fst (cloud : BitCloud) :
    (cloudWrites hostIsBigEndian cloud).map Prod.fst = List.range (cloud.points.length * kCompactPointStep.toNat) := by
  rw [cloudWrites, List.map_flatMap, List.range_eq_range', ← Nat.zero_mul kCompactPointStep.toNat, ← flatMap_range']
  exact List.flatMap_congr fun entry _ => pointWrites_fst entry.1 entry.2

theorem cloudWrites_snd (cloud : BitCloud) :
    (cloudWrites hostIsBigEndian cloud).map Prod.snd = cloud.points.flatMap (compactPointXYZIT hostIsBigEndian) := by
  rw [cloudWrites, List.map_flatMap, List.flatMap_congr fun entry _ => pointWrites_snd entry.1 entry.2]
  conv_rhs => rw [← List.zipIdx_map_fst 0 cloud.points, List.flatMap_map]

/-! ### Dimensions -/

/-- The declared dimensions are kept: there is a row, and they count the points. -/
def Consistent (cloud : BitCloud) : Prop :=
  cloud.height ≠ 0 ∧ cloud.width.toNat * cloud.height.toNat = cloud.points.length

instance (cloud : BitCloud) : Decidable (Consistent cloud) := inferInstanceAs (Decidable (_ ∧ _))

/-- Two 32-bit numbers multiply in 64 bits without overflow. -/
theorem declaredPoints_toNat (width height : UInt32) :
    (width.toUInt64 * height.toUInt64).toNat = width.toNat * height.toNat := by
  have small : width.toNat * height.toNat < 2 ^ 64 :=
    Nat.lt_of_lt_of_le (Nat.mul_lt_mul'' width.toNat_lt height.toNat_lt) (by decide)
  rw [UInt64.toNat_mul, UInt32.toNat_toUInt64, UInt32.toNat_toUInt64, Nat.mod_eq_of_lt small]

theorem normalised_eq (cloud : BitCloud) :
    normalised cloud = if Consistent cloud then (cloud.width, cloud.height) else (.ofNat cloud.points.length, 1) := by
  have product := declaredPoints_toNat cloud.width cloud.height
  unfold normalised
  dsimp only
  rw [product]
  by_cases consistent : Consistent cloud
  · rw [if_pos consistent, if_neg fun wrong => wrong.elim consistent.1 fun other => other consistent.2]
  · rw [if_neg consistent, if_pos]
    by_contra right
    exact consistent (not_or.mp right |>.imp_right not_not.mp)

theorem normalised_mul (few : cloud.points.length ≤ uint32Max) :
    (normalised cloud).1.toNat * (normalised cloud).2.toNat = cloud.points.length := by
  rw [normalised_eq]
  split
  · rename_i consistent
    exact consistent.2
  · have small : cloud.points.length < 2 ^ 32 := Nat.lt_succ_of_le few
    show (UInt32.ofNat cloud.points.length).toNat * 1 = _
    rw [Nat.mul_one, UInt32.toNat_ofNat', Nat.mod_eq_of_lt small]

theorem rowStep_toNat {width : UInt32} (narrow : width.toNat ≤ uint32Max / kCompactPointStep.toNat) :
    (width * kCompactPointStep).toNat = 26 * width.toNat := by
  have bound : width.toNat * 26 < 2 ^ 32 := by
    have step : kCompactPointStep.toNat = 26 := rfl
    rw [uint32Max, step] at narrow
    omega
  rw [UInt32.toNat_mul, show kCompactPointStep.toNat = 26 from rfl, Nat.mod_eq_of_lt bound, Nat.mul_comm]

/-! ### Losslessness -/

/-- What the conversion refuses: more points than 32 bits count, or a row longer than 32 bits count. -/
def TooLarge (cloud : BitCloud) : Prop :=
  cloud.points.length > uint32Max ∨ (normalised cloud).1.toNat > uint32Max / 26

/-- A message that carries the whole cloud. -/
structure Lossless (hostIsBigEndian : Bool) (cloud : BitCloud) (message : PointCloud2) : Prop where
  size : message.width.toNat * message.height.toNat = cloud.points.length
  rowStep : message.rowStep.toNat = 26 * message.width.toNat
  rows : message.data.length = message.rowStep.toNat * message.height.toNat
  length : message.data.length = 26 * cloud.points.length
  written : (cloudWrites hostIsBigEndian cloud).map Prod.fst = List.range message.data.length
  points : ∀ row col, row < message.height.toNat → col < message.width.toNat →
    ∃ point, cloud.points[row * message.width.toNat + col]? = some point ∧ message.Shows row col point
  kept : Consistent cloud → message.width = cloud.width ∧ message.height = cloud.height
  replaced : ¬ Consistent cloud → message.width.toNat = cloud.points.length ∧ message.height = 1

theorem fits32 (bits : BitVec 32) : bits.toNat < 256 ^ 4 := bits.isLt
theorem fits64 (bits : BitVec 64) : bits.toNat < 256 ^ 8 := bits.isLt
theorem fits16 (bits : BitVec 16) : bits.toNat < 256 ^ 2 := bits.isLt

variable (hostIsBigEndian) in
/-- A part of a point is read at its offset in the memory of the point. -/
theorem slice_point {row col width : Nat} (bound : row * width + col < cloud.points.length)
    {offset size : Nat} (inside : offset + size ≤ kCompactPointStep.toNat) :
    Records.slice (cloud.points.flatMap (compactPointXYZIT hostIsBigEndian))
        (row * (26 * width) + col * kCompactPointStep.toNat + offset) size =
      Records.slice (compactPointXYZIT hostIsBigEndian cloud.points[row * width + col]) offset size := by
  rw [← Records.slice_flatMap (compactPointXYZIT_length _) bound inside]
  congr 2
  rw [show kCompactPointStep.toNat = 26 from rfl]
  ring

variable (hostIsBigEndian) in
theorem slice_fields (point : BitPoint) :
    let memory := compactPointXYZIT hostIsBigEndian point
    let encode := ByteOrder.encode hostIsBigEndian
    Records.slice memory 0 4 = some (encode 4 point.x.toNat) ∧
      Records.slice memory 4 4 = some (encode 4 point.y.toNat) ∧
      Records.slice memory 8 4 = some (encode 4 point.z.toNat) ∧
      Records.slice memory 12 4 = some (encode 4 point.intensity.toNat) ∧
      Records.slice memory 16 8 = some (encode 8 point.timestamp.toNat) ∧
      Records.slice memory 24 2 = some (encode 2 point.ring.toNat) := by
  intro memory encode
  have length (width n : Nat) : (encode width n).length = width := ByteOrder.encode_length hostIsBigEndian width n
  refine ⟨Records.slice_front (length ..), ?_, ?_, ?_, ?_, ?_⟩
  · exact (Records.slice_behind 0 (length ..)).trans (Records.slice_front (length ..))
  · refine (Records.slice_behind 4 (length ..)).trans ?_
    exact (Records.slice_behind 0 (length ..)).trans (Records.slice_front (length ..))
  · refine (Records.slice_behind 8 (length ..)).trans ?_
    refine (Records.slice_behind 4 (length ..)).trans ?_
    exact (Records.slice_behind 0 (length ..)).trans (Records.slice_front (length ..))
  · refine (Records.slice_behind 12 (length ..)).trans ?_
    refine (Records.slice_behind 8 (length ..)).trans ?_
    refine (Records.slice_behind 4 (length ..)).trans ?_
    exact (Records.slice_behind 0 (length ..)).trans (Records.slice_front (length ..))
  · refine (Records.slice_behind 20 (length ..)).trans ?_
    refine (Records.slice_behind 16 (length ..)).trans ?_
    refine (Records.slice_behind 12 (length ..)).trans ?_
    refine (Records.slice_behind 8 (length ..)).trans ?_
    exact (Records.slice_behind 0 (length ..)).trans (Records.slice_all (length ..))

theorem shows_point {message : PointCloud2} {row col : Nat} (bigEndian : message.isBigendian = hostIsBigEndian)
    (fields : message.fields = [
      pointField "x" 0 PointField.float32,
      pointField "y" 4 PointField.float32,
      pointField "z" 8 PointField.float32,
      pointField "intensity" 12 PointField.float32,
      pointField "timestamp" 16 PointField.float64,
      pointField "ring" 24 PointField.uint16])
    (pointStep : message.pointStep = kCompactPointStep) (rowStep : message.rowStep.toNat = 26 * message.width.toNat)
    (data : message.data = cloud.points.flatMap (compactPointXYZIT hostIsBigEndian))
    (bound : row * message.width.toNat + col < cloud.points.length) :
    message.Shows row col cloud.points[row * message.width.toNat + col] := by
  obtain ⟨x, y, z, intensity, timestamp, ring⟩ :=
    slice_fields hostIsBigEndian cloud.points[row * message.width.toNat + col]
  have read (name : String) (offset : UInt32) (datatype : UInt8) (size : Nat)
      (found : message.fields.find? (fun field => field.name = name) = some (pointField name offset datatype))
      (typed : PointField.sizeOfDatatype datatype = some size) (inside : offset.toNat + size ≤ kCompactPointStep.toNat)
      {value : Nat} (fits : value < 256 ^ size)
      (slice : Records.slice (compactPointXYZIT hostIsBigEndian cloud.points[row * message.width.toNat + col])
        offset.toNat size = some (ByteOrder.encode hostIsBigEndian size value)) :
      message.read row col name = some value := by
    have there := slice_point hostIsBigEndian bound inside
    rw [slice] at there
    simp only [PointCloud2.read, found, pointField, typed, rowStep, pointStep, data, there, bigEndian,
      Option.bind_eq_bind, Option.bind_some, ByteOrder.decode_encode fits]
    rfl
  constructor
  · exact read "x" 0 PointField.float32 4 (by rw [fields]; rfl) rfl (by decide) (fits32 _) x
  · exact read "y" 4 PointField.float32 4 (by rw [fields]; rfl) rfl (by decide) (fits32 _) y
  · exact read "z" 8 PointField.float32 4 (by rw [fields]; rfl) rfl (by decide) (fits32 _) z
  · exact read "intensity" 12 PointField.float32 4 (by rw [fields]; rfl) rfl (by decide) (fits32 _) intensity
  · exact read "timestamp" 16 PointField.float64 8 (by rw [fields]; rfl) rfl (by decide) (fits64 _) timestamp
  · exact read "ring" 24 PointField.uint16 2 (by rw [fields]; rfl) rfl (by decide) (fits16 _) ring

/-- The conversion refuses exactly the clouds that are too large and carries every other one without loss. -/
theorem makeCompactPointCloud2_lossless (hostIsBigEndian : Bool) (cloud : BitCloud) :
    match makeCompactPointCloud2 hostIsBigEndian cloud with
    | .error _ => TooLarge cloud
    | .ok message => ¬ TooLarge cloud ∧ Lossless hostIsBigEndian cloud message := by
  unfold makeCompactPointCloud2
  by_cases many : cloud.points.length > uint32Max
  · rw [if_pos many]
    exact .inl many
  · rw [if_neg many]
    dsimp only
    by_cases wide : (normalised cloud).1.toNat > uint32Max / kCompactPointStep.toNat
    · rw [if_pos wide]
      exact .inr wide
    · rw [if_neg wide]
      have size := normalised_mul (Nat.le_of_not_lt many)
      have rowStep := rowStep_toNat (Nat.le_of_not_lt wide)
      have places : ((normalised cloud).1 * kCompactPointStep).toNat * (normalised cloud).2.toNat =
          cloud.points.length * kCompactPointStep.toNat := by
        rw [rowStep, ← size, show kCompactPointStep.toNat = 26 from rfl]
        ring
      have addresses : (cloudWrites hostIsBigEndian cloud).map Prod.fst = List.range
          (List.replicate (((normalised cloud).1 * kCompactPointStep).toNat * (normalised cloud).2.toNat) (0 : UInt8)).length := by
        rw [cloudWrites_fst, List.length_replicate, places]
      have data := Records.storeAll_range addresses
      rw [cloudWrites_snd] at data
      have length := Records.length_flatMap_of_fixed (compactPointXYZIT_length hostIsBigEndian) cloud.points
      refine ⟨not_or.mpr ⟨many, wide⟩, ?_⟩
      exact
        { size := size
          rowStep := rowStep
          rows := by
            rw [data, length]
            exact places.symm
          length := by
            rw [data, length, Nat.mul_comm]
            rfl
          written := by rw [data, length, cloudWrites_fst]
          points := by
            intro row col inRow inCol
            have bound : row * (normalised cloud).1.toNat + col < cloud.points.length := by
              rw [← size]
              exact Nat.lt_of_lt_of_le (Nat.add_lt_add_left inCol _)
                (by rw [← Nat.succ_mul, Nat.mul_comm]; exact Nat.mul_le_mul_left _ inRow)
            exact ⟨_, List.getElem?_eq_getElem bound, shows_point rfl rfl rfl rowStep data bound⟩
          kept := by
            intro consistent
            dsimp only
            rw [normalised_eq, if_pos consistent]
            exact ⟨rfl, rfl⟩
          replaced := by
            intro inconsistent
            have same := normalised_eq cloud
            rw [if_neg inconsistent] at same
            rw [same, UInt32.toNat_one, Nat.mul_one] at size
            dsimp only
            rw [same]
            exact ⟨size, rfl⟩ }

/-- Five columns and no row count no point, and are replaced by one empty row. -/
theorem empty_height_replaced :
    let cloud : BitCloud := ⟨[], 5, 0, "", true⟩
    cloud.width.toNat * cloud.height.toNat = cloud.points.length ∧
      (makeCompactPointCloud2 false cloud).toOption.map (fun message => (message.width, message.height)) = some (0, 1) := by
  decide +kernel

end HesaiLidar
