import HesaiLidar.Frame.Points
import HesaiLidar.Library.Runs
import Mathlib.Logic.Function.Basic

/-!
# The frame under construction

The fields of the driver and the locals of `ProcessLiarPacket` that make up the frame being built, the
point stores of the five point-calculation functions, the boundary test, and `EmitBackMessege`.
-/

namespace HesaiLidar

/-- `hesai_lidar::msg::PandarPacket`. -/
structure PandarPacketMsg where
  stampSec : Int
  stampNanosec : Int
  size : Nat
  data : List UInt8
  deriving DecidableEq, Repr

abbrev PandarScan : Type := List PandarPacketMsg

/-- One call of `pcl_callback_`. -/
structure Callback where
  cloud : PPointCloud
  timestamp : ℚ
  scan : PandarScan
  deriving DecidableEq, Repr

/-- The last two fields are history: the calls made so far, and how many points were stored in
`m_vPointCloud` since the last emission. -/
structure Frame where
  lastAzimuth : Nat
  lastTimestamp : ℚ
  pointCloudIndex : Nat
  pointCloud : Nat → PPoint
  pointCloudList : Nat → List PPoint
  outMsg : PPointCloud
  scan : PandarScan
  emptyCloudDrops : Nat
  callbacks : List Callback
  stored : Nat

def maxLaserNum : Nat := 256
def maxPointCloudNum : Nat := 1000000
def maxAzimuthDegreeNum : Nat := 36000

/-! ### Storing points -/

/-- `m_vPointCloudList[i].push_back(point)`. -/
def Frame.pushBack (frame : Frame) (point : PPoint) : Frame :=
  { frame with
    pointCloudList := Function.update frame.pointCloudList point.ring (frame.pointCloudList point.ring ++ [point]) }

/-- `m_vPointCloud[m_iPointCloudIndex] = point`. -/
def Frame.put (frame : Frame) (point : PPoint) : Except Fault Frame :=
  if frame.pointCloudIndex < maxPointCloudNum then
    .ok { frame with
      pointCloud := Function.update frame.pointCloud frame.pointCloudIndex point
      stored := frame.stored + 1 }
  else .error (.pointStore frame.pointCloudIndex)

def Frame.advance (frame : Frame) : Frame := { frame with pointCloudIndex := frame.pointCloudIndex + 1 }

/-- The store at the end of `CalcPointXYZIT` and of the L64, L20 and XT variants. -/
def Frame.store (structured : Bool) (frame : Frame) (point : PPoint) : Except Fault Frame :=
  if structured then .ok (frame.pushBack point)
  else do
    let frame ← frame.put point
    return frame.advance

/-- The store of `CalcQTPointXYZIT`: without braces the increment belongs to both branches. -/
def Frame.storeQT (structured : Bool) (frame : Frame) (point : PPoint) : Except Fault Frame := do
  let frame ← if structured then .ok (frame.pushBack point) else frame.put point
  return frame.advance

def calcWith (store : Bool → Frame → PPoint → Except Fault Frame) (cfg : Config) (ctx : PacketContext) (blockid : Nat)
    (block : LidarBlock) (frame : Frame) : Except Fault Frame :=
  block.units.zipIdx.foldlM
    (fun frame (unit, i) =>
      if unit.valid then store cfg.structured frame (calcPoint cfg ctx blockid block i unit) else .ok frame)
    frame

def calcPointXYZIT : Config → PacketContext → Nat → LidarBlock → Frame → Except Fault Frame := calcWith Frame.store

def calcL64PointXYZIT : Config → PacketContext → Nat → LidarBlock → Frame → Except Fault Frame := calcWith Frame.store

def calcL20PointXYZIT : Config → PacketContext → Nat → LidarBlock → Frame → Except Fault Frame := calcWith Frame.store

def calcQTPointXYZIT : Config → PacketContext → Nat → LidarBlock → Frame → Except Fault Frame := calcWith Frame.storeQT

def calcXTPointXYZIT : Config → PacketContext → Nat → LidarBlock → Frame → Except Fault Frame := calcWith Frame.store

def calcBlock (cfg : Config) (ctx : PacketContext) : Nat → LidarBlock → Frame → Except Fault Frame :=
  match ctx.format with
  | .pandar40P => calcPointXYZIT cfg ctx
  | .l64 => calcL64PointXYZIT cfg ctx
  | .l20 => calcL20PointXYZIT cfg ctx
  | .qt => calcQTPointXYZIT cfg ctx
  | .xt => calcXTPointXYZIT cfg ctx

/-- The store a format's point-calculation function uses. -/
def Format.store : Format → Bool → Frame → PPoint → Except Fault Frame
  | .qt => Frame.storeQT
  | _ => Frame.store

/-! ### The boundary test -/

def azimuthGap (lastAzimuth azimuth : Nat) : Int :=
  if lastAzimuth > azimuth then azimuth + (36000 - (lastAzimuth : Int)) else azimuth - (lastAzimuth : Int)

def timestampGap (lastTimestamp timestampPoint : ℚ) : ℚ := timestampPoint - lastTimestamp + 1 / 1000

/-- The comparison of the speed quotient. A gap of zero makes the quotient infinite. -/
def slowEnough (lastAzimuth azimuth : Nat) (lastTimestamp timestampPoint : ℚ) : Bool :=
  let gap := timestampGap lastTimestamp timestampPoint
  if gap = 0 then azimuthGap lastAzimuth azimuth < 0
  else azimuthGap lastAzimuth azimuth / gap < (maxAzimuthDegreeNum * 100 : Nat)

def crossesStart (startAngle lastAzimuth azimuth : Nat) : Bool :=
  lastAzimuth > azimuth ∧ startAngle ≤ azimuth ∨ lastAzimuth < startAngle ∧ startAngle ≤ azimuth

def boundary (startAngle : Nat) (lastAzimuth azimuth : Nat) (lastTimestamp timestampPoint : ℚ) : Bool :=
  lastAzimuth ≠ azimuth && slowEnough lastAzimuth azimuth lastTimestamp timestampPoint &&
    crossesStart startAngle lastAzimuth azimuth

/-! ### Emission -/

/-- The text of the correction file for the first lasers. -/
def correctionText (cfg : Config) (laserNumber : Nat) : String :=
  "Laser id,Elevation,Azimuth\n" ++
    String.join ((List.range laserNumber).map fun i =>
      toString (i + 1) ++ "," ++ cfg.printFloat (cfg.tables.elevAngle i) ++ "," ++
        cfg.printFloat (cfg.tables.horizatalAzimuthOffset i) ++ "\n")

/-- A packet with an eight-byte header and the correction text; `size` counts the text alone. -/
def saveCorrectionFile (cfg : Config) (laserNumber : Nat) : PandarPacketMsg :=
  let content := (correctionText cfg laserNumber).toList.map fun c => UInt8.ofNat c.toNat
  let length := content.length
  { stampSec := 0
    stampNanosec := 0
    size := length
    data := [0x47, 0x74, 0x05, 0x00, .ofNat (length >>> 24), .ofNat (length >>> 16), .ofNat (length >>> 8), .ofNat length] ++
      content }

/-- The test `PushScanPacket` makes on the first two bytes of a message. -/
def PandarPacketMsg.isCorrection (msg : PandarPacketMsg) : Bool := msg.data.take 2 = [0x47, 0x74]

theorem saveCorrectionFile_isCorrection (cfg : Config) (laserNumber : Nat) :
    (saveCorrectionFile cfg laserNumber).isCorrection = true := rfl

def Frame.gathered (frame : Frame) (chLaserNumber : Nat) : List PPoint :=
  (List.range chLaserNumber).flatMap frame.pointCloudList

/-- `push_back` of the gathered points keeps `width` and `height` up to date. -/
def PointCloud.pushAll {P : Type} (cloud : PointCloud P) (points : List P) : PointCloud P :=
  if points.isEmpty then cloud
  else { cloud with points := cloud.points ++ points, width := .ofNat (cloud.points ++ points).length, height := 1 }

def PointCloud.assign {P : Type} (cloud : PointCloud P) (points : List P) : PointCloud P :=
  { cloud with points := points, width := .ofNat points.length, height := 1 }

def Frame.clearRings (frame : Frame) (chLaserNumber : Nat) : Frame :=
  { frame with pointCloudList := fun i => if i < chLaserNumber then [] else frame.pointCloudList i }

/-- The cloud object is emptied in the loop over the lasers. -/
def Frame.clearOutMsg (frame : Frame) (chLaserNumber : Nat) : Frame :=
  if chLaserNumber = 0 then frame else { frame with outMsg := frame.outMsg.assign [] }

def Frame.fill (structured : Bool) (chLaserNumber : Nat) (frame : Frame) : Frame :=
  if structured then { frame with outMsg := frame.outMsg.pushAll (frame.gathered chLaserNumber), stored := 0 }
  else
    { frame with
      outMsg := frame.outMsg.assign ((List.range frame.pointCloudIndex).map frame.pointCloud)
      pointCloudIndex := 0
      stored := 0 }

def emitBackMessege (structured : Bool) (chLaserNumber : Nat) (frame : Frame) : Frame :=
  let frame := frame.fill structured chLaserNumber
  match frame.outMsg.points with
  | [] =>
    let frame := { frame with emptyCloudDrops := frame.emptyCloudDrops + 1 }
    if structured then frame.clearRings chLaserNumber else frame
  | first :: _ =>
    let frame := { frame with callbacks := frame.callbacks ++ [⟨frame.outMsg, first.timestamp, frame.scan⟩] }
    if structured then (frame.clearRings chLaserNumber).clearOutMsg chLaserNumber else frame

def Frame.gate (cfg : Config) (frame : Frame) : Bool :=
  cfg.pclCallback && (frame.pointCloudIndex > 0 || ¬ (frame.pointCloudList 0).isEmpty)

/-- A boundary with something buffered ends the frame before the block's own points are added. -/
def Frame.cuts (cfg : Config) (packet : LidarPacket) (azimuth : Nat) (frame : Frame) : Bool :=
  boundary cfg.startAngle frame.lastAzimuth azimuth frame.lastTimestamp packet.timestampPoint && frame.gate cfg

def Frame.cut (cfg : Config) (packet : LidarPacket) (frame : Frame) : Frame :=
  let frame := { frame with scan := frame.scan ++ [saveCorrectionFile cfg packet.header.chLaserNumber] }
  { emitBackMessege cfg.structured packet.header.chLaserNumber frame with scan := [] }

def Frame.finishBlock (frame : Frame) (packet : LidarPacket) (block : LidarBlock) : Frame :=
  { frame with lastAzimuth := block.azimuth, lastTimestamp := packet.timestampPoint }

def Frame.append (frame : Frame) (raw : PandarPacketMsg) : Frame := { frame with scan := frame.scan ++ [raw] }

/-- The end of an iteration labels the cloud object. -/
def Frame.label (cfg : Config) (frame : Frame) : Frame :=
  { frame with outMsg := { frame.outMsg with frameId := cfg.frameId, height := 1 } }

/-- The frame the processing thread starts with. `Start` leaves the old contents of `m_vPointCloud`. -/
def Frame.start (pointCloud : Nat → PPoint) : Frame where
  lastAzimuth := 0
  lastTimestamp := 0
  pointCloudIndex := 0
  pointCloud := pointCloud
  pointCloudList := fun _ => []
  outMsg := ⟨[], 0, 0, "", true⟩
  scan := []
  emptyCloudDrops := 0
  callbacks := []
  stored := 0

end HesaiLidar
