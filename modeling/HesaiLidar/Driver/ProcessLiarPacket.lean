import HesaiLidar.Defenses.XtSequenceTracker
import HesaiLidar.Frame.Emission

/-!
# ProcessLiarPacket

The packet processing loop. One iteration takes a popped packet through the timestamp guard, the raw
copy, the dispatch by size, the parser and, for XT, the sequence check, and then through the block loop.
-/

namespace HesaiLidar

/-- `PandarPacket`: `data` is an array of `ETHERNET_MTU` bytes. -/
structure PandarPacket where
  stamp : Double
  data : Nat → UInt8
  size : Nat

def ethernetMtu : Nat := 1500

/-! ### Frame transforms -/

/-- The mutable part of the transform configuration; `lookups` counts the lookups made so far. -/
structure Transforms where
  targetFrame : String
  tfBuffer : Bool
  lookups : Nat
  tfMatrixToFixed : Affine3
  tfMatrixToTarget : Affine3

def manageTfBuffer (cfg : Config) (tf : Transforms) : Transforms :=
  if cfg.sensorFrame = "" then tf
  else if cfg.fixedFrame = "" ∧ cfg.sensorFrame = tf.targetFrame then { tf with targetFrame := "" }
  else if cfg.fixedFrame ≠ "" ∨ tf.targetFrame ≠ "" then { tf with tfBuffer := true }
  else { tf with tfBuffer := false }

/-- What a transform computation comes to: a matrix, `false`, or an exception nothing catches. -/
inductive TransformResult where
  | matrix (value : Affine3)
  | failed
  | uncaught

def calculateTransformMatrix (cfg : Config) (tf : Transforms) (targetFrame sourceFrame : String) :
    TransformResult × Transforms :=
  if ¬ tf.tfBuffer then (.failed, tf)
  else
    let counted := { tf with lookups := tf.lookups + 1 }
    match cfg.lookupTransform tf.lookups targetFrame sourceFrame with
    | .found matrix => (.matrix matrix, counted)
    | .lookupException => (.failed, counted)
    | .extrapolationException => (.failed, counted)
    | .otherException => (.uncaught, counted)

/-- Why the processing function does not go on: its `return`, an exception, or an access out of bounds. -/
inductive Stop (σ : Type) where
  | returned (state : σ)
  | uncaught (state : σ)
  | undefined (fault : Fault)

def computeTransformToTarget (cfg : Config) (tf : Transforms) : Except (Stop Transforms) Transforms :=
  if tf.targetFrame = "" then .ok tf
  else
    let sourceFrame := if cfg.fixedFrame = "" then cfg.sensorFrame else cfg.fixedFrame
    match calculateTransformMatrix cfg tf tf.targetFrame sourceFrame with
    | (.matrix value, tf) => .ok { tf with tfMatrixToTarget := value }
    | (.failed, tf) => .error (.returned tf)
    | (.uncaught, tf) => .error (.uncaught tf)

def computeTransformToFixed (cfg : Config) (tf : Transforms) : Except (Stop Transforms) Transforms :=
  if cfg.fixedFrame = "" then .ok tf
  else
    match calculateTransformMatrix cfg tf cfg.fixedFrame cfg.sensorFrame with
    | (.matrix value, tf) => .ok { tf with tfMatrixToFixed := value }
    | (.failed, tf) => .error (.returned tf)
    | (.uncaught, tf) => .error (.uncaught tf)

def transformPoint (cfg : Config) (tf : Transforms) : Affine3 := fun p =>
  if cfg.fixedFrame = "" ∧ tf.targetFrame = "" then p
  else
    let p := if cfg.fixedFrame ≠ "" then tf.tfMatrixToFixed p else p
    if tf.targetFrame ≠ "" then tf.tfMatrixToTarget p else p

/-! ### The state of the processing thread -/

/-- A packet whose blocks reach point calculation, with its stamp and the raw message kept for the scan. -/
structure AcceptedPacket where
  format : Format
  packet : LidarPacket
  stamp : ℚ
  raw : PandarPacketMsg

/-- The fields `ProcessLiarPacket` uses, with its locals in `frame`. `accepted` is history. -/
structure Driver where
  packetTimestampGuard : TimestampGuard
  xtSequenceTracker : XtSequenceTracker
  dPktTimestamp : ℚ
  transforms : Transforms
  frame : Frame
  processedPackets : Nat
  packetTimestampRegressions : Nat
  sequenceGapPackets : Nat
  sequenceDuplicates : Nat
  sequenceBackwards : Nat
  sequenceRestarts : Nat
  accepted : List AcceptedPacket

/-- A stop inside a transform computation leaves the rest of the state as it is. -/
def Driver.withTransforms (s : Driver) : Except (Stop Transforms) Transforms → Except (Stop Driver) Driver
  | .ok tf => .ok { s with transforms := tf }
  | .error (.returned tf) => .error (.returned { s with transforms := tf })
  | .error (.uncaught tf) => .error (.uncaught { s with transforms := tf })
  | .error (.undefined fault) => .error (.undefined fault)

def Driver.withFrame (s : Driver) : Except Fault Frame → Except (Stop Driver) Driver
  | .ok frame => .ok { s with frame := frame }
  | .error fault => .error (.undefined fault)

/-! ### From a popped packet to its blocks -/

/-- The size and model tests of the dispatch. -/
def dispatch (lidarType : LidarType) (size : Nat) : Option Format :=
  if size = Pandar40P.packetSize ∨ size = Pandar40P.packetSize + Pandar40P.seqNumSize then some .pandar40P
  else if size = L64.packetSize6 ∨ size = L64.packetSize7 ∨ size = L64.packetSize6WithoutUdpseq ∨
      size = L64.packetSize7WithoutUdpseq then some .l64
  else if size = L20.packetSize then some .l20
  else if size = QT.packetSize ∨ size = QT.packetSizeWithoutUdpseq then some .qt
  else if size = XT.packetSize ∧ (lidarType = .xt ∨ lidarType = .pandarXT32) ∨
      size = XT.xt16PacketSize ∧ lidarType = .pandarXT16 ∨ size = XT.xtmPacketSize ∧ lidarType = .pandarXTM then some .xt
  else none

def parse (cfg : Config) (format : Format) (data : Buffer) (size : Nat) : Except Fault (Option LidarPacket) :=
  match format with
  | .pandar40P => parseRawData cfg.mktime data size
  | .l64 => parseL64Data cfg.mktime data size
  | .l20 => parseL20Data cfg.mktime data size
  | .qt => parseQTData cfg.mktime data size
  | .xt => parseXTData cfg.mktime data size

/-- The raw message: the stamp split into seconds and nanoseconds, and a copy of the payload. -/
def rawPacket (stamp : ℚ) (packet : PandarPacket) : Except Fault PandarPacketMsg :=
  if packet.size ≤ ethernetMtu then
    .ok {
      stampSec := stamp.floor
      stampNanosec := truncate ((stamp - stamp.floor) * 1000000000)
      size := packet.size
      data := (List.range packet.size).map packet.data }
  else .error (.packetCopy packet.size)

/-- The sequence check of the XT branch with its counters; the flag says whether the packet is kept. -/
def Driver.checkSequence (s : Driver) (sequence : UInt32) (stamp : Double) : Bool × Driver :=
  let (decision, tracker) := s.xtSequenceTracker.observe (sequence, stamp)
  let s := { s with xtSequenceTracker := tracker }
  match decision.status with
  | .kForwardGap => (true, { s with sequenceGapPackets := s.sequenceGapPackets + decision.missing.toNat })
  | .kDuplicate => (false, { s with sequenceDuplicates := s.sequenceDuplicates + 1 })
  | .kBackward => (false, { s with sequenceBackwards := s.sequenceBackwards + 1 })
  | .kRestartAfterIdle => (true, { s with sequenceRestarts := s.sequenceRestarts + 1 })
  | .kFirst => (true, s)
  | .kInOrder => (true, s)

/-- Where the guard has let a packet pass: copy, dispatch, transform to the fixed frame, parse and, for
XT, the sequence check. `none` for a packet the loop gives up here. -/
def Driver.accept (cfg : Config) (s : Driver) (stamp : ℚ) (packet : PandarPacket) :
    Except (Stop Driver) (Driver × Option AcceptedPacket) :=
  match rawPacket stamp packet with
  | .error fault => .error (.undefined fault)
  | .ok raw =>
    let s := { s with dPktTimestamp := stamp }
    match dispatch cfg.lidarType packet.size with
    | none => .ok (s, none)
    | some format => do
      let s := { s with transforms := manageTfBuffer cfg s.transforms }
      let s ← s.withTransforms (computeTransformToFixed cfg s.transforms)
      match parse cfg format ⟨packet.data, ethernetMtu⟩ packet.size with
      | .error fault => .error (.undefined fault)
      | .ok none => .ok (s, none)
      | .ok (some parsed) =>
        if format = .xt then
          match s.checkSequence parsed.udpSequence packet.stamp with
          | (true, s) => .ok (s, some ⟨format, parsed, stamp, raw⟩)
          | (false, s) => .ok (s, none)
        else .ok (s, some ⟨format, parsed, stamp, raw⟩)

/-! ### The block loop -/

def Driver.context (cfg : Config) (s : Driver) (accepted : AcceptedPacket) : PacketContext where
  format := accepted.format
  packet := accepted.packet
  dPktTimestamp := s.dPktTimestamp
  transformPoint := transformPoint cfg s.transforms

/-- The boundary test and emission in front of a block. The transform to the target frame is looked up
again for the points that follow. -/
def Driver.cutBefore (cfg : Config) (s : Driver) (packet : LidarPacket) (block : LidarBlock) :
    Except (Stop Driver) Driver :=
  if s.frame.cuts cfg packet block.azimuth then
    let s := { s with frame := s.frame.cut cfg packet }
    s.withTransforms (computeTransformToTarget cfg s.transforms)
  else .ok s

def Driver.processBlock (cfg : Config) (accepted : AcceptedPacket) (s : Driver) (entry : LidarBlock × Nat) :
    Except (Stop Driver) Driver := do
  let (block, blockid) := entry
  let s ← s.cutBefore cfg accepted.packet block
  let s ← s.withFrame (calcBlock cfg (s.context cfg accepted) blockid block s.frame)
  return { s with frame := s.frame.finishBlock accepted.packet block }

def Driver.keep (s : Driver) (accepted : AcceptedPacket) : Driver :=
  { s with frame := s.frame.append accepted.raw, accepted := s.accepted ++ [accepted] }

def Driver.processBlocks (cfg : Config) (s : Driver) (accepted : AcceptedPacket) : Except (Stop Driver) Driver := do
  let s ← accepted.packet.blocks.zipIdx.foldlM (Driver.processBlock cfg accepted) (s.keep accepted)
  return { s with frame := s.frame.label cfg }

/-- The packet is counted and the guard has seen its stamp. -/
def Driver.guarded (s : Driver) (packet : PandarPacket) : Driver :=
  { s with
    processedPackets := s.processedPackets + 1
    packetTimestampGuard := (s.packetTimestampGuard.observe packet.stamp).2 }

def Driver.processAccepted (cfg : Config) : Driver × Option AcceptedPacket → Except (Stop Driver) Driver
  | (s, none) => .ok s
  | (s, some accepted) => s.processBlocks cfg accepted

/-- One iteration of the loop that popped a packet. -/
def Driver.processPacket (cfg : Config) (s : Driver) (packet : PandarPacket) : Except (Stop Driver) Driver :=
  let decision := (s.packetTimestampGuard.observe packet.stamp).1
  let s := s.guarded packet
  match decision.accepted, packet.stamp with
  | true, .finite stamp => s.accept cfg stamp packet >>= Driver.processAccepted cfg
  | _, _ => .ok { s with packetTimestampRegressions := s.packetTimestampRegressions + 1 }

/-- The state `Start` leaves to the processing thread. -/
def Driver.start (targetFrame : String) (pointCloud : Nat → PPoint) : Driver where
  packetTimestampGuard := .fresh kTimestampRegressionToleranceSec
  xtSequenceTracker := .fresh kXtSequenceRestartIdleSec
  dPktTimestamp := 0
  transforms := ⟨targetFrame, false, 0, id, id⟩
  frame := .start pointCloud
  processedPackets := 0
  packetTimestampRegressions := 0
  sequenceGapPackets := 0
  sequenceDuplicates := 0
  sequenceBackwards := 0
  sequenceRestarts := 0
  accepted := []

/-- The processing thread on the packets it pops. -/
def processLiarPacket (cfg : Config) (s : Driver) (packets : List PandarPacket) : Except (Stop Driver) Driver := do
  let s ← s.withTransforms (computeTransformToTarget cfg s.transforms)
  packets.foldlM (Driver.processPacket cfg) s

end HesaiLidar
