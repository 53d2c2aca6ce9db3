import HesaiLidar.Wire.LidarPacket
import Mathlib.Algebra.Order.Ring.Rat

/-!
# The five packet parsers

`ParseRawData`, `ParseL64Data`, `ParseL20Data`, `ParseQTData` and `ParseXTData`. A parser that returns
-1 gives `none`. Only `ParseXTData` compares the header with the length before it enters the loops.
-/

namespace HesaiLidar

/-! ### Packet sizes -/

namespace Pandar40P

def sobAngleSize : Nat := 4
def rawMeasureSize : Nat := 3
def laserCount : Nat := 40
def blocksPerPacket : Nat := 10
def blockSize : Nat := rawMeasureSize * laserCount + sobAngleSize
def timestampSize : Nat := 4
def factoryInfoSize : Nat := 1
def echoSize : Nat := 1
def reserveSize : Nat := 8
def revolutionSize : Nat := 2
def infoSize : Nat := timestampSize + factoryInfoSize + echoSize + reserveSize + revolutionSize
def utcTime : Nat := 6
def packetSize : Nat := blockSize * blocksPerPacket + infoSize + utcTime
def seqNumSize : Nat := 4

end Pandar40P

namespace L64

def headSize : Nat := 8
def blockNumber6 : Nat := 6
def blockNumber7 : Nat := 7
def blockHeaderAzimuth : Nat := 2
def unitNum : Nat := 64
def unitSize : Nat := 3
def blockSize : Nat := unitSize * unitNum + blockHeaderAzimuth
def reservedSize : Nat := 8
def packetTailSize : Nat := 26
def packetTailWithoutUdpseqSize : Nat := 22
def packetSize6 : Nat := headSize + blockSize * blockNumber6 + packetTailSize
def packetSize7 : Nat := headSize + blockSize * blockNumber7 + packetTailSize
def packetSize6WithoutUdpseq : Nat := headSize + blockSize * blockNumber6 + packetTailWithoutUdpseqSize
def packetSize7WithoutUdpseq : Nat := headSize + blockSize * blockNumber7 + packetTailWithoutUdpseqSize

end L64

namespace L20

def headSize : Nat := 8
def blockNumber : Nat := 20
def blockHeaderAzimuth : Nat := 2
def unitNum : Nat := 20
def unitSize : Nat := 3
def blockSize : Nat := unitSize * unitNum + blockHeaderAzimuth
def reservedSize : Nat := 8
def packetTailSize : Nat := 22
def packetSize : Nat := headSize + blockSize * blockNumber + packetTailSize

end L20

namespace QT

def headSize : Nat := 12
def blockNumber : Nat := 4
def blockHeaderAzimuth : Nat := 2
def unitNum : Nat := 64
def unitSize : Nat := 4
def blockSize : Nat := unitSize * unitNum + blockHeaderAzimuth
def reservedSize : Nat := 10
def packetTailSize : Nat := 28
def packetTailWithoutUdpseqSize : Nat := 24
def packetSize : Nat := headSize + blockSize * blockNumber + packetTailSize
def packetSizeWithoutUdpseq : Nat := headSize + blockSize * blockNumber + packetTailWithoutUdpseqSize

end QT

namespace XT

def headSize : Nat := 12
def blockNumber : Nat := 8
def blockHeaderAzimuth : Nat := 2
def unitNum : Nat := 32
def unitSize : Nat := 4
def blockSize : Nat := unitSize * unitNum + blockHeaderAzimuth
def reservedSize : Nat := 10
def echoSize : Nat := 1
def engineVelocity : Nat := 2
def utcSize : Nat := 6
def packetTailSize : Nat := 28
def packetSize : Nat := headSize + blockSize * blockNumber + packetTailSize
def xt16PacketSize : Nat := 568
def xtmPacketSize : Nat := 820

end XT

def gpsPacketSize : Nat := 512
def timestampSize : Nat := 4
def engineVelocitySize : Nat := 2
def echoSize : Nat := 1
def factorySize : Nat := 1

/-! ### Header and tail -/

/-- The fields of `struct tm` the parsers fill in; `tm_isdst` is 0. -/
structure CalendarTime where
  tmYear : Int
  tmMon : Int
  tmMday : Int
  tmHour : Int
  tmMin : Int
  tmSec : Int
  deriving DecidableEq, Repr

/-- Years are counted from 1900; a year byte from 100 on is taken back by 100. -/
def calendarTime (addtime : List Nat) : CalendarTime :=
  let byte (k : Nat) : Int := addtime.getD k 0
  let tmYear := byte 0 + 100
  { tmYear := if tmYear ≥ 200 then tmYear - 100 else tmYear
    tmMon := byte 1 - 1
    tmMday := byte 2
    tmHour := byte 3
    tmMin := byte 4
    tmSec := byte 5 }

/-- The C library's `mktime`, which depends on the time zone. -/
abbrev Mktime : Type := CalendarTime → Int

def parseHeader (layout : Layout) (recvbuf : Buffer) : Except Fault LidarHeader := do
  let b₀ ← recvbuf.read 0
  let b₁ ← recvbuf.read 1
  let chProtocolMajor ← if layout.hasProtocolVersion then recvbuf.read 2 else .ok 0
  let chProtocolMinor ← if layout.hasProtocolVersion then recvbuf.read 3 else .ok 0
  let chLaserNumber ← recvbuf.read layout.laserNumberAt
  let chBlockNumber ← recvbuf.read (layout.laserNumberAt + 1)
  let chReturnType ← recvbuf.read (layout.laserNumberAt + 2)
  let chDisUnit ← recvbuf.read (layout.laserNumberAt + 3)
  return {
    sob := b₀ <<< 8 ||| b₁
    chProtocolMajor, chProtocolMinor, chLaserNumber, chBlockNumber, chReturnType, chDisUnit }

/-- What the parsers read behind the blocks. -/
structure Tail where
  spinSpeed : Nat
  timestamp : Nat
  echo : Nat
  addtime : List Nat

def parseTime (recvbuf : Buffer) (index : Nat) : Except Fault (List Nat) := do
  let year ← recvbuf.read index
  let month ← recvbuf.read (index + 1)
  let day ← recvbuf.read (index + 2)
  let hour ← recvbuf.read (index + 3)
  let minute ← recvbuf.read (index + 4)
  let second ← recvbuf.read (index + 5)
  return [year, month, day, hour, minute, second]

/-- The tail of every format but XT. -/
def parseTail (layout : Layout) (recvbuf : Buffer) (index : Nat) : Except Fault Tail := do
  let index := index + layout.reservedSize
  let spinSpeed ← recvbuf.le16 index
  let index := index + engineVelocitySize
  let timestamp ← recvbuf.le32 index
  let index := index + timestampSize
  let echo ← recvbuf.read index
  let index := index + echoSize + factorySize
  let addtime ← parseTime recvbuf index
  return { spinSpeed, timestamp, echo, addtime }

/-- The XT tail: the echo byte comes first and the timestamp last. -/
def parseXTTail (layout : Layout) (recvbuf : Buffer) (index : Nat) : Except Fault Tail := do
  let index := index + layout.reservedSize
  let echo ← recvbuf.read index
  let index := index + XT.echoSize
  let spinSpeed ← recvbuf.le16 index
  let index := index + XT.engineVelocity
  let addtime ← parseTime recvbuf index
  let index := index + XT.utcSize
  let timestamp ← recvbuf.le32 index
  return { spinSpeed, timestamp, echo, addtime }

def assemble (mktime : Mktime) (header : LidarHeader) (blocks : List LidarBlock) (udpSequence : UInt32)
    (tail : Tail) : LidarPacket where
  header := header
  blocks := blocks
  timestamp := tail.timestamp
  udpSequence := udpSequence
  echo := tail.echo
  addtime := tail.addtime
  timestampPoint := mktime (calendarTime tail.addtime) + (tail.timestamp : ℚ) / 1000000
  spinSpeed := tail.spinSpeed

/-! ### The parsers -/

/-- The body `ParseL64Data`, `ParseL20Data` and `ParseQTData` share: the loops run as far as the header says. -/
def parseByHeader (layout : Layout) (mktime : Mktime) (recvbuf : Buffer) (len : Int) :
    Except Fault (Option LidarPacket) :=
  if len ∉ layout.sizes then .ok none
  else do
    let header ← parseHeader layout recvbuf
    if header.sob ≠ 0xEEFF then .ok none
    else do
      let (blocks, index) ← parseBlocks layout (millimetres header.chDisUnit) recvbuf header.chLaserNumber
        header.chBlockNumber 0 layout.headSize
      let tail ← parseTail layout recvbuf index
      return some (assemble mktime header blocks 0 tail)

def layout40P : Layout where
  sizes := [Pandar40P.packetSize, Pandar40P.packetSize + Pandar40P.seqNumSize]
  headSize := 0
  hasProtocolVersion := false
  laserNumberAt := 0
  blockNumber := Pandar40P.blocksPerPacket
  unitNum := Pandar40P.laserCount
  blockHeaderSize := Pandar40P.sobAngleSize
  azimuthAt := 2
  unitSize := Pandar40P.rawMeasureSize
  hasConfidence := false
  reservedSize := Pandar40P.reserveSize

def layoutL64 : Layout where
  sizes := [L64.packetSize6, L64.packetSize7, L64.packetSize6WithoutUdpseq, L64.packetSize7WithoutUdpseq, 1270]
  headSize := L64.headSize
  hasProtocolVersion := false
  laserNumberAt := 2
  blockNumber := L64.blockNumber7
  unitNum := L64.unitNum
  blockHeaderSize := L64.blockHeaderAzimuth
  azimuthAt := 0
  unitSize := L64.unitSize
  hasConfidence := false
  reservedSize := L64.reservedSize

def layoutL20 : Layout where
  sizes := [L20.packetSize]
  headSize := L20.headSize
  hasProtocolVersion := false
  laserNumberAt := 2
  blockNumber := L20.blockNumber
  unitNum := L20.unitNum
  blockHeaderSize := L20.blockHeaderAzimuth
  azimuthAt := 0
  unitSize := L20.unitSize
  hasConfidence := false
  reservedSize := L20.reservedSize

def layoutQT : Layout where
  sizes := [QT.packetSize, QT.packetSizeWithoutUdpseq]
  headSize := QT.headSize
  hasProtocolVersion := true
  laserNumberAt := 6
  blockNumber := QT.blockNumber
  unitNum := QT.unitNum
  blockHeaderSize := QT.blockHeaderAzimuth
  azimuthAt := 0
  unitSize := QT.unitSize
  hasConfidence := true
  reservedSize := QT.reservedSize

def layoutXT : Layout where
  sizes := [XT.packetSize, XT.xt16PacketSize, XT.xtmPacketSize]
  headSize := XT.headSize
  hasProtocolVersion := true
  laserNumberAt := 6
  blockNumber := XT.blockNumber
  unitNum := XT.unitNum
  blockHeaderSize := XT.blockHeaderAzimuth
  azimuthAt := 0
  unitSize := XT.unitSize
  hasConfidence := true
  reservedSize := XT.reservedSize

/-- The Pandar40P unit: four millimetres a step, and a filter for returns beyond 100 km. -/
def decode40PUnit : DecodeUnit := fun unRange intensity =>
  let distance : ℚ := unRange * (4 / 1000)
  if distance = 0x010101 ∧ intensity = 0x0101 ∨ distance > 200 * 1000 / 2 then (0, 0) else (distance, intensity)

/-- The Pandar40P packet has no header: its counts are constants. -/
def parseRawData (mktime : Mktime) (buf : Buffer) (len : Int) : Except Fault (Option LidarPacket) :=
  if len ∉ layout40P.sizes then .ok none
  else do
    let (blocks, index) ← parseBlocks layout40P decode40PUnit buf Pandar40P.laserCount Pandar40P.blocksPerPacket 0 0
    let tail ← parseTail layout40P buf index
    let header : LidarHeader := ⟨0, 0, 0, Pandar40P.laserCount, Pandar40P.blocksPerPacket, 0, 0⟩
    return some (assemble mktime header blocks 0 { tail with timestamp := tail.timestamp % 1000000 })

def parseL64Data : Mktime → Buffer → Int → Except Fault (Option LidarPacket) := parseByHeader layoutL64

def parseL20Data : Mktime → Buffer → Int → Except Fault (Option LidarPacket) := parseByHeader layoutL20

def parseQTData : Mktime → Buffer → Int → Except Fault (Option LidarPacket) := parseByHeader layoutQT

def kXt16PacketSize : Nat := 568
def kXtmPacketSize : Nat := 820
def kXt32PacketSize : Nat := 1080
def kXtSequenceSize : Nat := 4

def isSupportedXtPacketSize (size : Nat) : Bool :=
  size = kXt16PacketSize || size = kXtmPacketSize || size = kXt32PacketSize

def decodeXtUdpSequence (data : Buffer) (size : Nat) : Except Fault (Option UInt32) :=
  if ¬ isSupportedXtPacketSize size then .ok none
  else do
    let sequence ← data.le32 (size - kXtSequenceSize)
    return some (.ofNat sequence)

def parseXTData (mktime : Mktime) (recvbuf : Buffer) (len : Int) : Except Fault (Option LidarPacket) :=
  if len ∉ layoutXT.sizes then .ok none
  else do
    let header ← parseHeader layoutXT recvbuf
    if header.sob ≠ 0xEEFF then .ok none
    else
      let blockCount := header.chBlockNumber
      let laserCount := header.chLaserNumber
      let expectedSize := XT.headSize + blockCount * (XT.blockHeaderAzimuth + laserCount * XT.unitSize) +
        XT.packetTailSize
      if blockCount = 0 ∨ blockCount > XT.blockNumber ∨ laserCount = 0 ∨ laserCount > XT.unitNum ∨
          (expectedSize : Int) ≠ len then .ok none
      else do
        match ← decodeXtUdpSequence recvbuf len.toNat with
        | none => return none
        | some udpSequence =>
          let (blocks, index) ← parseBlocks layoutXT (millimetres header.chDisUnit) recvbuf laserCount blockCount 0
            layoutXT.headSize
          let tail ← parseXTTail layoutXT recvbuf index
          return some (assemble mktime header blocks udpSequence tail)

/-- A payload whose header sits in front: unit 4 mm, one azimuth for each block, and a return of about 4 m
wherever `hit` says so. Everything else is zero. -/
def Layout.payload (layout : Layout) (lasers blocks : Nat) (azimuth : Nat → Nat) (hit : (block unit : Nat) → Bool)
    (i : Nat) : UInt8 :=
  let blockSize := layout.blockHeaderSize + lasers * layout.unitSize
  let block := (i - layout.headSize) / blockSize
  let offset := (i - layout.headSize) % blockSize
  if i < 2 then if i = 0 then 0xEE else 0xFF
  else if i < layout.headSize then
    if i = layout.laserNumberAt then .ofNat lasers
    else if i = layout.laserNumberAt + 1 then .ofNat blocks
    else if i = layout.laserNumberAt + 3 then 4
    else 0
  else if blocks ≤ block then 0
  else if offset = layout.azimuthAt then .ofNat (azimuth block)
  else if offset = layout.azimuthAt + 1 then .ofNat (azimuth block / 256)
  else if offset < layout.blockHeaderSize then 0
  else if (offset - layout.blockHeaderSize) % layout.unitSize = 1 ∧
      hit block ((offset - layout.blockHeaderSize) / layout.unitSize) then 4
  else 0

/-! ### Header and tail when the buffer is long enough -/

variable {layout : Layout} {recvbuf : Buffer} {index : Nat}

def headerAt (layout : Layout) (bytes : Nat → UInt8) : LidarHeader where
  sob := (bytes 0).toNat <<< 8 ||| (bytes 1).toNat
  chProtocolMajor := if layout.hasProtocolVersion then (bytes 2).toNat else 0
  chProtocolMinor := if layout.hasProtocolVersion then (bytes 3).toNat else 0
  chLaserNumber := (bytes layout.laserNumberAt).toNat
  chBlockNumber := (bytes (layout.laserNumberAt + 1)).toNat
  chReturnType := (bytes (layout.laserNumberAt + 2)).toNat
  chDisUnit := (bytes (layout.laserNumberAt + 3)).toNat

variable (layout recvbuf) in
theorem parseHeader_ok (version : 4 ≤ recvbuf.extent) (inside : layout.laserNumberAt + 4 ≤ recvbuf.extent) :
    parseHeader layout recvbuf = .ok (headerAt layout recvbuf.bytes) := by
  unfold parseHeader headerAt
  rw [Buffer.read_ok (show 0 < _ by omega), Buffer.read_ok (show 1 < _ by omega), Buffer.read_ok (show 2 < _ by omega),
    Buffer.read_ok (show 3 < _ by omega), Buffer.read_ok (by omega), Buffer.read_ok (by omega),
    Buffer.read_ok (by omega), Buffer.read_ok (by omega)]
  cases layout.hasProtocolVersion <;> rfl

theorem parseTime_ok (inside : index + 6 ≤ recvbuf.extent) :
    parseTime recvbuf index = .ok ((Buffer.slice recvbuf.bytes index 6).map UInt8.toNat) := by
  unfold parseTime
  rw [Buffer.read_ok (by omega), Buffer.read_ok (by omega), Buffer.read_ok (by omega), Buffer.read_ok (by omega),
    Buffer.read_ok (by omega), Buffer.read_ok (by omega)]
  rfl

variable (layout recvbuf) in
theorem parseXTTail_ok (inside : index + layout.reservedSize + 13 ≤ recvbuf.extent) :
    parseXTTail layout recvbuf index = .ok
      { spinSpeed := ByteOrder.ofLE (Buffer.slice recvbuf.bytes (index + layout.reservedSize + 1) 2)
        timestamp := ByteOrder.ofLE (Buffer.slice recvbuf.bytes (index + layout.reservedSize + 9) 4)
        echo := (recvbuf.bytes (index + layout.reservedSize)).toNat
        addtime := (Buffer.slice recvbuf.bytes (index + layout.reservedSize + 3) 6).map UInt8.toNat } := by
  unfold parseXTTail XT.echoSize XT.engineVelocity XT.utcSize
  dsimp only
  rw [Buffer.read_ok (by omega), Except.ok_bind, Buffer.le16_ok (by omega), Except.ok_bind, parseTime_ok (by omega),
    Except.ok_bind, Buffer.le32_ok (by omega)]
  rfl

end HesaiLidar
