import HesaiLidar.Library.Memory
import HesaiLidar.Wire.HeaderCounts

/-!
# Payloads

What a sensor says in a payload, and the bytes it says it in. Each parser accepts exactly the payloads of its format
and reads what was said.
-/

namespace HesaiLidar

open Memory

variable {layout : Layout} {decode : DecodeUnit} {bytes : Nat → UInt8} {offset : Nat}

/-- Units and block headers leave no gaps. -/
structure Layout.Packed (layout : Layout) : Prop where
  unit : layout.unitSize = layout.unitReach
  block : layout.blockHeaderSize = layout.azimuthAt + 2

/-! ### Units -/

structure WireUnit where
  unRange : UInt16
  intensity : UInt8
  confidence : UInt8

def WireUnit.encode (layout : Layout) (unit : WireUnit) : List UInt8 :=
  ByteOrder.toLE 2 unit.unRange.toNat ++ unit.intensity :: if layout.hasConfidence then [unit.confidence] else []

def WireUnit.said (layout : Layout) (decode : DecodeUnit) (unit : WireUnit) : LidarUnit :=
  let (distance, intensity) := decode unit.unRange.toNat unit.intensity.toNat
  ⟨distance, intensity, if layout.hasConfidence then unit.confidence.toNat else 0⟩

/-- The unit that stands at an address. -/
def WireUnit.of (bytes : Nat → UInt8) (offset : Nat) : WireUnit :=
  ⟨.ofNat (number bytes offset 2), bytes (offset + 2), bytes (offset + 3)⟩

theorem WireUnit.encode_length (packed : layout.Packed) (unit : WireUnit) : (unit.encode layout).length = layout.unitSize := by
  rw [packed.unit, WireUnit.encode, List.length_append, ByteOrder.toLE_length, List.length_cons, Layout.unitReach]
  split <;> rfl

theorem WireUnit.unitAt_eq {unit : WireUnit} (holds : Holds bytes offset (unit.encode layout)) :
    layout.unitAt decode bytes offset = unit.said layout decode := by
  obtain ⟨range, rest⟩ := holds_append.mp holds
  rw [ByteOrder.toLE_length] at rest
  obtain ⟨intensity, confidence⟩ := holds_cons.mp rest
  have unRange := number_of_holds unit.unRange.toNat_lt range
  unfold Layout.unitAt WireUnit.said
  rw [show ByteOrder.ofLE (Buffer.slice bytes offset 2) = unit.unRange.toNat from unRange, intensity]
  dsimp only
  congr 1
  split
  · rename_i has
    rw [if_pos has] at confidence
    rw [(holds_cons.mp confidence).1]
  · rfl

theorem number_two_toNat (bytes : Nat → UInt8) (offset : Nat) :
    (UInt16.ofNat (number bytes offset 2)).toNat = number bytes offset 2 := by
  rw [UInt16.toNat_ofNat']
  exact Nat.mod_eq_of_lt (number_lt bytes offset 2)

theorem WireUnit.holds_of (bytes : Nat → UInt8) (offset : Nat) : Holds bytes offset ((WireUnit.of bytes offset).encode layout) := by
  unfold WireUnit.encode WireUnit.of
  rw [number_two_toNat]
  refine holds_append.mpr ⟨holds_number .., ?_⟩
  rw [ByteOrder.toLE_length]
  refine holds_cons.mpr ⟨rfl, ?_⟩
  split
  · exact holds_cons.mpr ⟨rfl, holds_nil⟩
  · exact holds_nil

/-! ### Blocks -/

/-- `flag` stands before the azimuth of a Pandar40P block. -/
structure WireBlock (layout : Layout) where
  flag : List UInt8
  azimuth : UInt16
  units : List WireUnit
  flagSize : flag.length = layout.azimuthAt

def WireBlock.encode (block : WireBlock layout) : List UInt8 :=
  block.flag ++ (ByteOrder.toLE 2 block.azimuth.toNat ++ block.units.flatMap (WireUnit.encode layout))

def WireBlock.said (decode : DecodeUnit) (block : WireBlock layout) : LidarBlock :=
  ⟨block.azimuth.toNat, block.units.map (WireUnit.said layout decode)⟩

def WireBlock.of (layout : Layout) (bytes : Nat → UInt8) (lasers offset : Nat) : WireBlock layout where
  flag := (List.range' offset layout.azimuthAt).map bytes
  azimuth := .ofNat (number bytes (offset + layout.azimuthAt) 2)
  units := (List.range lasers).map fun u => WireUnit.of bytes (offset + layout.blockHeaderSize + u * layout.unitSize)
  flagSize := by rw [List.length_map, List.length_range']

theorem WireBlock.encode_length (packed : layout.Packed) (block : WireBlock layout) :
    block.encode.length = layout.blockSize block.units.length := by
  have units : (block.units.flatMap (WireUnit.encode layout)).length = block.units.length * layout.unitSize :=
    length_flatMap fun unit _ => unit.encode_length packed
  rw [WireBlock.encode, List.length_append, List.length_append, ByteOrder.toLE_length, block.flagSize, units, Layout.blockSize,
    packed.block, Nat.add_assoc]

theorem WireBlock.blockAt_eq (packed : layout.Packed) {block : WireBlock layout} (holds : Holds bytes offset block.encode) :
    layout.blockAt decode bytes block.units.length offset = block.said decode := by
  obtain ⟨-, rest⟩ := holds_append.mp holds
  obtain ⟨azimuth, units⟩ := holds_append.mp rest
  rw [block.flagSize] at azimuth units
  rw [ByteOrder.toLE_length] at units
  have each := (holds_flatMap fun unit _ => unit.encode_length packed).mp units
  unfold Layout.blockAt WireBlock.said
  congr 1
  · exact number_of_holds block.azimuth.toNat_lt azimuth
  · refine List.ext_getElem (by simp) fun k bound bound' => ?_
    rw [List.length_map] at bound'
    rw [List.getElem_map, List.getElem_map, List.getElem_range, packed.block, ← Nat.add_assoc]
    exact WireUnit.unitAt_eq (each k bound')

theorem WireBlock.holds_of (packed : layout.Packed) (bytes : Nat → UInt8) (lasers offset : Nat) :
    Holds bytes offset (WireBlock.of layout bytes lasers offset).encode := by
  unfold WireBlock.encode
  refine holds_append.mpr ⟨holds_read .., ?_⟩
  rw [(WireBlock.of layout bytes lasers offset).flagSize]
  refine holds_append.mpr ⟨?_, ?_⟩
  · rw [WireBlock.of, number_two_toNat]
    exact holds_number ..
  · rw [ByteOrder.toLE_length]
    refine (holds_flatMap fun unit _ => unit.encode_length packed).mpr fun k bound => ?_
    have unit : (WireBlock.of layout bytes lasers offset).units[k] =
        WireUnit.of bytes (offset + layout.blockHeaderSize + k * layout.unitSize) := by
      simp only [WireBlock.of, List.getElem_map, List.getElem_range]
    rw [unit, packed.block, ← Nat.add_assoc]
    exact WireUnit.holds_of ..

/-! ### Bodies -/

/-- The blocks of a payload with their counts, which fit the arrays of a packet. -/
structure WireBody (layout : Layout) (counts : HeaderCounts) where
  blocks : List (WireBlock layout)
  blockNumber : blocks.length = counts.blockNumber
  laserNumber : ∀ block ∈ blocks, block.units.length = counts.laserNumber
  fit : counts.Fit layout

variable {counts : HeaderCounts}

def WireBody.encode (body : WireBody layout counts) : List UInt8 := body.blocks.flatMap WireBlock.encode

def WireBody.said (decode : DecodeUnit) (body : WireBody layout counts) : List LidarBlock :=
  body.blocks.map (WireBlock.said decode)

def WireBody.of (bytes : Nat → UInt8) (fit : counts.Fit layout) : WireBody layout counts where
  blocks := (List.range counts.blockNumber).map fun b =>
    WireBlock.of layout bytes counts.laserNumber (layout.headSize + b * layout.blockSize counts.laserNumber)
  blockNumber := by rw [List.length_map, List.length_range]
  laserNumber := by
    intro block member
    obtain ⟨b, -, rfl⟩ := List.mem_map.mp member
    unfold WireBlock.of
    rw [List.length_map, List.length_range]
  fit := fit

theorem WireBody.block_length (packed : layout.Packed) (body : WireBody layout counts) :
    ∀ block ∈ body.blocks, block.encode.length = layout.blockSize counts.laserNumber := fun block member => by
  rw [block.encode_length packed, body.laserNumber block member]

theorem WireBody.encode_length (packed : layout.Packed) (body : WireBody layout counts) :
    body.encode.length = counts.blockNumber * layout.blockSize counts.laserNumber := by
  rw [WireBody.encode, length_flatMap (body.block_length packed), body.blockNumber]

theorem WireBody.blocksAt_eq (packed : layout.Packed) {body : WireBody layout counts}
    (holds : Holds bytes layout.headSize body.encode) : layout.blocksAt decode bytes counts = body.said decode := by
  have each := (holds_flatMap (body.block_length packed)).mp holds
  refine List.ext_getElem (by simp [Layout.blocksAt, WireBody.said, body.blockNumber]) fun k bound bound' => ?_
  rw [WireBody.said, List.length_map] at bound'
  have lasers := body.laserNumber _ (List.getElem_mem bound')
  have place : (layout.blocksAt decode bytes counts)[k] = layout.blockAt decode bytes body.blocks[k].units.length
      (layout.headSize + k * layout.blockSize counts.laserNumber) := by
    simp only [Layout.blocksAt, List.getElem_map, List.getElem_range, lasers]
  have said : (body.said decode)[k] = body.blocks[k].said decode := by
    simp only [WireBody.said, List.getElem_map]
  rw [place, said]
  exact WireBlock.blockAt_eq packed (each k bound')

theorem WireBody.holds_of (packed : layout.Packed) (bytes : Nat → UInt8) (fit : counts.Fit layout) :
    Holds bytes layout.headSize (WireBody.of bytes fit).encode := by
  refine (holds_flatMap ((WireBody.of bytes fit).block_length packed)).mpr fun k bound => ?_
  have block : (WireBody.of bytes fit).blocks[k] =
      WireBlock.of layout bytes counts.laserNumber (layout.headSize + k * layout.blockSize counts.laserNumber) := by
    simp only [WireBody.of, List.getElem_map, List.getElem_range]
  rw [block]
  exact WireBlock.holds_of packed ..

/-! ### Headers -/

def Layout.versionEnd (layout : Layout) : Nat := if layout.hasProtocolVersion then 4 else 2

/-- `before` and `behind` are the header bytes on both sides of the counts. -/
structure WireHead (layout : Layout) where
  chProtocolMajor : UInt8
  chProtocolMinor : UInt8
  before : List UInt8
  chLaserNumber : UInt8
  chBlockNumber : UInt8
  chReturnType : UInt8
  chDisUnit : UInt8
  behind : List UInt8
  beforeSize : layout.versionEnd + before.length = layout.laserNumberAt
  behindSize : layout.laserNumberAt + 4 + behind.length = layout.headSize

def WireHead.version (head : WireHead layout) : List UInt8 :=
  if layout.hasProtocolVersion then [head.chProtocolMajor, head.chProtocolMinor] else []

def WireHead.fields (head : WireHead layout) : List UInt8 :=
  [head.chLaserNumber, head.chBlockNumber, head.chReturnType, head.chDisUnit]

def WireHead.encode (head : WireHead layout) : List UInt8 :=
  [0xEE, 0xFF] ++ (head.version ++ (head.before ++ (head.fields ++ head.behind)))

def WireHead.declared (head : WireHead layout) : HeaderCounts := ⟨head.chLaserNumber.toNat, head.chBlockNumber.toNat⟩

def WireHead.said (head : WireHead layout) : LidarHeader where
  sob := 0xEEFF
  chProtocolMajor := if layout.hasProtocolVersion then head.chProtocolMajor.toNat else 0
  chProtocolMinor := if layout.hasProtocolVersion then head.chProtocolMinor.toNat else 0
  chLaserNumber := head.chLaserNumber.toNat
  chBlockNumber := head.chBlockNumber.toNat
  chReturnType := head.chReturnType.toNat
  chDisUnit := head.chDisUnit.toNat

/-- Where a layout has its header. -/
structure Layout.Headed (layout : Layout) : Prop where
  before : layout.versionEnd ≤ layout.laserNumberAt
  behind : layout.laserNumberAt + 4 ≤ layout.headSize

def WireHead.of (bytes : Nat → UInt8) (headed : layout.Headed) : WireHead layout where
  chProtocolMajor := bytes 2
  chProtocolMinor := bytes 3
  before := (List.range' layout.versionEnd (layout.laserNumberAt - layout.versionEnd)).map bytes
  chLaserNumber := bytes layout.laserNumberAt
  chBlockNumber := bytes (layout.laserNumberAt + 1)
  chReturnType := bytes (layout.laserNumberAt + 2)
  chDisUnit := bytes (layout.laserNumberAt + 3)
  behind := (List.range' (layout.laserNumberAt + 4) (layout.headSize - (layout.laserNumberAt + 4))).map bytes
  beforeSize := by rw [List.length_map, List.length_range', Nat.add_sub_cancel' headed.before]
  behindSize := by rw [List.length_map, List.length_range', Nat.add_sub_cancel' headed.behind]

theorem WireHead.version_length (head : WireHead layout) : 2 + head.version.length = layout.versionEnd := by
  unfold WireHead.version Layout.versionEnd
  split <;> rfl

theorem WireHead.encode_length (head : WireHead layout) : head.encode.length = layout.headSize := by
  have version := head.version_length
  have before := head.beforeSize
  have behind := head.behindSize
  simp only [WireHead.encode, WireHead.fields, List.length_append, List.length_cons, List.length_nil]
  omega

theorem WireHead.holds_iff {head : WireHead layout} :
    Holds bytes 0 head.encode ↔ HasMagic bytes ∧ Holds bytes 2 head.version ∧ Holds bytes layout.versionEnd head.before ∧
      Holds bytes layout.laserNumberAt head.fields ∧ Holds bytes (layout.laserNumberAt + 4) head.behind := by
  unfold WireHead.encode
  rw [holds_append, holds_append, holds_append, holds_append, show ([0xEE, 0xFF] : List UInt8).length = 2 from rfl, Nat.zero_add,
    head.version_length, head.beforeSize, show head.fields.length = 4 from rfl, holds_cons, holds_cons]
  exact and_congr_left fun _ => ⟨fun ⟨first, second, _⟩ => ⟨first, second⟩, fun ⟨first, second⟩ => ⟨first, second, holds_nil⟩⟩

theorem WireHead.headerAt_eq {head : WireHead layout} (holds : Holds bytes 0 head.encode) :
    headerAt layout bytes = head.said := by
  obtain ⟨⟨first, second⟩, version, -, fields, -⟩ := WireHead.holds_iff.mp holds
  obtain ⟨lasers, fields⟩ := holds_cons.mp fields
  obtain ⟨blocks, fields⟩ := holds_cons.mp fields
  obtain ⟨returns, fields⟩ := holds_cons.mp fields
  obtain ⟨distance, -⟩ := holds_cons.mp fields
  unfold headerAt WireHead.said
  rw [first, second, lasers, blocks, returns, distance]
  unfold WireHead.version at version
  by_cases has : layout.hasProtocolVersion
  · rw [if_pos has] at version
    obtain ⟨major, rest⟩ := holds_cons.mp version
    obtain ⟨minor, -⟩ := holds_cons.mp rest
    rw [major, minor]
    rfl
  · simp only [has]
    rfl

theorem WireHead.holds_of (headed : layout.Headed) (magic : HasMagic bytes) : Holds bytes 0 (WireHead.of bytes headed).encode := by
  refine WireHead.holds_iff.mpr ⟨magic, ?_, holds_read .., ?_, holds_read ..⟩
  · unfold WireHead.version
    split
    · exact holds_cons.mpr ⟨rfl, holds_cons.mpr ⟨rfl, holds_nil⟩⟩
    · exact holds_nil
  · exact holds_cons.mpr ⟨rfl, holds_cons.mpr ⟨rfl, holds_cons.mpr ⟨rfl, holds_cons.mpr ⟨rfl, holds_nil⟩⟩⟩⟩

/-! ### Tails -/

structure WireTail (layout : Layout) where
  reserved : List UInt8
  spinSpeed : UInt16
  timestamp : UInt32
  echo : UInt8
  factory : UInt8
  addtime : List UInt8
  reservedSize : reserved.length = layout.reservedSize
  addtimeSize : addtime.length = 6

def WireTail.encode (tail : WireTail layout) : List UInt8 :=
  tail.reserved ++ (ByteOrder.toLE 2 tail.spinSpeed.toNat ++ (ByteOrder.toLE 4 tail.timestamp.toNat ++
    tail.echo :: tail.factory :: tail.addtime))

/-- An XT sensor sends the fields in another order. -/
def WireTail.encodeXT (tail : WireTail layout) : List UInt8 :=
  tail.reserved ++ tail.echo :: (ByteOrder.toLE 2 tail.spinSpeed.toNat ++ (tail.addtime ++
    (ByteOrder.toLE 4 tail.timestamp.toNat ++ [tail.factory])))

def WireTail.said (tail : WireTail layout) : Tail where
  spinSpeed := tail.spinSpeed.toNat
  timestamp := tail.timestamp.toNat
  echo := tail.echo.toNat
  addtime := tail.addtime.map UInt8.toNat

def WireTail.of (layout : Layout) (bytes : Nat → UInt8) (index : Nat) : WireTail layout where
  reserved := (List.range' index layout.reservedSize).map bytes
  spinSpeed := .ofNat (number bytes (index + layout.reservedSize) 2)
  timestamp := .ofNat (number bytes (index + layout.reservedSize + 2) 4)
  echo := bytes (index + layout.reservedSize + 2 + 4)
  factory := bytes (index + layout.reservedSize + 2 + 4 + 1)
  addtime := (List.range' (index + layout.reservedSize + 2 + 4 + 1 + 1) 6).map bytes
  reservedSize := by rw [List.length_map, List.length_range']
  addtimeSize := rfl

def WireTail.ofXT (layout : Layout) (bytes : Nat → UInt8) (index : Nat) : WireTail layout where
  reserved := (List.range' index layout.reservedSize).map bytes
  echo := bytes (index + layout.reservedSize)
  spinSpeed := .ofNat (number bytes (index + layout.reservedSize + 1) 2)
  addtime := (List.range' (index + layout.reservedSize + 1 + 2) 6).map bytes
  timestamp := .ofNat (number bytes (index + layout.reservedSize + 1 + 2 + 6) 4)
  factory := bytes (index + layout.reservedSize + 1 + 2 + 6 + 4)
  reservedSize := by rw [List.length_map, List.length_range']
  addtimeSize := rfl

variable {recvbuf : Buffer} {index : Nat}

theorem slice_of_holds {cells : List UInt8} {n : Nat} (length : cells.length = n) (holds : Holds bytes offset cells) :
    Buffer.slice bytes offset n = cells := by
  unfold Holds at holds
  rwa [length] at holds

theorem WireTail.encodeXT_length (tail : WireTail layout) : tail.encodeXT.length = layout.reservedSize + 14 := by
  simp only [WireTail.encodeXT, List.length_append, ByteOrder.toLE_length, List.length_cons, List.length_nil,
    tail.reservedSize, tail.addtimeSize]

theorem WireTail.parseTail_eq {tail : WireTail layout} (holds : Holds recvbuf.bytes index tail.encode)
    (inside : index + layout.reservedSize + 14 ≤ recvbuf.extent) : parseTail layout recvbuf index = .ok tail.said := by
  obtain ⟨-, rest⟩ := holds_append.mp holds
  obtain ⟨spin, rest⟩ := holds_append.mp rest
  obtain ⟨micros, rest⟩ := holds_append.mp rest
  obtain ⟨echo, rest⟩ := holds_cons.mp rest
  obtain ⟨-, time⟩ := holds_cons.mp rest
  rw [tail.reservedSize] at spin micros echo time
  rw [ByteOrder.toLE_length] at micros echo time
  rw [ByteOrder.toLE_length] at echo time
  have spinSpeed := number_of_holds tail.spinSpeed.toNat_lt spin
  have timestamp := number_of_holds tail.timestamp.toNat_lt micros
  unfold parseTail engineVelocitySize timestampSize echoSize factorySize
  dsimp only
  rw [Buffer.le16_ok (by omega), Except.ok_bind, Buffer.le32_ok (by omega), Except.ok_bind, Buffer.read_ok (by omega),
    Except.ok_bind, parseTime_ok (by omega), Except.ok_bind, echo,
    show ByteOrder.ofLE (Buffer.slice recvbuf.bytes (index + layout.reservedSize) 2) = _ from spinSpeed,
    show ByteOrder.ofLE (Buffer.slice recvbuf.bytes (index + layout.reservedSize + 2) 4) = _ from timestamp,
    slice_of_holds tail.addtimeSize time]
  rfl

theorem WireTail.parseXTTail_eq {tail : WireTail layout} (holds : Holds recvbuf.bytes index tail.encodeXT)
    (inside : index + layout.reservedSize + 13 ≤ recvbuf.extent) : parseXTTail layout recvbuf index = .ok tail.said := by
  obtain ⟨-, rest⟩ := holds_append.mp holds
  obtain ⟨echo, rest⟩ := holds_cons.mp rest
  obtain ⟨spin, rest⟩ := holds_append.mp rest
  obtain ⟨time, rest⟩ := holds_append.mp rest
  obtain ⟨micros, -⟩ := holds_append.mp rest
  rw [tail.reservedSize] at echo spin time micros
  rw [ByteOrder.toLE_length, tail.addtimeSize] at micros
  rw [ByteOrder.toLE_length] at time
  have spinSpeed := number_of_holds tail.spinSpeed.toNat_lt spin
  have timestamp := number_of_holds tail.timestamp.toNat_lt micros
  have addtime : Buffer.slice recvbuf.bytes (index + layout.reservedSize + 3) 6 = tail.addtime :=
    slice_of_holds tail.addtimeSize time
  rw [parseXTTail_ok layout recvbuf inside, echo, addtime,
    show ByteOrder.ofLE (Buffer.slice recvbuf.bytes (index + layout.reservedSize + 1) 2) = _ from spinSpeed,
    show ByteOrder.ofLE (Buffer.slice recvbuf.bytes (index + layout.reservedSize + 9) 4) = _ from timestamp]
  rfl

theorem number_four_toNat (bytes : Nat → UInt8) (offset : Nat) :
    (UInt32.ofNat (number bytes offset 4)).toNat = number bytes offset 4 := by
  rw [UInt32.toNat_ofNat']
  exact Nat.mod_eq_of_lt (number_lt bytes offset 4)

theorem WireTail.holds_of (bytes : Nat → UInt8) (index : Nat) : Holds bytes index (WireTail.of layout bytes index).encode := by
  unfold WireTail.encode
  refine holds_append.mpr ⟨holds_read .., ?_⟩
  rw [(WireTail.of layout bytes index).reservedSize]
  refine holds_append.mpr ⟨?_, holds_append.mpr ⟨?_, ?_⟩⟩
  · rw [WireTail.of, number_two_toNat]
    exact holds_number ..
  · rw [ByteOrder.toLE_length, WireTail.of, number_four_toNat]
    exact holds_number ..
  · rw [ByteOrder.toLE_length, ByteOrder.toLE_length]
    exact holds_cons.mpr ⟨rfl, holds_cons.mpr ⟨rfl, holds_read ..⟩⟩

theorem WireTail.holds_ofXT (bytes : Nat → UInt8) (index : Nat) :
    Holds bytes index (WireTail.ofXT layout bytes index).encodeXT := by
  unfold WireTail.encodeXT
  refine holds_append.mpr ⟨holds_read .., ?_⟩
  rw [(WireTail.ofXT layout bytes index).reservedSize]
  refine holds_cons.mpr ⟨rfl, holds_append.mpr ⟨?_, holds_append.mpr ⟨?_, holds_append.mpr ⟨?_, ?_⟩⟩⟩⟩
  · rw [WireTail.ofXT, number_two_toNat]
    exact holds_number ..
  · rw [ByteOrder.toLE_length]
    exact holds_read ..
  · rw [ByteOrder.toLE_length, (WireTail.ofXT layout bytes index).addtimeSize, WireTail.ofXT, number_four_toNat]
    exact holds_number ..
  · rw [ByteOrder.toLE_length, ByteOrder.toLE_length, (WireTail.ofXT layout bytes index).addtimeSize]
    exact holds_cons.mpr ⟨rfl, holds_nil⟩

/-! ### What the parsers accept -/

variable {mktime : Mktime} {len : Int} {packet : LidarPacket}

/-- A payload whose header says the counts, of an L64, L20 or QT sensor. -/
structure HeaderPayload (layout : Layout) where
  head : WireHead layout
  body : WireBody layout head.declared
  tail : WireTail layout

def HeaderPayload.encode (payload : HeaderPayload layout) : List UInt8 :=
  payload.head.encode ++ (payload.body.encode ++ payload.tail.encode)

def HeaderPayload.said (mktime : Mktime) (payload : HeaderPayload layout) : LidarPacket :=
  assemble mktime payload.head.said (payload.body.said (millimetres payload.head.chDisUnit.toNat)) 0 payload.tail.said

theorem HeaderPayload.parseByHeader_eq {payload : HeaderPayload layout} (packed : layout.Packed)
    (sound : layout.Sound recvbuf.extent) (size : len ∈ layout.sizes) (holds : Holds recvbuf.bytes 0 payload.encode) :
    parseByHeader layout mktime recvbuf len = .ok (some (payload.said mktime)) := by
  obtain ⟨head, rest⟩ := holds_append.mp holds
  rw [payload.head.encode_length, Nat.zero_add] at rest
  obtain ⟨body, tail⟩ := holds_append.mp rest
  rw [payload.body.encode_length packed] at tail
  have blocks : parseBlocks layout (millimetres payload.head.chDisUnit.toNat) recvbuf payload.head.declared.laserNumber
      payload.head.declared.blockNumber 0 layout.headSize = _ := parseBlocks_of_fit payload.body.fit sound
  rw [WireBody.blocksAt_eq packed body] at blocks
  unfold parseByHeader
  rw [if_neg (not_not_intro size), parseHeader_ok layout recvbuf sound.header.1 sound.header.2, Except.ok_bind,
    WireHead.headerAt_eq head, if_neg (not_not_intro (show payload.head.said.sob = 0xEEFF from rfl))]
  refine Eq.trans (congrArg (· >>= _) blocks) ?_
  rw [Except.ok_bind]
  dsimp only
  rw [WireTail.parseTail_eq tail (payload.body.fit.inside sound)]
  rfl

variable (recvbuf) in
/-- The parsers that read their counts from the header accept exactly the payloads of their layout. -/
theorem parseByHeader_iff (packed : layout.Packed) (headed : layout.Headed) (sound : layout.Sound recvbuf.extent) :
    parseByHeader layout mktime recvbuf len = .ok (some packet) ↔
      len ∈ layout.sizes ∧ ∃ payload : HeaderPayload layout, Holds recvbuf.bytes 0 payload.encode ∧
        payload.said mktime = packet := by
  constructor
  · intro parsed
    have size : len ∈ layout.sizes := by
      by_contra wrong
      rw [parseByHeader, if_pos wrong] at parsed
      cases parsed
    have magic : HasMagic recvbuf.bytes := by
      by_contra noMagic
      rw [parseByHeader_rejects size sound noMagic] at parsed
      cases parsed
    have fit : (headerCounts layout recvbuf.bytes).Fit layout := by
      by_contra tooLarge
      obtain ⟨fault, failed⟩ := (parseByHeader_parsesBy recvbuf size sound magic).outside tooLarge
      rw [failed] at parsed
      cases parsed
    let head := WireHead.of recvbuf.bytes headed
    let body : WireBody layout head.declared := WireBody.of recvbuf.bytes fit
    let tail := WireTail.of layout recvbuf.bytes (layout.headSize + body.encode.length)
    have holds : Holds recvbuf.bytes 0 (HeaderPayload.mk head body tail).encode := by
      refine holds_append.mpr ⟨WireHead.holds_of headed magic, ?_⟩
      rw [head.encode_length, Nat.zero_add]
      exact holds_append.mpr ⟨WireBody.holds_of packed recvbuf.bytes fit, WireTail.holds_of ..⟩
    refine ⟨size, ⟨head, body, tail⟩, holds, ?_⟩
    rw [HeaderPayload.parseByHeader_eq packed sound size holds] at parsed
    exact Option.some.inj (Except.ok.inj parsed)
  · rintro ⟨size, payload, holds, rfl⟩
    exact HeaderPayload.parseByHeader_eq packed sound size holds

/-- A Pandar40P payload: no header, and always the same counts. -/
structure Payload40P where
  body : WireBody layout40P ⟨Pandar40P.laserCount, Pandar40P.blocksPerPacket⟩
  tail : WireTail layout40P

def Payload40P.encode (payload : Payload40P) : List UInt8 := payload.body.encode ++ payload.tail.encode

def Payload40P.said (mktime : Mktime) (payload : Payload40P) : LidarPacket :=
  assemble mktime ⟨0, 0, 0, Pandar40P.laserCount, Pandar40P.blocksPerPacket, 0, 0⟩ (payload.body.said decode40PUnit) 0
    { payload.tail.said with timestamp := payload.tail.said.timestamp % 1000000 }

theorem packed40P : layout40P.Packed := ⟨rfl, rfl⟩

theorem Payload40P.parseRawData_eq {payload : Payload40P} (sound : layout40P.Sound recvbuf.extent)
    (size : len ∈ layout40P.sizes) (holds : Holds recvbuf.bytes 0 payload.encode) :
    parseRawData mktime recvbuf len = .ok (some (payload.said mktime)) := by
  obtain ⟨body, tail⟩ := holds_append.mp holds
  rw [payload.body.encode_length packed40P] at tail
  have blocks : parseBlocks layout40P decode40PUnit recvbuf Pandar40P.laserCount Pandar40P.blocksPerPacket 0 0 = _ :=
    parseBlocks_of_fit payload.body.fit sound
  rw [WireBody.blocksAt_eq packed40P body] at blocks
  have fields : parseTail layout40P recvbuf
      (layout40P.headSize + Pandar40P.blocksPerPacket * layout40P.blockSize Pandar40P.laserCount) = .ok payload.tail.said :=
    WireTail.parseTail_eq tail (payload.body.fit.inside sound)
  unfold parseRawData
  rw [if_neg (not_not_intro size), blocks, Except.ok_bind]
  dsimp only
  rw [fields]
  rfl

variable (recvbuf) in
theorem parseRawData_iff (sound : layout40P.Sound recvbuf.extent) :
    parseRawData mktime recvbuf len = .ok (some packet) ↔
      len ∈ layout40P.sizes ∧ ∃ payload : Payload40P, Holds recvbuf.bytes 0 payload.encode ∧ payload.said mktime = packet := by
  constructor
  · intro parsed
    have size : len ∈ layout40P.sizes := by
      by_contra wrong
      rw [parseRawData, if_pos wrong] at parsed
      cases parsed
    let body : WireBody layout40P ⟨Pandar40P.laserCount, Pandar40P.blocksPerPacket⟩ :=
      WireBody.of recvbuf.bytes (.inr ⟨Nat.le_refl _, Nat.le_refl _⟩)
    let tail := WireTail.of layout40P recvbuf.bytes (0 + body.encode.length)
    have holds : Holds recvbuf.bytes 0 (Payload40P.mk body tail).encode :=
      holds_append.mpr ⟨WireBody.holds_of packed40P recvbuf.bytes _, WireTail.holds_of ..⟩
    refine ⟨size, ⟨body, tail⟩, holds, ?_⟩
    rw [Payload40P.parseRawData_eq sound size holds] at parsed
    exact Option.some.inj (Except.ok.inj parsed)
  · rintro ⟨size, payload, holds, rfl⟩
    exact Payload40P.parseRawData_eq sound size holds

/-- An XT payload has blocks and lasers, and ends with the number of the packet. -/
structure XtPayload where
  head : WireHead layoutXT
  body : WireBody layoutXT head.declared
  tail : WireTail layoutXT
  udpSequence : UInt32
  blocks : 1 ≤ head.declared.blockNumber
  lasers : 1 ≤ head.declared.laserNumber

def XtPayload.encode (payload : XtPayload) : List UInt8 :=
  payload.head.encode ++ (payload.body.encode ++ (payload.tail.encodeXT ++ ByteOrder.toLE 4 payload.udpSequence.toNat))

def XtPayload.said (mktime : Mktime) (payload : XtPayload) : LidarPacket :=
  assemble mktime payload.head.said (payload.body.said (millimetres payload.head.chDisUnit.toNat)) payload.udpSequence
    payload.tail.said

theorem packedXT : layoutXT.Packed := ⟨rfl, rfl⟩

theorem headedXT : layoutXT.Headed := ⟨by decide, by decide⟩

theorem XtPayload.encode_length (payload : XtPayload) : payload.encode.length =
    12 + payload.head.declared.blockNumber * layoutXT.blockSize payload.head.declared.laserNumber + 28 := by
  simp only [XtPayload.encode, List.length_append, payload.head.encode_length, payload.body.encode_length packedXT,
    payload.tail.encodeXT_length, ByteOrder.toLE_length, show layoutXT.headSize = 12 from rfl,
    show layoutXT.reservedSize = 10 from rfl]
  omega

theorem XtPayload.counts_of_holds {payload : XtPayload} (holds : Holds bytes 0 payload.encode) :
    XtFormat.laserNumber bytes = payload.head.declared.laserNumber ∧
      XtFormat.blockNumber bytes = payload.head.declared.blockNumber := by
  obtain ⟨head, -⟩ := holds_append.mp holds
  have header := WireHead.headerAt_eq head
  exact ⟨congrArg LidarHeader.chLaserNumber header, congrArg LidarHeader.chBlockNumber header⟩

theorem XtPayload.wellFormed {payload : XtPayload} (size : len ∈ layoutXT.sizes) (length : (payload.encode.length : Int) = len)
    (holds : Holds bytes 0 payload.encode) : XtFormat.WellFormed bytes len := by
  obtain ⟨lasers, blocks⟩ := XtPayload.counts_of_holds holds
  obtain ⟨head, -⟩ := holds_append.mp holds
  have fit := payload.body.fit.resolve_left (Nat.ne_of_gt payload.blocks)
  refine ⟨XtFormat.sizes_iff.mp size, (WireHead.holds_iff.mp head).1, ?_, ?_, ?_⟩
  · rw [blocks]
    exact ⟨payload.blocks, fit.1⟩
  · rw [lasers]
    exact ⟨payload.lasers, fit.2⟩
  · rw [← length, payload.encode_length, lasers, blocks, Layout.blockSize, show layoutXT.blockHeaderSize = 2 from rfl,
      show layoutXT.unitSize = 4 from rfl, Nat.mul_comm 4]

theorem XtPayload.parseXTData_eq {payload : XtPayload} (size : len ∈ layoutXT.sizes)
    (length : (payload.encode.length : Int) = len) (covered : len.toNat ≤ recvbuf.extent)
    (holds : Holds recvbuf.bytes 0 payload.encode) :
    parseXTData mktime recvbuf len = .ok (some (payload.said mktime)) := by
  obtain ⟨lasers, blocks⟩ := XtPayload.counts_of_holds holds
  have total := payload.encode_length
  rw [XtFormat.parse_of_wellFormed (XtPayload.wellFormed size length holds) covered]
  obtain ⟨head, rest⟩ := holds_append.mp holds
  rw [payload.head.encode_length, Nat.zero_add] at rest
  obtain ⟨body, rest⟩ := holds_append.mp rest
  rw [payload.body.encode_length packedXT] at rest
  obtain ⟨tail, sequence⟩ := holds_append.mp rest
  rw [payload.tail.encodeXT_length] at sequence
  have header := WireHead.headerAt_eq head
  have disUnit : (recvbuf.bytes 9).toNat = payload.head.chDisUnit.toNat := congrArg LidarHeader.chDisUnit header
  have units : layoutXT.blocksAt (millimetres (recvbuf.bytes 9).toNat) recvbuf.bytes payload.head.declared =
      payload.body.said (millimetres payload.head.chDisUnit.toNat) := by
    rw [disUnit]
    exact WireBody.blocksAt_eq packedXT body
  -- The parser counts from the end what the payload lists from the front.
  generalize place : 12 + payload.head.declared.blockNumber * layoutXT.blockSize payload.head.declared.laserNumber = index
    at total
  have inside : index + layoutXT.reservedSize + 13 ≤ recvbuf.extent := by
    show index + 10 + 13 ≤ _
    omega
  have fields : Except.ok payload.tail.said = Except.ok _ :=
    (WireTail.parseXTTail_eq (place ▸ tail) inside).symm.trans (parseXTTail_ok layoutXT recvbuf inside)
  have number : XtFormat.number recvbuf.bytes (index + 24) 4 = payload.udpSequence.toNat :=
    number_of_holds payload.udpSequence.toNat_lt (place ▸ sequence)
  have reserved : layoutXT.reservedSize = 10 := rfl
  unfold XtFormat.packetAt XtPayload.said
  rw [header, lasers, blocks, show len.toNat - 4 = index + 24 by omega, number, UInt32.ofNat_toNat, ← units,
    Except.ok.inj fields, show len.toNat - 18 = index + layoutXT.reservedSize by omega,
    show len.toNat - 17 = index + layoutXT.reservedSize + 1 by omega,
    show len.toNat - 15 = index + layoutXT.reservedSize + 3 by omega,
    show len.toNat - 9 = index + layoutXT.reservedSize + 9 by omega]
  rfl

variable (recvbuf) in
/-- `ParseXTData` also wants the header counts to add up to the length of the payload. -/
theorem parseXTData_iff (covered : len.toNat ≤ recvbuf.extent) :
    parseXTData mktime recvbuf len = .ok (some packet) ↔
      len ∈ layoutXT.sizes ∧ ∃ payload : XtPayload, (payload.encode.length : Int) = len ∧
        Holds recvbuf.bytes 0 payload.encode ∧ payload.said mktime = packet := by
  constructor
  · intro parsed
    have wellFormed : XtFormat.WellFormed recvbuf.bytes len := by
      by_contra malformed
      rw [XtFormat.parse_of_malformed malformed covered] at parsed
      cases parsed
    have size := XtFormat.sizes_iff.mpr wellFormed.size
    let head := WireHead.of recvbuf.bytes headedXT
    let body : WireBody layoutXT head.declared := WireBody.of recvbuf.bytes (.inr ⟨wellFormed.blocks.2, wellFormed.lasers.2⟩)
    let tail := WireTail.ofXT layoutXT recvbuf.bytes (layoutXT.headSize + body.encode.length)
    let sequence := number recvbuf.bytes (layoutXT.headSize + body.encode.length + tail.encodeXT.length) 4
    let payload : XtPayload := ⟨head, body, tail, .ofNat sequence, wellFormed.blocks.1, wellFormed.lasers.1⟩
    have holds : Holds recvbuf.bytes 0 payload.encode := by
      refine holds_append.mpr ⟨WireHead.holds_of headedXT wellFormed.magic, ?_⟩
      rw [payload.head.encode_length, Nat.zero_add]
      refine holds_append.mpr ⟨WireBody.holds_of packedXT recvbuf.bytes _, holds_append.mpr ⟨WireTail.holds_ofXT .., ?_⟩⟩
      rw [show payload.udpSequence.toNat = sequence from number_four_toNat ..]
      exact holds_number ..
    have length : (payload.encode.length : Int) = len := by
      have total := wellFormed.total
      rw [Nat.mul_comm 4] at total
      rw [payload.encode_length]
      exact total
    refine ⟨size, payload, length, holds, ?_⟩
    rw [XtPayload.parseXTData_eq size length covered holds] at parsed
    exact Option.some.inj (Except.ok.inj parsed)
  · rintro ⟨size, payload, length, holds, rfl⟩
    exact XtPayload.parseXTData_eq size length covered holds

end HesaiLidar
