import HesaiLidar.Wire.Parsers
import Mathlib.Tactic.IntervalCases

/-!
# The XT wire format

What an XT packet is, stated on its bytes alone, and that `ParseXTData` accepts exactly these packets
and takes every field from its place.
-/

namespace HesaiLidar.XtFormat

def number (bytes : Nat → UInt8) (offset width : Nat) : Nat := ByteOrder.ofLE (Buffer.slice bytes offset width)

def laserNumber (bytes : Nat → UInt8) : Nat := (bytes 6).toNat

def blockNumber (bytes : Nat → UInt8) : Nat := (bytes 7).toNat

def blockOffset (bytes : Nat → UInt8) (b : Nat) : Nat := 12 + b * (2 + 4 * laserNumber bytes)

structure WellFormed (bytes : Nat → UInt8) (len : Int) : Prop where
  size : len = 568 ∨ len = 820 ∨ len = 1080
  magic : bytes 0 = 0xEE ∧ bytes 1 = 0xFF
  blocks : 1 ≤ blockNumber bytes ∧ blockNumber bytes ≤ 8
  lasers : 1 ≤ laserNumber bytes ∧ laserNumber bytes ≤ 32
  total : ((12 + blockNumber bytes * (2 + 4 * laserNumber bytes) + 28 : Nat) : Int) = len

theorem wellFormed_iff {bytes : Nat → UInt8} {len : Int} :
    WellFormed bytes len ↔
      (len = 568 ∨ len = 820 ∨ len = 1080) ∧ (bytes 0 = 0xEE ∧ bytes 1 = 0xFF) ∧
        (1 ≤ blockNumber bytes ∧ blockNumber bytes ≤ 8) ∧ (1 ≤ laserNumber bytes ∧ laserNumber bytes ≤ 32) ∧
        ((12 + blockNumber bytes * (2 + 4 * laserNumber bytes) + 28 : Nat) : Int) = len :=
  ⟨fun ⟨size, magic, blocks, lasers, total⟩ => ⟨size, magic, blocks, lasers, total⟩,
    fun ⟨size, magic, blocks, lasers, total⟩ => ⟨size, magic, blocks, lasers, total⟩⟩

instance (bytes : Nat → UInt8) (len : Int) : Decidable (WellFormed bytes len) := decidable_of_iff' _ wellFormed_iff

/-- The packet holds what stands in the bytes. -/
structure Decodes (mktime : Mktime) (bytes : Nat → UInt8) (len : Nat) (packet : LidarPacket) : Prop where
  version : packet.header.chProtocolMajor = (bytes 2).toNat ∧ packet.header.chProtocolMinor = (bytes 3).toNat
  laserNumber : packet.header.chLaserNumber = laserNumber bytes
  blockNumber : packet.header.chBlockNumber = blockNumber bytes
  returnType : packet.header.chReturnType = (bytes 8).toNat
  disUnit : packet.header.chDisUnit = (bytes 9).toNat
  blockCount : packet.blocks.length = XtFormat.blockNumber bytes
  azimuth : ∀ b (bound : b < packet.blocks.length),
    packet.blocks[b].azimuth = number bytes (blockOffset bytes b) 2
  unitCount : ∀ b (bound : b < packet.blocks.length), packet.blocks[b].units.length = XtFormat.laserNumber bytes
  unit : ∀ b (bound : b < packet.blocks.length) u (lasers : u < packet.blocks[b].units.length),
    packet.blocks[b].units[u] =
      { distance := (number bytes (blockOffset bytes b + 2 + 4 * u) 2 * (bytes 9).toNat : Nat) / 1000
        intensity := (bytes (blockOffset bytes b + 2 + 4 * u + 2)).toNat
        confidence := (bytes (blockOffset bytes b + 2 + 4 * u + 3)).toNat }
  echo : packet.echo = (bytes (len - 18)).toNat
  spinSpeed : packet.spinSpeed = number bytes (len - 17) 2
  addtime : packet.addtime = (Buffer.slice bytes (len - 15) 6).map UInt8.toNat
  timestamp : packet.timestamp = number bytes (len - 9) 4
  udpSequence : packet.udpSequence = .ofNat (number bytes (len - 4) 4)
  timestampPoint : packet.timestampPoint = mktime (calendarTime packet.addtime) + (packet.timestamp : ℚ) / 1000000

variable {mktime : Mktime} {bytes : Nat → UInt8} {len : Int} {extent : Nat}

theorem WellFormed.counts (wellFormed : WellFormed bytes len) :
    (blockNumber bytes, laserNumber bytes, len) ∈ [(8, 16, 568), (6, 32, 820), (8, 32, 1080)] := by
  obtain ⟨size, -, ⟨one, eight⟩, ⟨first, last⟩, total⟩ := wellFormed
  generalize blockNumber bytes = blocks at *
  generalize laserNumber bytes = lasers at *
  simp only [List.mem_cons, Prod.mk.injEq, List.not_mem_nil, or_false]
  interval_cases blocks <;> omega

theorem sob_iff : (headerAt layoutXT bytes).sob = 0xEEFF ↔ bytes 0 = 0xEE ∧ bytes 1 = 0xFF := by
  have value : (headerAt layoutXT bytes).sob = (bytes 1).toNat + 256 * (bytes 0).toNat := by
    rw [headerAt, Nat.or_comm, ← ByteOrder.ofLE_two]
    rfl
  have low := (bytes 1).toNat_lt
  rw [value, ← UInt8.toNat_inj, ← UInt8.toNat_inj]
  simp only [UInt8.reduceToNat]
  omega

theorem sizes_iff : len ∈ layoutXT.sizes ↔ len = 568 ∨ len = 820 ∨ len = 1080 := by
  have sizes : layoutXT.sizes = [1080, 568, 820] := rfl
  simp only [sizes, List.mem_cons, List.not_mem_nil, or_false]
  omega

theorem decodeXtUdpSequence_ok (size : len = 568 ∨ len = 820 ∨ len = 1080) (covered : len.toNat ≤ extent) :
    decodeXtUdpSequence ⟨bytes, extent⟩ len.toNat = .ok (some (.ofNat (number bytes (len.toNat - 4) 4))) := by
  have supported : isSupportedXtPacketSize len.toNat = true := by
    rcases size with rfl | rfl | rfl <;> rfl
  rw [decodeXtUdpSequence, supported, if_neg (by simp)]
  have inside : len.toNat - kXtSequenceSize + 4 ≤ extent := by
    refine Nat.le_trans ?_ covered
    rcases size with rfl | rfl | rfl <;> decide
  rw [Buffer.le32_ok inside]
  rfl

def packetAt (mktime : Mktime) (bytes : Nat → UInt8) (len : Nat) : LidarPacket :=
  assemble mktime (headerAt layoutXT bytes)
    ((List.range (blockNumber bytes)).map fun b =>
      layoutXT.blockAt (millimetres (bytes 9).toNat) bytes (laserNumber bytes)
        (12 + b * layoutXT.blockSize (laserNumber bytes)))
    (.ofNat (number bytes (len - 4) 4))
    { spinSpeed := number bytes (len - 17) 2
      timestamp := number bytes (len - 9) 4
      echo := (bytes (len - 18)).toNat
      addtime := (Buffer.slice bytes (len - 15) 6).map UInt8.toNat }

theorem parse_of_wellFormed (wellFormed : WellFormed bytes len) (covered : len.toNat ≤ extent) :
    parseXTData mktime ⟨bytes, extent⟩ len = .ok (some (packetAt mktime bytes len.toNat)) := by
  obtain ⟨size, magic, blocks, lasers, total⟩ := wellFormed
  have long : 12 ≤ len.toNat := by omega
  have blockSize : layoutXT.blockSize (laserNumber bytes) = 2 + laserNumber bytes * 4 := rfl
  have body : 12 + blockNumber bytes * layoutXT.blockSize (laserNumber bytes) + 28 = len.toNat := by
    rw [blockSize, Nat.mul_comm (laserNumber bytes)]
    omega
  have loops := Layout.parseBlocks_ok layoutXT (millimetres (bytes 9).toNat) ⟨bytes, extent⟩ (by decide)
    (by decide) lasers.2 (show 0 + blockNumber bytes ≤ 8 by omega)
    (show 12 + blockNumber bytes * layoutXT.blockSize (laserNumber bytes) ≤ extent by omega)
  have tail := parseXTTail_ok layoutXT ⟨bytes, extent⟩ (show len.toNat - 28 + 10 + 13 ≤ extent by omega)
  have header := parseHeader_ok layoutXT ⟨bytes, extent⟩ (show 4 ≤ extent by omega) (show 6 + 4 ≤ extent by omega)
  rw [show 12 + blockNumber bytes * layoutXT.blockSize (laserNumber bytes) = len.toNat - 28 by omega] at loops
  rw [parseXTData, if_neg (not_not_intro (sizes_iff.mpr size)), header, Except.ok_bind,
    if_neg (not_not_intro (sob_iff.mpr magic))]
  have accepted : ¬ (blockNumber bytes = 0 ∨ blockNumber bytes > XT.blockNumber ∨ laserNumber bytes = 0 ∨
      laserNumber bytes > XT.unitNum ∨
      ((XT.headSize + blockNumber bytes * (XT.blockHeaderAzimuth + laserNumber bytes * XT.unitSize) +
        XT.packetTailSize : Nat) : Int) ≠ len) := by
    simp only [XT.blockNumber, XT.unitNum, XT.headSize, XT.blockHeaderAzimuth, XT.unitSize, XT.packetTailSize,
      Nat.mul_comm (laserNumber bytes)]
    omega
  refine (if_neg accepted).trans ?_
  rw [decodeXtUdpSequence_ok size covered, Except.ok_bind]
  refine Eq.trans (congrArg (· >>= _) loops) ?_
  rw [Except.ok_bind]
  dsimp only
  rw [tail, Except.ok_bind]
  -- The tail begins 28 bytes before the end, and its echo byte stands behind ten reserved bytes.
  have echo : len.toNat - 28 + layoutXT.reservedSize = len.toNat - 18 := by
    show len.toNat - 28 + 10 = len.toNat - 18
    omega
  have spin : len.toNat - 18 + 1 = len.toNat - 17 := by omega
  have time : len.toNat - 18 + 3 = len.toNat - 15 := by omega
  have micros : len.toNat - 18 + 9 = len.toNat - 9 := by omega
  rw [echo, spin, time, micros]
  rfl

theorem parse_of_malformed (malformed : ¬ WellFormed bytes len) (covered : len.toNat ≤ extent) :
    parseXTData mktime ⟨bytes, extent⟩ len = .ok none := by
  rw [parseXTData]
  by_cases size : len = 568 ∨ len = 820 ∨ len = 1080
  · have header := parseHeader_ok layoutXT ⟨bytes, extent⟩ (show 4 ≤ extent by omega) (show 6 + 4 ≤ extent by omega)
    rw [if_neg (not_not_intro (sizes_iff.mpr size)), header, Except.ok_bind]
    by_cases magic : bytes 0 = 0xEE ∧ bytes 1 = 0xFF
    · rw [if_neg (not_not_intro (sob_iff.mpr magic))]
      apply if_pos
      show blockNumber bytes = 0 ∨ blockNumber bytes > 8 ∨ laserNumber bytes = 0 ∨ laserNumber bytes > 32 ∨
        ((12 + blockNumber bytes * (2 + laserNumber bytes * 4) + 28 : Nat) : Int) ≠ len
      by_contra accepted
      simp only [not_or, not_not] at accepted
      obtain ⟨block, blocks, laser, lasers, total⟩ := accepted
      rw [Nat.mul_comm (laserNumber bytes)] at total
      exact malformed ⟨size, magic, ⟨by omega, by omega⟩, ⟨by omega, by omega⟩, total⟩
    · exact if_pos fun sob => magic (sob_iff.mp sob)
  · exact if_pos fun member => size (sizes_iff.mp member)

theorem decodes_packetAt (mktime : Mktime) (bytes : Nat → UInt8) (len : Nat) :
    Decodes mktime bytes len (packetAt mktime bytes len) := by
  have offset (b : Nat) : 12 + b * layoutXT.blockSize (laserNumber bytes) = blockOffset bytes b := by
    rw [blockOffset, Nat.mul_comm 4]
    rfl
  constructor
  case version => exact ⟨rfl, rfl⟩
  case blockCount => simp [packetAt, assemble]
  case azimuth =>
    intro b bound
    simp only [packetAt, assemble, List.getElem_map, List.getElem_range, offset]
    rfl
  case unitCount =>
    intro b bound
    simp [packetAt, assemble, Layout.blockAt]
  case unit =>
    intro b bound u lasers
    have place : blockOffset bytes b + layoutXT.blockHeaderSize + u * layoutXT.unitSize =
        blockOffset bytes b + 2 + 4 * u := by
      rw [Nat.mul_comm 4]
      rfl
    simp only [packetAt, assemble, List.getElem_map, List.getElem_range, offset, Layout.blockAt, place]
    rfl
  all_goals rfl

/-- On a buffer that ends where the packet ends, `ParseXTData` never leaves it nor its arrays, accepts
exactly the well-formed packets, and decodes every field from its place. -/
theorem parseXTData_exact (mktime : Mktime) (bytes : Nat → UInt8) (len : Int) :
    ∃ parsed, parseXTData mktime ⟨bytes, len.toNat⟩ len = .ok parsed ∧
      (parsed.isSome = true ↔ WellFormed bytes len) ∧
      (WellFormed bytes len →
        (blockNumber bytes, laserNumber bytes, len) ∈ [(8, 16, 568), (6, 32, 820), (8, 32, 1080)]) ∧
      ∀ packet, parsed = some packet → Decodes mktime bytes len.toNat packet := by
  by_cases wellFormed : WellFormed bytes len
  · refine ⟨_, parse_of_wellFormed wellFormed (Nat.le_refl _), by simp [wellFormed], WellFormed.counts, fun packet same => ?_⟩
    obtain rfl := Option.some.inj same
    exact decodes_packetAt mktime bytes len.toNat
  · exact ⟨_, parse_of_malformed wellFormed (Nat.le_refl _), by simp [wellFormed], WellFormed.counts, by simp⟩

end HesaiLidar.XtFormat
