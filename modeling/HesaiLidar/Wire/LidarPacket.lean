import HesaiLidar.Library.ByteOrder
import Mathlib.Data.Rat.Defs
import Mathlib.Tactic.Common

/-!
# Parsed packets and the parsing loops

What the five `HS_LIDAR_*_Packet` structs hold, and the block and unit loops the parsers share. Every
read is checked against the memory behind the pointer and every store against the array it goes to.
`char` is unsigned, as on the aarch64 target.
-/

namespace HesaiLidar

/-- An access outside the memory the code may use, or the use of a variable that has no value yet. -/
inductive Fault where
  | read (index : Nat)
  | blocksStore (block : Nat)
  | unitsStore (block unit : Nat)
  | packetCopy (size : Nat)
  | pointStore (index : Nat)
  | uninitialised
  deriving DecidableEq, Repr

/-- The bytes behind a pointer and how many of them there are. -/
structure Buffer where
  bytes : Nat → UInt8
  extent : Nat

@[simp] theorem Except.ok_bind {ε α β : Type} (x : α) (f : α → Except ε β) : (Except.ok x >>= f) = f x := rfl

/-- A computation that succeeds has succeeded in both parts. -/
theorem Except.bind_ok {ε α β : Type} {x : Except ε α} {f : α → Except ε β} {b : β} (h : (x >>= f) = .ok b) :
    ∃ a, x = .ok a ∧ f a = .ok b := by
  cases x with
  | error e => cases h
  | ok a => exact ⟨a, rfl, h⟩

/-- What is known of the result of a computation shows that it succeeds. -/
theorem Except.ok_of_map {ε α β : Type} {x : Except ε α} {f : α → β} {b : β} (h : x.toOption.map f = some b) :
    ∃ a, x = .ok a ∧ f a = b := by
  cases x with
  | error e => cases h
  | ok a => exact ⟨a, rfl, Option.some.inj h⟩

namespace Buffer

def read (buf : Buffer) (index : Nat) : Except Fault Nat :=
  if index < buf.extent then .ok (buf.bytes index).toNat else .error (.read index)

def le16 (buf : Buffer) (index : Nat) : Except Fault Nat := do
  let b₀ ← buf.read index
  let b₁ ← buf.read (index + 1)
  return b₀ ||| b₁ <<< 8

def le32 (buf : Buffer) (index : Nat) : Except Fault Nat := do
  let b₀ ← buf.read index
  let b₁ ← buf.read (index + 1)
  let b₂ ← buf.read (index + 2)
  let b₃ ← buf.read (index + 3)
  return b₀ ||| b₁ <<< 8 ||| b₂ <<< 16 ||| b₃ <<< 24

def slice (bytes : Nat → UInt8) (offset width : Nat) : List UInt8 := (List.range' offset width).map bytes

variable {buf : Buffer} {index : Nat}

theorem read_ok (inside : index < buf.extent) : buf.read index = .ok (buf.bytes index).toNat := if_pos inside

theorem le16_ok (inside : index + 2 ≤ buf.extent) :
    buf.le16 index = .ok (ByteOrder.ofLE (slice buf.bytes index 2)) := by
  rw [le16, read_ok (by omega), read_ok (by omega)]
  exact congrArg Except.ok (ByteOrder.ofLE_two ..).symm

theorem le32_ok (inside : index + 4 ≤ buf.extent) :
    buf.le32 index = .ok (ByteOrder.ofLE (slice buf.bytes index 4)) := by
  rw [le32, read_ok (by omega), read_ok (by omega), read_ok (by omega), read_ok (by omega)]
  exact congrArg Except.ok (ByteOrder.ofLE_four ..).symm

end Buffer

structure LidarHeader where
  sob : Nat
  chProtocolMajor : Nat
  chProtocolMinor : Nat
  chLaserNumber : Nat
  chBlockNumber : Nat
  chReturnType : Nat
  chDisUnit : Nat
  deriving DecidableEq, Repr

structure LidarUnit where
  distance : ℚ
  intensity : Nat
  confidence : Nat
  deriving DecidableEq, Repr

structure LidarBlock where
  azimuth : Nat
  units : List LidarUnit
  deriving DecidableEq, Repr

/-- The fields of the packet structs. A field its format does not have is zero. -/
structure LidarPacket where
  header : LidarHeader
  blocks : List LidarBlock
  timestamp : Nat
  udpSequence : UInt32
  echo : Nat
  addtime : List Nat
  timestampPoint : ℚ
  spinSpeed : ℚ
  deriving DecidableEq, Repr

/-- What differs between the formats: accepted lengths, header, arrays, block and unit sizes. -/
structure Layout where
  sizes : List Int
  headSize : Nat
  hasProtocolVersion : Bool
  laserNumberAt : Nat
  blockNumber : Nat
  unitNum : Nat
  blockHeaderSize : Nat
  azimuthAt : Nat
  unitSize : Nat
  hasConfidence : Bool
  reservedSize : Nat

def Layout.readConfidence (layout : Layout) (recvbuf : Buffer) (index : Nat) : Except Fault Nat :=
  if layout.hasConfidence then recvbuf.read (index + 3) else .ok 0

/-- `distance` and `intensity` from the two range bytes and the intensity byte. -/
abbrev DecodeUnit : Type := (unRange intensity : Nat) → ℚ × Nat

def millimetres (chDisUnit : Nat) : DecodeUnit := fun unRange intensity =>
  (((unRange * chDisUnit : Nat) : ℚ) / 1000, intensity)

def parseUnit (layout : Layout) (decode : DecodeUnit) (recvbuf : Buffer) (block unit index : Nat) :
    Except Fault LidarUnit := do
  let unRange ← recvbuf.le16 index
  let byte ← recvbuf.read (index + 2)
  let confidence ← layout.readConfidence recvbuf index
  let (distance, intensity) := decode unRange byte
  if unit < layout.unitNum then return ⟨distance, intensity, confidence⟩ else .error (.unitsStore block unit)

/-- The unit loop of one block; `index` is shared with the block loop. -/
def parseUnits (layout : Layout) (decode : DecodeUnit) (recvbuf : Buffer) (block : Nat) :
    (remaining unit index : Nat) → Except Fault (List LidarUnit × Nat)
  | 0, _, index => .ok ([], index)
  | remaining + 1, unit, index => do
    let parsed ← parseUnit layout decode recvbuf block unit index
    let (units, index) ← parseUnits layout decode recvbuf block remaining (unit + 1) (index + layout.unitSize)
    return (parsed :: units, index)

/-- The block loop. -/
def parseBlocks (layout : Layout) (decode : DecodeUnit) (recvbuf : Buffer) (laserNumber : Nat) :
    (remaining block index : Nat) → Except Fault (List LidarBlock × Nat)
  | 0, _, index => .ok ([], index)
  | remaining + 1, block, index => do
    let azimuth ← recvbuf.le16 (index + layout.azimuthAt)
    if block < layout.blockNumber then
      let (units, index) ← parseUnits layout decode recvbuf block laserNumber 0 (index + layout.blockHeaderSize)
      let (blocks, index) ← parseBlocks layout decode recvbuf laserNumber remaining (block + 1) index
      return (⟨azimuth, units⟩ :: blocks, index)
    else .error (.blocksStore block)

/-! ### What the loops return when the layout fits -/

namespace Layout

variable (layout : Layout)

def blockSize (laserNumber : Nat) : Nat := layout.blockHeaderSize + laserNumber * layout.unitSize

def unitReach : Nat := if layout.hasConfidence then 4 else 3

def unitAt (decode : DecodeUnit) (bytes : Nat → UInt8) (offset : Nat) : LidarUnit :=
  let (distance, intensity) := decode (ByteOrder.ofLE (Buffer.slice bytes offset 2)) (bytes (offset + 2)).toNat
  ⟨distance, intensity, if layout.hasConfidence then (bytes (offset + 3)).toNat else 0⟩

def blockAt (decode : DecodeUnit) (bytes : Nat → UInt8) (laserNumber offset : Nat) : LidarBlock where
  azimuth := ByteOrder.ofLE (Buffer.slice bytes (offset + layout.azimuthAt) 2)
  units := (List.range laserNumber).map fun u =>
    layout.unitAt decode bytes (offset + layout.blockHeaderSize + u * layout.unitSize)

variable {layout} {decode : DecodeUnit} {recvbuf : Buffer} {block laserNumber : Nat}

theorem readConfidence_ok {index : Nat} (inside : index + layout.unitReach ≤ recvbuf.extent) :
    layout.readConfidence recvbuf index =
      .ok (if layout.hasConfidence then (recvbuf.bytes (index + 3)).toNat else 0) := by
  rw [unitReach] at inside
  rw [readConfidence]
  by_cases has : layout.hasConfidence
  · rw [if_pos has] at inside
    rw [if_pos has, if_pos has, Buffer.read_ok (by omega)]
  · rw [if_neg has, if_neg has]

variable (layout) in
theorem three_le_unitReach : 3 ≤ layout.unitReach := by
  unfold unitReach
  split <;> omega

theorem parseUnit_ok {unit index : Nat} (capacity : unit < layout.unitNum)
    (inside : index + layout.unitReach ≤ recvbuf.extent) :
    parseUnit layout decode recvbuf block unit index = .ok (layout.unitAt decode recvbuf.bytes index) := by
  have three := three_le_unitReach layout
  rw [parseUnit, Buffer.le16_ok (by omega), Buffer.read_ok (by omega), readConfidence_ok inside]
  simp only [bind, Except.bind, capacity, if_true]
  rfl

theorem parseUnits_ok (reach : layout.unitReach ≤ layout.unitSize) {remaining unit index : Nat}
    (capacity : unit + remaining ≤ layout.unitNum) (inside : index + remaining * layout.unitSize ≤ recvbuf.extent) :
    parseUnits layout decode recvbuf block remaining unit index =
      .ok ((List.range remaining).map fun u => layout.unitAt decode recvbuf.bytes (index + u * layout.unitSize),
        index + remaining * layout.unitSize) := by
  induction remaining generalizing unit index with
  | zero => simp [parseUnits]
  | succ remaining ih =>
    rw [Nat.add_mul, Nat.one_mul] at inside ⊢
    rw [parseUnits, parseUnit_ok (by omega) (by omega), Except.ok_bind, ih (by omega) (by omega)]
    simp [List.range_succ_eq_map, Function.comp_def, Nat.add_mul, Nat.add_assoc, Nat.add_comm layout.unitSize]

variable (layout decode recvbuf) in
theorem parseBlocks_ok (reach : layout.unitReach ≤ layout.unitSize) (azimuth : layout.azimuthAt + 2 ≤ layout.blockHeaderSize)
    (lasers : laserNumber ≤ layout.unitNum) {remaining block index : Nat}
    (capacity : block + remaining ≤ layout.blockNumber)
    (inside : index + remaining * layout.blockSize laserNumber ≤ recvbuf.extent) :
    parseBlocks layout decode recvbuf laserNumber remaining block index =
      .ok ((List.range remaining).map fun b =>
          layout.blockAt decode recvbuf.bytes laserNumber (index + b * layout.blockSize laserNumber),
        index + remaining * layout.blockSize laserNumber) := by
  induction remaining generalizing block index with
  | zero => simp [parseBlocks]
  | succ remaining ih =>
    rw [Nat.add_mul, Nat.one_mul] at inside
    have size : layout.blockSize laserNumber = layout.blockHeaderSize + laserNumber * layout.unitSize := rfl
    rw [parseBlocks, Buffer.le16_ok (by omega), Except.ok_bind, if_pos (by omega),
      parseUnits_ok reach (by omega) (by omega), Except.ok_bind]
    dsimp only
    rw [Nat.add_assoc, ← size, ih (by omega) (by omega), Except.ok_bind, Nat.add_mul, Nat.one_mul]
    simp [List.range_succ_eq_map, Function.comp_def, blockAt, Nat.add_mul, Nat.add_assoc,
      Nat.add_comm (layout.blockSize laserNumber), pure, Except.pure]

end Layout

end HesaiLidar
