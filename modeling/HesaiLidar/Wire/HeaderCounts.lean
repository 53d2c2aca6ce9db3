import HesaiLidar.Wire.XtFormat

/-!
# Header counts

The block and unit loops run as far as the header says. They stay inside the arrays of a packet exactly when the
counts fit them, and then a packet holds what stands at its place in the payload.
-/

namespace HesaiLidar

variable {layout : Layout} {decode : DecodeUnit} {recvbuf : Buffer} {block laserNumber remaining unit index : Nat}

/-! ### Loops that succeed -/

theorem capacity_of_parseUnit {parsed : LidarUnit} (run : parseUnit layout decode recvbuf block unit index = .ok parsed) :
    unit < layout.unitNum := by
  obtain ⟨unRange, -, run⟩ := Except.bind_ok run
  obtain ⟨byte, -, run⟩ := Except.bind_ok run
  obtain ⟨confidence, -, run⟩ := Except.bind_ok run
  dsimp only at run
  split at run
  · assumption
  · cases run

theorem capacity_of_parseUnits {result : List LidarUnit × Nat}
    (run : parseUnits layout decode recvbuf block remaining unit index = .ok result) (room : unit ≤ layout.unitNum) :
    unit + remaining ≤ layout.unitNum := by
  induction remaining generalizing unit index result with
  | zero => exact room
  | succ remaining ih =>
    obtain ⟨parsed, first, run⟩ := Except.bind_ok run
    obtain ⟨rest, tail, -⟩ := Except.bind_ok run
    have next := ih tail (capacity_of_parseUnit first)
    omega

theorem capacity_of_parseBlocks {result : List LidarBlock × Nat}
    (run : parseBlocks layout decode recvbuf laserNumber remaining block index = .ok result)
    (room : block ≤ layout.blockNumber) :
    block + remaining ≤ layout.blockNumber ∧ (0 < remaining → laserNumber ≤ layout.unitNum) := by
  induction remaining generalizing block index result with
  | zero => exact ⟨room, nofun⟩
  | succ remaining ih =>
    obtain ⟨azimuth, -, run⟩ := Except.bind_ok run
    split at run
    · rename_i inside
      obtain ⟨⟨units, index⟩, first, run⟩ := Except.bind_ok run
      obtain ⟨rest, tail, -⟩ := Except.bind_ok run
      obtain ⟨next, -⟩ := ih tail inside
      have lasers := capacity_of_parseUnits first (Nat.zero_le _)
      exact ⟨by omega, fun _ => by omega⟩
    · cases run

/-! ### Payloads -/

/-- The counts a payload declares; Pandar40P has no header. -/
structure HeaderCounts where
  laserNumber : Nat
  blockNumber : Nat

/-- The loops stay inside the arrays: there is no block, or neither count is too large. -/
def HeaderCounts.Fit (counts : HeaderCounts) (layout : Layout) : Prop :=
  counts.blockNumber = 0 ∨ counts.blockNumber ≤ layout.blockNumber ∧ counts.laserNumber ≤ layout.unitNum

/-- Where the payload has the returns of a laser in a block. -/
def Layout.unitOffset (layout : Layout) (laserNumber b i : Nat) : Nat :=
  layout.headSize + b * layout.blockSize laserNumber + layout.blockHeaderSize + i * layout.unitSize

/-- The blocks that stand in a payload. -/
def Layout.blocksAt (layout : Layout) (decode : DecodeUnit) (bytes : Nat → UInt8) (counts : HeaderCounts) : List LidarBlock :=
  (List.range counts.blockNumber).map fun b =>
    layout.blockAt decode bytes counts.laserNumber (layout.headSize + b * layout.blockSize counts.laserNumber)

/-- A layout whose units, blocks and tail lie inside the array of a packet. -/
structure Layout.Sound (layout : Layout) (extent : Nat) : Prop where
  unit : layout.unitReach ≤ layout.unitSize
  azimuth : layout.azimuthAt + 2 ≤ layout.blockHeaderSize
  header : 4 ≤ extent ∧ layout.laserNumberAt + 4 ≤ extent
  inside : layout.headSize + layout.blockNumber * layout.blockSize layout.unitNum + layout.reservedSize + 14 ≤ extent

theorem HeaderCounts.Fit.inside {counts : HeaderCounts} {extent : Nat} (fit : counts.Fit layout) (sound : layout.Sound extent) :
    layout.headSize + counts.blockNumber * layout.blockSize counts.laserNumber + layout.reservedSize + 14 ≤ extent := by
  have inside := sound.inside
  rcases fit with none | ⟨blocks, lasers⟩
  · rw [none, Nat.zero_mul]
    omega
  · have block : layout.blockSize counts.laserNumber ≤ layout.blockSize layout.unitNum :=
      Nat.add_le_add_left (Nat.mul_le_mul_right _ lasers) _
    have body := Nat.mul_le_mul blocks block
    omega

/-- Counts that fit give the blocks of the payload. -/
theorem parseBlocks_of_fit {counts : HeaderCounts} (fit : counts.Fit layout) (sound : layout.Sound recvbuf.extent) :
    parseBlocks layout decode recvbuf counts.laserNumber counts.blockNumber 0 layout.headSize =
      .ok (layout.blocksAt decode recvbuf.bytes counts,
        layout.headSize + counts.blockNumber * layout.blockSize counts.laserNumber) := by
  have inside := fit.inside sound
  rcases fit with none | ⟨blocks, lasers⟩
  · unfold Layout.blocksAt
    rw [none, Nat.zero_mul]
    rfl
  · exact Layout.parseBlocks_ok layout decode recvbuf sound.unit sound.azimuth lasers (by omega) (by omega)

theorem fit_of_parseBlocks {counts : HeaderCounts} {result : List LidarBlock × Nat}
    (run : parseBlocks layout decode recvbuf counts.laserNumber counts.blockNumber 0 layout.headSize = .ok result) :
    counts.Fit layout := by
  obtain ⟨blocks, lasers⟩ := capacity_of_parseBlocks run (Nat.zero_le _)
  rcases Nat.eq_zero_or_pos counts.blockNumber with none | some'
  · exact .inl none
  · exact .inr ⟨by omega, lasers some'⟩

theorem parseTail_ok (inside : index + layout.reservedSize + 14 ≤ recvbuf.extent) :
    ∃ tail, parseTail layout recvbuf index = .ok tail := by
  unfold parseTail engineVelocitySize timestampSize echoSize factorySize
  dsimp only
  rw [Buffer.le16_ok (by omega), Except.ok_bind, Buffer.le32_ok (by omega), Except.ok_bind, Buffer.read_ok (by omega),
    Except.ok_bind, parseTime_ok (by omega)]
  exact ⟨_, rfl⟩

/-! ### The parsers on any payload -/

/-- The outcome of a parser that reads the counts `counts` in an accepted payload. -/
structure ParsesBy (layout : Layout) (decode : DecodeUnit) (bytes : Nat → UInt8) (counts : HeaderCounts)
    (run : Except Fault (Option LidarPacket)) : Prop where
  inside : counts.Fit layout → ∃ packet, run = .ok (some packet) ∧ packet.blocks = layout.blocksAt decode bytes counts
  outside : ¬ counts.Fit layout → ∃ fault, run = .error fault

theorem parsesBy_of_loops {counts : HeaderCounts} (tailOf : Nat → Except Fault Tail)
    (packetOf : List LidarBlock → Tail → LidarPacket) (sound : layout.Sound recvbuf.extent)
    (keeps : ∀ blocks tail, (packetOf blocks tail).blocks = blocks)
    (tails : ∀ index, index + layout.reservedSize + 14 ≤ recvbuf.extent → ∃ tail, tailOf index = .ok tail) :
    ParsesBy layout decode recvbuf.bytes counts
      (parseBlocks layout decode recvbuf counts.laserNumber counts.blockNumber 0 layout.headSize >>= fun (blocks, index) =>
        tailOf index >>= fun tail => .ok (some (packetOf blocks tail))) where
  inside fit := by
    obtain ⟨tail, read⟩ := tails _ (fit.inside sound)
    rw [parseBlocks_of_fit fit sound, Except.ok_bind]
    dsimp only
    rw [read, Except.ok_bind]
    exact ⟨_, rfl, keeps _ tail⟩
  outside tooLarge := by
    cases run : parseBlocks layout decode recvbuf counts.laserNumber counts.blockNumber 0 layout.headSize with
    | error fault => exact ⟨fault, rfl⟩
    | ok result => exact absurd (fit_of_parseBlocks run) tooLarge

def headerCounts (layout : Layout) (bytes : Nat → UInt8) : HeaderCounts :=
  ⟨(bytes layout.laserNumberAt).toNat, (bytes (layout.laserNumberAt + 1)).toNat⟩

def HasMagic (bytes : Nat → UInt8) : Prop := bytes 0 = 0xEE ∧ bytes 1 = 0xFF

theorem sob_eq_iff (layout : Layout) (bytes : Nat → UInt8) : (headerAt layout bytes).sob = 0xEEFF ↔ HasMagic bytes :=
  XtFormat.sob_iff

variable {mktime : Mktime} {len : Int}

theorem parseByHeader_rejects (size : len ∈ layout.sizes) (sound : layout.Sound recvbuf.extent)
    (noMagic : ¬ HasMagic recvbuf.bytes) : parseByHeader layout mktime recvbuf len = .ok none := by
  unfold parseByHeader
  rw [if_neg (not_not_intro size), parseHeader_ok layout recvbuf sound.header.1 sound.header.2, Except.ok_bind]
  exact if_pos fun sob => noMagic ((sob_eq_iff layout recvbuf.bytes).mp sob)

variable (recvbuf) in
theorem parseByHeader_parsesBy (size : len ∈ layout.sizes) (sound : layout.Sound recvbuf.extent)
    (magic : HasMagic recvbuf.bytes) :
    ParsesBy layout (millimetres (recvbuf.bytes (layout.laserNumberAt + 3)).toNat) recvbuf.bytes
      (headerCounts layout recvbuf.bytes) (parseByHeader layout mktime recvbuf len) := by
  have sob : ¬ (headerAt layout recvbuf.bytes).sob ≠ 0xEEFF := not_not_intro ((sob_eq_iff layout recvbuf.bytes).mpr magic)
  unfold parseByHeader
  rw [if_neg (not_not_intro size), parseHeader_ok layout recvbuf sound.header.1 sound.header.2, Except.ok_bind, if_neg sob]
  exact parsesBy_of_loops (parseTail layout recvbuf)
    (fun blocks tail => assemble mktime (headerAt layout recvbuf.bytes) blocks 0 tail) sound (fun _ _ => rfl)
    fun index inside => parseTail_ok inside

variable (recvbuf) in
/-- Pandar40P takes its counts from constants, which fit. -/
theorem parseRawData_parsesBy (size : len ∈ layout40P.sizes) (sound : layout40P.Sound recvbuf.extent) :
    ParsesBy layout40P decode40PUnit recvbuf.bytes ⟨Pandar40P.laserCount, Pandar40P.blocksPerPacket⟩
      (parseRawData mktime recvbuf len) := by
  unfold parseRawData
  rw [if_neg (not_not_intro size)]
  exact parsesBy_of_loops (parseTail layout40P recvbuf)
    (fun blocks tail => assemble mktime ⟨0, 0, 0, Pandar40P.laserCount, Pandar40P.blocksPerPacket, 0, 0⟩ blocks 0
      { tail with timestamp := tail.timestamp % 1000000 })
    sound (fun _ _ => rfl) fun index inside => parseTail_ok inside

variable (recvbuf) in
theorem parseXTData_parsesBy (wellFormed : XtFormat.WellFormed recvbuf.bytes len) (covered : len.toNat ≤ recvbuf.extent) :
    ParsesBy layoutXT (millimetres (recvbuf.bytes 9).toNat) recvbuf.bytes (headerCounts layoutXT recvbuf.bytes)
      (parseXTData mktime recvbuf len) where
  inside _ := ⟨_, XtFormat.parse_of_wellFormed wellFormed covered, rfl⟩
  outside tooLarge := absurd (.inr ⟨wellFormed.blocks.2, wellFormed.lasers.2⟩) tooLarge

end HesaiLidar
