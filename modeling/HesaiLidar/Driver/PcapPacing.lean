import HesaiLidar.Driver.Ingest
import HesaiLidar.Wire.XtFormat
import Mathlib.Data.List.Chain

/-!
# Pacing a capture

The loop of `parsePcap`: it hands over every record and stops at every hundredth packet until the recorded time has
passed. The wait is taken from the sensor's timestamps and the clock of the day, and does not drift.
-/

namespace HesaiLidar

open XtFormat

/-- `m_timeIndexMap`: where the timestamp and the UTC bytes stand in a packet. -/
def timeIndexMap : LidarType → Nat × Nat
  | .pandar40P => (1250, 1256)
  | .pandar40M => (1250, 1256)
  | .pandar64 => (1182, 1188)
  | .pandarQT => (1056, 1062)
  | .pandar20A => (1258, 1264)
  | .pandar20B => (1258, 1264)
  | .pandarXT32 => (1071, 1065)
  | .pandarXT16 => (559, 553)
  | .pandarXTM => (811, 805)
  | .xt => (0, 0)
  | .other => (0, 0)

def gap : Int := 100

/-- The timestamp of a packet in microseconds. The year byte is taken as it is, and the four timestamp bytes are
put together as an `int`. -/
def pktTimestamp (mktime : Mktime) (timeIndex : Nat × Nat) (packet : List UInt8) : Except Fault Int := do
  let buffer : Buffer := ⟨fun i => packet.getD i 0, packet.length⟩
  let utc ← parseTime buffer timeIndex.2
  let byte (k : Nat) : Int := utc.getD k 0
  let timestamp ← buffer.le32 timeIndex.1
  return mktime ⟨byte 0, byte 1 - 1, byte 2, byte 3, byte 4, byte 5⟩ * 1000000 + (UInt32.ofNat timestamp).toInt32.toInt

/-- One stop: the packet it was made at and its number, what was read off packet and clock, and the wait, none at
the first stop. -/
structure Checkpoint where
  packet : List UInt8
  number : Nat
  pktTs : Int
  currentTime : Int
  sleepTime : Option Int

/-- The locals of `parsePcap`. The last three fields are history: how many records were read, the packets handed
over, and the stops. -/
structure PcapReader where
  count : Int
  lastPktTs : Int
  lastTime : Int
  read : Nat
  delivered : List PandarPacket
  checkpoints : List Checkpoint

/-- `count` and `last_time` start with whatever stands on the stack. -/
def PcapReader.start (count lastTime : Int) : PcapReader := ⟨count, 0, lastTime, 0, [], []⟩

/-- A record, the old contents of the packet on the stack, and the two clock readings. -/
structure PcapTurn where
  record : PcapRecord
  memory : Nat → UInt8
  time : Double
  currentTime : Int

/-- The stop itself: the wait until the recorded time since the last stop has passed. -/
def PcapReader.pause (s : PcapReader) (packet : List UInt8) (pktTs currentTime : Int) : PcapReader :=
  if s.lastPktTs = 0 then
    { s with
      lastPktTs := pktTs
      lastTime := currentTime
      checkpoints := s.checkpoints ++ [⟨packet, s.read, pktTs, currentTime, none⟩] }
  else
    let sleepTime := (pktTs - s.lastPktTs) - (currentTime - s.lastTime)
    { s with
      lastPktTs := pktTs
      lastTime := currentTime + sleepTime
      checkpoints := s.checkpoints ++ [⟨packet, s.read, pktTs, currentTime, some sleepTime⟩] }

/-- One iteration of the loop. -/
def parsePcap (mktime : Mktime) (lidarType : LidarType) (s : PcapReader) (turn : PcapTurn) : Except Fault PcapReader := do
  let handed ← fillPacket turn.record.payload.1 turn.record.payload.2 turn.memory turn.time
  let s := { s with count := s.count + 1, read := s.read + 1, delivered := s.delivered ++ handed.toList }
  if s.count ≥ gap ∧ (timeIndexMap lidarType).2 ≠ 0 then
    let pktTs ← pktTimestamp mktime (timeIndexMap lidarType) turn.record.payload.1
    return { s with count := 0 }.pause turn.record.payload.1 pktTs turn.currentTime
  else return s

variable {mktime : Mktime} {lidarType : LidarType} {s t : PcapReader} {turn : PcapTurn}

/-! ### One turn -/

/-- A turn hands its packet over and stops or not. -/
theorem parsePcap_ok (h : parsePcap mktime lidarType s turn = .ok t) :
    ∃ handed, fillPacket turn.record.payload.1 turn.record.payload.2 turn.memory turn.time = .ok handed ∧
      ((s.count + 1 < gap ∨ (timeIndexMap lidarType).2 = 0) ∧
          t = { s with count := s.count + 1, read := s.read + 1, delivered := s.delivered ++ handed.toList } ∨
        gap ≤ s.count + 1 ∧ (timeIndexMap lidarType).2 ≠ 0 ∧ ∃ pktTs,
          pktTimestamp mktime (timeIndexMap lidarType) turn.record.payload.1 = .ok pktTs ∧
          t = PcapReader.pause { s with count := 0, read := s.read + 1, delivered := s.delivered ++ handed.toList }
            turn.record.payload.1 pktTs turn.currentTime) := by
  obtain ⟨handed, copied, h⟩ := Except.bind_ok h
  refine ⟨handed, copied, ?_⟩
  dsimp only at h
  split at h
  · rename_i stops
    obtain ⟨pktTs, read, done⟩ := Except.bind_ok h
    exact .inr ⟨stops.1, stops.2, pktTs, read, (Except.ok.inj done).symm⟩
  · rename_i goes
    refine .inl ⟨?_, (Except.ok.inj h).symm⟩
    by_cases full : s.count + 1 < gap
    · exact .inl full
    · exact .inr (by_contra fun known => goes ⟨Int.not_lt.mp full, known⟩)

/-- A stop adds one checkpoint, whatever came before. -/
theorem pause_spec (s : PcapReader) (packet : List UInt8) (pktTs currentTime : Int) :
    ∃ sleepTime lastTime, s.pause packet pktTs currentTime = { s with
        lastPktTs := pktTs
        lastTime := lastTime
        checkpoints := s.checkpoints ++ [⟨packet, s.read, pktTs, currentTime, sleepTime⟩] } ∧
      (s.lastPktTs = 0 → sleepTime = none ∧ lastTime = currentTime) ∧
      (s.lastPktTs ≠ 0 → lastTime - pktTs = s.lastTime - s.lastPktTs ∧ sleepTime = some (lastTime - currentTime)) := by
  unfold PcapReader.pause
  split
  · rename_i first
    exact ⟨_, _, rfl, fun _ => ⟨rfl, rfl⟩, fun later => absurd first later⟩
  · rename_i later
    exact ⟨_, _, rfl, fun first => absurd first later, fun _ => ⟨by ring, by simp⟩⟩

/-! ### The schedule -/

/-- The stops so far, every hundred packets. As long as no packet has the timestamp zero, the clock and the packets
keep the distance they had at the first stop. -/
structure Paced (mktime : Mktime) (lidarType : LidarType) (s : PcapReader) : Prop where
  stamps : ∀ c ∈ s.checkpoints, pktTimestamp mktime (timeIndexMap lidarType) c.packet = .ok c.pktTs
  none : s.checkpoints = [] → s.lastPktTs = 0
  unknown : (timeIndexMap lidarType).2 = 0 → s.checkpoints = []
  spaced : (s.checkpoints.map Checkpoint.number).IsChain fun m n : Nat => (n : Int) = m + gap
  last : ∀ c, s.checkpoints.getLast? = some c → s.lastPktTs = c.pktTs ∧ (s.read : Int) = c.number + s.count ∧ s.count < gap
  schedule : ∀ first rest, s.checkpoints = first :: rest → (∀ c ∈ s.checkpoints, c.pktTs ≠ 0) →
    first.sleepTime = .none ∧ s.lastTime - s.lastPktTs = first.currentTime - first.pktTs ∧
      ∀ c ∈ rest, c.sleepTime = some (first.currentTime + (c.pktTs - first.pktTs) - c.currentTime)

theorem Paced.step (paced : Paced mktime lidarType s) (h : parsePcap mktime lidarType s turn = .ok t) :
    Paced mktime lidarType t := by
  obtain ⟨handed, -, ⟨goes, rfl⟩ | ⟨stops, known, pktTs, stamp, rfl⟩⟩ := parsePcap_ok h
  · refine ⟨paced.stamps, paced.none, paced.unknown, paced.spaced, fun c last => ?_, paced.schedule⟩
    obtain ⟨same, read, below⟩ := paced.last c last
    refine ⟨same, by push_cast; omega, ?_⟩
    rcases goes with room | unknown
    · exact room
    · rw [show s.checkpoints = [] from paced.unknown unknown] at last
      cases last
  · obtain ⟨sleepTime, lastTime, shape, first, later⟩ := pause_spec
      { s with count := 0, read := s.read + 1, delivered := s.delivered ++ handed.toList }
      turn.record.payload.1 pktTs turn.currentTime
    rw [shape]
    refine ⟨fun c member => ?_, fun none => absurd none (List.append_ne_nil_of_right_ne_nil _ (List.cons_ne_nil _ _)),
      fun unknown => absurd unknown known, ?_, fun c last => ?_, fun c rest cs nonzero => ?_⟩
    · rcases List.mem_append.mp member with old | new
      · exact paced.stamps c old
      · obtain rfl := List.mem_singleton.mp new
        exact stamp
    · dsimp only
      rw [List.map_append]
      refine List.isChain_append.mpr ⟨paced.spaced, .singleton _, ?_⟩
      intro m before n only
      rw [List.getLast?_map] at before
      obtain ⟨c, last, rfl⟩ := Option.map_eq_some_iff.mp before
      obtain rfl := Option.some.inj only
      obtain ⟨-, read, below⟩ := paced.last c last
      dsimp only
      push_cast
      omega
    · rw [List.getLast?_append, List.getLast?_singleton] at last
      obtain rfl := Option.some.inj last
      exact ⟨rfl, (Int.add_zero _).symm, show (0 : Int) < 100 by decide⟩
    · dsimp only at cs nonzero ⊢
      rcases done : s.checkpoints with _ | ⟨c', rest'⟩
      · rw [done, List.nil_append] at cs
        obtain ⟨rfl, rfl⟩ := List.cons.inj cs
        obtain ⟨untimed, same⟩ := first (paced.none done)
        exact ⟨untimed, by rw [same], nofun⟩
      · rw [done, List.cons_append] at cs
        obtain ⟨rfl, rfl⟩ := List.cons.inj cs
        obtain ⟨untimed, kept, scheduled⟩ := paced.schedule c' rest' done
          fun c member => nonzero c (List.mem_append_left _ member)
        have running : s.lastPktTs ≠ 0 := by
          obtain ⟨c, last⟩ := List.getLast?_isSome.mpr (List.cons_ne_nil c' rest') |> Option.isSome_iff_exists.mp
          rw [(paced.last c (done ▸ last)).1]
          exact nonzero c (List.mem_append_left _ (done ▸ List.mem_of_getLast? last))
        obtain ⟨distance, waits⟩ := later running
        dsimp only at distance
        refine ⟨untimed, by rw [distance, kept], fun c member => ?_⟩
        rcases List.mem_append.mp member with old | new
        · exact scheduled c old
        · obtain rfl := List.mem_singleton.mp new
          dsimp only
          rw [waits]
          congr 1
          omega

/-! ### The sensor's time -/

end HesaiLidar
