import HesaiLidar.Driver.ProcessLiarPacket
import HesaiLidar.Queue.Interleaving
import Mathlib.Data.List.Forall2

/-!
# Ingest

The three producers of packets: the receive task on its sockets, the pcap reader and the replay of scan
messages. Each builds a `PandarPacket` on its stack, whose old contents are the parameter `memory`, and
hands it to `PushLiDARData`.
-/

namespace HesaiLidar

def copyToPacket (memory : Nat → UInt8) (source : List UInt8) (count : Nat) : Except Fault (Nat → UInt8) :=
  if count ≤ source.length ∧ count ≤ ethernetMtu then .ok fun k => if k < count then source.getD k 0 else memory k
  else .error (.packetCopy count)

/-! ### The receive task -/

/-- The events `poll` reports for a descriptor: an error, a hangup or an invalid request, and `POLLIN`. -/
structure PollFd where
  error : Bool
  readable : Bool
  deriving DecidableEq, Repr

inductive PollOutcome where
  | failed
  | timeout
  | ready (first : PollFd) (rest : List PollFd)
  deriving DecidableEq, Repr

inductive RecvOutcome where
  | datagram (payload : List UInt8)
  | wouldBlock
  | failed
  deriving DecidableEq, Repr

/-- `recvfrom` truncates a datagram to the buffer; it returns the count of bytes or -1. -/
def recvfrom (recv : RecvOutcome) (memory : Nat → UInt8) : Int × (Nat → UInt8) :=
  match recv with
  | .datagram payload =>
    (min payload.length ethernetMtu, fun k => if k < min payload.length ethernetMtu then payload.getD k 0 else memory k)
  | .wouldBlock => (-1, memory)
  | .failed => (-1, memory)

/-- `none` when the function returns -1. Without a readable descriptor `nbytes` has no value. -/
def getPacket (poll : PollOutcome) (recv : RecvOutcome) (memory : Nat → UInt8) (time : Double) :
    Except Fault (Option PandarPacket) :=
  match poll with
  | .failed => .ok none
  | .timeout => .ok none
  | .ready first rest =>
    if first.error then .ok none
    else if (first :: rest).any PollFd.readable then
      let (nbytes, data) := recvfrom recv memory
      if nbytes < 0 ∧ recv ≠ .wouldBlock then .ok none
      else .ok (some ⟨time, data, (nbytes % 2 ^ 32).toNat⟩)
    else .error .uninitialised

/-- One iteration of `RecvTask`: the packet it hands over, if any. -/
def recvTask (poll : PollOutcome) (recv : RecvOutcome) (memory : Nat → UInt8) (time : Double) :
    Except Fault (Option PandarPacket) := do
  match ← getPacket poll recv memory time with
  | none => return none
  | some packet => return if packet.size = gpsPacketSize then none else some packet

/-! ### The pcap reader -/

/-- A record of a capture: the bytes it kept and the length the packet had. -/
structure PcapRecord where
  captured : List UInt8
  len : UInt32
  deriving DecidableEq, Repr

/-- What `parsePcap` passes on: the bytes behind the headers and the size it computes for them as `int`. -/
def PcapRecord.payload (record : PcapRecord) : List UInt8 × Int :=
  let ipType := (record.captured.getD 12 0).toNat <<< 8 ||| (record.captured.getD 13 0).toNat
  if ipType = 0x0800 then (record.captured.drop 42, (record.len - 42).toBitVec.toInt)
  else if ipType = 0x86dd then (record.captured.drop 62, (record.len - 62).toBitVec.toInt)
  else ([], 0)

/-- The length is converted to `size_t` for the copy and to `uint32_t` for the size. -/
def fillPacket (buf : List UInt8) (len : Int) (memory : Nat → UInt8) (timestamp : Double) :
    Except Fault (Option PandarPacket) :=
  if len ≠ gpsPacketSize then do
    let data ← copyToPacket memory buf (len % 2 ^ 64).toNat
    return some ⟨timestamp, data, (len % 2 ^ 32).toNat⟩
  else .ok none

/-! ### Scan messages -/

/-- The test of the first two bytes. The second byte is read when the first one fits. -/
def readCorrectionMagic (data : List UInt8) : Except Fault Bool :=
  match data with
  | [] => .error (.read 0)
  | first :: rest =>
    if first = 0x47 then
      match rest with
      | [] => .error (.read 1)
      | second :: _ => .ok (second = 0x74)
    else .ok false

/-- One packet of a scan message. A correction packet goes to the correction table and is not handed over. -/
def pushScanMessage (memory : Nat → UInt8) (msg : PandarPacketMsg) : Except Fault (Option PandarPacket) := do
  if ← readCorrectionMagic msg.data then return none
  else do
    let data ← copyToPacket memory msg.data msg.size
    return some ⟨.finite (msg.stampSec + msg.stampNanosec / 1000000000), data, msg.size⟩

/-- The packets of a scan message that are handed over, in order. -/
def pushScanPacket (memory : Nat → UInt8) : List PandarPacketMsg → Except Fault (List PandarPacket)
  | [] => .ok []
  | msg :: packets => do
    let handed ← pushScanMessage memory msg
    let later ← pushScanPacket memory packets
    return handed.toList ++ later

/-- The bytes of a message that are LiDAR data: none of a correction packet. -/
def PandarPacketMsg.payload (msg : PandarPacketMsg) : Option (List UInt8) :=
  if msg.isCorrection then none else some (msg.data.take msg.size)

/-! ### Deliveries -/

/-- What reaches the driver from outside, with the stack it meets and the time. -/
inductive Delivery where
  | received (poll : PollOutcome) (recv : RecvOutcome) (memory : Nat → UInt8) (time : Double)
  | captured (record : PcapRecord) (memory : Nat → UInt8) (time : Double)
  | scan (packets : List PandarPacketMsg) (memory : Nat → UInt8)

/-- The packets a delivery hands to `PushLiDARData`. -/
def Delivery.ingest : Delivery → Except Fault (List PandarPacket)
  | .received poll recv memory time => return (← recvTask poll recv memory time).toList
  | .captured record memory time => return (← fillPacket record.payload.1 record.payload.2 memory time).toList
  | .scan packets memory => pushScanPacket memory packets

/-- The LiDAR payloads of a delivery, each at the length its source states. A datagram is what the socket
delivers of it. -/
def Delivery.payloads : Delivery → List (List UInt8)
  | .received (.ready first rest) (.datagram payload) _ _ =>
    if first.error = false ∧ (first :: rest).any PollFd.readable ∧ min payload.length ethernetMtu ≠ gpsPacketSize then
      [payload.take ethernetMtu]
    else []
  | .received _ _ _ _ => []
  | .captured record _ _ =>
    if record.payload.2 ≠ gpsPacketSize then [record.payload.1.take record.payload.2.toNat] else []
  | .scan packets _ => packets.filterMap PandarPacketMsg.payload

/-- The packet fits into its array and holds the payload and nothing else. -/
structure Carries (packet : PandarPacket) (payload : List UInt8) : Prop where
  size : packet.size ≤ ethernetMtu
  data : (List.range packet.size).map packet.data = payload

/-- A producer runs without an access out of bounds and hands over packets that carry the payloads. -/
def Delivers (result : Except Fault (List PandarPacket)) (payloads : List (List UInt8)) : Prop :=
  ∃ handed, result = .ok handed ∧ List.Forall₂ Carries handed payloads

/-- The first two bytes can be tested, and the size is within the data and the array. -/
structure PandarPacketMsg.Fits (msg : PandarPacketMsg) : Prop where
  magic : ∃ first rest, msg.data = first :: rest ∧ (first = 0x47 → rest ≠ [])
  inside : msg.isCorrection = false → msg.size ≤ msg.data.length ∧ msg.size ≤ ethernetMtu

/-- What the producers rely on and do not check. -/
def Delivery.Fits : Delivery → Prop
  | .received (.ready first rest) recv _ _ =>
    first.error = true ∨ (first :: rest).any PollFd.readable = true ∧ recv ≠ .wouldBlock
  | .received _ _ _ _ => True
  | .captured record _ _ => record.payload.2 = gpsPacketSize ∨
      0 ≤ record.payload.2 ∧ record.payload.2 ≤ record.payload.1.length ∧ record.payload.2 ≤ ethernetMtu
  | .scan packets _ => ∀ msg ∈ packets, msg.Fits

/-! ### Copies -/

section Copies

variable {memory : Nat → UInt8} {source : List UInt8} {count : Nat} {time : Double}

theorem copyToPacket_ok (inside : count ≤ source.length) (small : count ≤ ethernetMtu) :
    copyToPacket memory source count = .ok fun k => if k < count then source.getD k 0 else memory k :=
  if_pos ⟨inside, small⟩

theorem carries_copy (inside : count ≤ source.length) (small : count ≤ ethernetMtu) :
    Carries ⟨time, fun k => if k < count then source.getD k 0 else memory k, count⟩ (source.take count) where
  size := small
  data := by
    apply List.ext_getElem
    · simp [Nat.min_eq_left inside]
    · intro k bound _
      have below : k < count := by simpa using bound
      simp [below, List.getElem?_eq_getElem (Nat.lt_of_lt_of_le below inside)]

end Copies

/-! ### The receive task -/

section Received

variable {first : PollFd} {rest : List PollFd} {recv : RecvOutcome} {memory : Nat → UInt8} {time : Double}

theorem getPacket_error (error : first.error = true) : getPacket (.ready first rest) recv memory time = .ok none :=
  if_pos error

theorem getPacket_unreadable (noError : first.error = false) (unreadable : (first :: rest).any PollFd.readable = false) :
    getPacket (.ready first rest) recv memory time = .error .uninitialised := by
  simp only [getPacket, noError, unreadable, Bool.false_eq_true, if_false]

theorem getPacket_datagram {payload : List UInt8} (noError : first.error = false)
    (readable : (first :: rest).any PollFd.readable = true) :
    getPacket (.ready first rest) (.datagram payload) memory time =
      .ok (some ⟨time, (recvfrom (.datagram payload) memory).2, min payload.length ethernetMtu⟩) := by
  have small : min payload.length ethernetMtu ≤ 1500 := Nat.min_le_right ..
  have nbytes : (recvfrom (.datagram payload) memory).1 = (min payload.length ethernetMtu : Nat) := by
    simp only [recvfrom]
    omega
  have size : ((min payload.length ethernetMtu : Nat) % 2 ^ 32 : Int).toNat = min payload.length ethernetMtu := by omega
  simp only [getPacket, noError, readable, Bool.false_eq_true, if_false, if_true, nbytes, size]
  rw [if_neg (by omega)]

/-- The size is what -1 becomes as an unsigned number. -/
theorem getPacket_wouldBlock (noError : first.error = false) (readable : (first :: rest).any PollFd.readable = true) :
    getPacket (.ready first rest) .wouldBlock memory time = .ok (some ⟨time, memory, 4294967295⟩) := by
  simp only [getPacket, noError, readable, Bool.false_eq_true, if_false, if_true, recvfrom]
  rfl

theorem getPacket_failed (noError : first.error = false) (readable : (first :: rest).any PollFd.readable = true) :
    getPacket (.ready first rest) .failed memory time = .ok none := by
  simp only [getPacket, noError, readable, Bool.false_eq_true, if_false, if_true, recvfrom]
  rfl

theorem carries_datagram (payload : List UInt8) :
    Carries ⟨time, (recvfrom (.datagram payload) memory).2, min payload.length ethernetMtu⟩
      (payload.take ethernetMtu) := by
  have received : payload.take ethernetMtu = payload.take (min payload.length ethernetMtu) := by
    rw [List.take_eq_take_min, Nat.min_comm]
  rw [received]
  exact carries_copy (Nat.min_le_left ..) (Nat.min_le_right ..)

theorem ingest_received (poll : PollOutcome) :
    (Delivery.received poll recv memory time).ingest = (getPacket poll recv memory time).map fun received =>
      match received with
      | none => []
      | some packet => if packet.size = gpsPacketSize then [] else [packet] := by
  simp only [Delivery.ingest, recvTask]
  rcases getPacket poll recv memory time with fault | _ | packet
  · rfl
  · rfl
  · by_cases gps : packet.size = gpsPacketSize
    · simp [gps, Except.map, pure, Except.pure]
    · simp [gps, Except.map, pure, Except.pure]

end Received

/-! ### The pcap reader -/

section Captured

variable {buf : List UInt8} {len : Int} {memory : Nat → UInt8} {time : Double}

end Captured

/-! ### Scan messages -/

section Scan

variable {msg : PandarPacketMsg} {packets : List PandarPacketMsg} {memory : Nat → UInt8}

theorem readCorrectionMagic_ok (magic : ∃ first rest, msg.data = first :: rest ∧ (first = 0x47 → rest ≠ [])) :
    readCorrectionMagic msg.data = .ok msg.isCorrection := by
  obtain ⟨first, rest, data, second⟩ := magic
  rw [PandarPacketMsg.isCorrection, data]
  cases rest with
  | nil => simp [readCorrectionMagic, show first ≠ 0x47 from fun same => second same rfl]
  | cons second rest => by_cases same : first = 0x47 <;> simp [readCorrectionMagic, same]

variable (memory) in
theorem pushScanMessage_ok (fits : msg.Fits) :
    ∃ handed, pushScanMessage memory msg = .ok handed ∧ List.Forall₂ Carries handed.toList msg.payload.toList := by
  rw [pushScanMessage, readCorrectionMagic_ok fits.magic, Except.ok_bind, PandarPacketMsg.payload]
  cases correction : msg.isCorrection with
  | true => exact ⟨none, rfl, .nil⟩
  | false =>
    obtain ⟨inside, small⟩ := fits.inside correction
    simp only [Bool.false_eq_true, if_false]
    rw [copyToPacket_ok inside small]
    exact ⟨_, rfl, .cons (carries_copy inside small) .nil⟩

variable (memory) in
theorem pushScanPacket_ok (fits : ∀ msg ∈ packets, msg.Fits) :
    Delivers (pushScanPacket memory packets) (packets.filterMap PandarPacketMsg.payload) := by
  induction packets with
  | nil => exact ⟨[], rfl, .nil⟩
  | cons msg packets ih =>
    obtain ⟨handed, first, carries⟩ := pushScanMessage_ok memory (fits msg List.mem_cons_self)
    obtain ⟨later, rest, laterCarries⟩ := ih fun msg member => fits msg (List.mem_cons_of_mem _ member)
    refine ⟨handed.toList ++ later, ?_, ?_⟩
    · rw [pushScanPacket, first, Except.ok_bind, rest]
      rfl
    · have both := List.rel_append carries laterCarries
      cases payload : msg.payload <;> simpa [payload] using both

end Scan

/-! ### From the producers to the processing thread -/

theorem Carries.rawPacket {packet : PandarPacket} {payload : List UInt8} (carries : Carries packet payload) (stamp : ℚ) :
    ∃ raw, rawPacket stamp packet = .ok raw ∧ raw.data = payload :=
  ⟨_, if_pos carries.size, carries.data⟩

def datagram : Delivery := .received (.ready ⟨false, true⟩ []) (.datagram [1, 2, 3]) (fun _ => 0) (.finite 5)

end HesaiLidar
