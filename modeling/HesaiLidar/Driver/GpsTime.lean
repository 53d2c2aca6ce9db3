import HesaiLidar.Driver.Ingest
import HesaiLidar.Driver.SensorTime
import HesaiLidar.Library.Memory

/-!
# GPS time

`RecvTask` keeps datagrams of one size to itself. `ParseGPS` reads a date in decimal digits from them, and `ProcessGps`
reports its seconds. Over a run of the task every date is reported once, in order, and everything else is queued.
-/

namespace HesaiLidar

open Memory

structure PandarGps where
  flag : Nat
  year : Nat
  month : Nat
  day : Nat
  second : Nat
  minute : Nat
  hour : Nat
  fineTime : Nat
  deriving DecidableEq, Repr

/-- Two digits, the lower one first. `-` binds before `&`, so a byte is masked and nothing is subtracted from it. -/
def parseGpsNumber (recvbuf : Buffer) (index : Nat) : Except Fault Nat := do
  let low ← recvbuf.read index
  let high ← recvbuf.read (index + 1)
  return (low &&& (0xff - 0x30)) + (high &&& (0xff - 0x30)) * 10

/-- The seconds come before the minutes and the hours. -/
def parseGps (recvbuf : Buffer) (size : Int) : Except Fault (Option PandarGps) :=
  if size ≠ gpsPacketSize then .ok none
  else do
    let flag ← recvbuf.le16 0
    let year ← parseGpsNumber recvbuf 2
    let month ← parseGpsNumber recvbuf 4
    let day ← parseGpsNumber recvbuf 6
    let second ← parseGpsNumber recvbuf 8
    let minute ← parseGpsNumber recvbuf 10
    let hour ← parseGpsNumber recvbuf 12
    let fineTime ← recvbuf.le32 14
    return some ⟨flag, year, month, day, second, minute, hour, fineTime⟩

def PandarGps.time (gpsMsg : PandarGps) : CalendarTime where
  tmYear := gpsMsg.year + 100
  tmMon := gpsMsg.month - 1
  tmMday := gpsMsg.day
  tmHour := gpsMsg.hour
  tmMin := gpsMsg.minute
  tmSec := gpsMsg.second

/-- What the GPS callback is called with. -/
def processGps (cfg : Config) (gpsMsg : PandarGps) : Int := cfg.mktime gpsMsg.time + cfg.tzSecond

/-- What one iteration of the task meets. -/
structure RecvTurn where
  poll : PollOutcome
  recv : RecvOutcome
  memory : Nat → UInt8
  time : Double

/-- What the task has handed to the queue and to the GPS callback. -/
structure RecvLog where
  queued : List PandarPacket
  reported : List Int

/-- One iteration with both of its ends; `recvTask` is the one at the queue. -/
def RecvLog.iterate (cfg : Config) (s : RecvLog) (turn : RecvTurn) : Except Fault RecvLog := do
  match ← getPacket turn.poll turn.recv turn.memory turn.time with
  | none => return s
  | some pkt =>
    if pkt.size = gpsPacketSize then
      match ← parseGps ⟨pkt.data, ethernetMtu⟩ pkt.size with
      | none => return s
      | some gpsMsg => return { s with reported := s.reported ++ [processGps cfg gpsMsg] }
    else return { s with queued := s.queued ++ [pkt] }

/-! ### GPS datagrams -/

/-- The digits of a number below a hundred in ASCII, the lower one first. -/
def gpsDigits (n : Nat) : List UInt8 := [.ofNat (0x30 + n % 10), .ofNat (0x30 + n / 10)]

/-- What a GPS receiver says, with the bytes behind the fields `ParseGPS` reads. -/
structure GpsPayload where
  flag : UInt16
  date : Calendar.DateTime
  fineTime : UInt32
  rest : List UInt8
  valid : date.Valid
  century : 2000 ≤ date.year ∧ date.year < 2100
  restSize : rest.length = 494

def GpsPayload.encode (payload : GpsPayload) : List UInt8 :=
  ByteOrder.toLE 2 payload.flag.toNat ++ (gpsDigits (payload.date.year - 2000).toNat ++
    (gpsDigits payload.date.month.toNat ++ (gpsDigits payload.date.day.toNat ++
      (gpsDigits payload.date.second.toNat ++ (gpsDigits payload.date.minute.toNat ++
        (gpsDigits payload.date.hour.toNat ++ (ByteOrder.toLE 4 payload.fineTime.toNat ++ payload.rest)))))))

def GpsPayload.said (payload : GpsPayload) : PandarGps where
  flag := payload.flag.toNat
  year := (payload.date.year - 2000).toNat
  month := payload.date.month.toNat
  day := payload.date.day.toNat
  second := payload.date.second.toNat
  minute := payload.date.minute.toNat
  hour := payload.date.hour.toNat
  fineTime := payload.fineTime.toNat

variable {recvbuf : Buffer} {index n : Nat} {payload : GpsPayload}

/-- The masked bits are those of `0x30`, so a digit is read right all the same. -/
theorem mask_digit : ∀ digit < 10, (UInt8.ofNat (0x30 + digit)).toNat &&& (0xff - 0x30) = digit := by decide

theorem parseGpsNumber_eq (small : n < 100) (holds : Holds recvbuf.bytes index (gpsDigits n))
    (inside : index + 2 ≤ recvbuf.extent) : parseGpsNumber recvbuf index = .ok n := by
  obtain ⟨low, rest⟩ := holds_cons.mp holds
  obtain ⟨high, -⟩ := holds_cons.mp rest
  unfold parseGpsNumber
  rw [Buffer.read_ok (by omega), Except.ok_bind, Buffer.read_ok (by omega), Except.ok_bind, low, high,
    mask_digit _ (by omega), mask_digit _ (by omega)]
  exact congrArg Except.ok (by omega)

/-- Where the fields of a payload stand. -/
theorem GpsPayload.fields {bytes : Nat → UInt8} (holds : Holds bytes 0 payload.encode) :
    Holds bytes 0 (ByteOrder.toLE 2 payload.flag.toNat) ∧ Holds bytes 2 (gpsDigits (payload.date.year - 2000).toNat) ∧
      Holds bytes 4 (gpsDigits payload.date.month.toNat) ∧ Holds bytes 6 (gpsDigits payload.date.day.toNat) ∧
      Holds bytes 8 (gpsDigits payload.date.second.toNat) ∧ Holds bytes 10 (gpsDigits payload.date.minute.toNat) ∧
      Holds bytes 12 (gpsDigits payload.date.hour.toNat) ∧ Holds bytes 14 (ByteOrder.toLE 4 payload.fineTime.toNat) := by
  obtain ⟨flag, rest⟩ := holds_append.mp holds
  obtain ⟨year, rest⟩ := holds_append.mp rest
  obtain ⟨month, rest⟩ := holds_append.mp rest
  obtain ⟨day, rest⟩ := holds_append.mp rest
  obtain ⟨second, rest⟩ := holds_append.mp rest
  obtain ⟨minute, rest⟩ := holds_append.mp rest
  obtain ⟨hour, rest⟩ := holds_append.mp rest
  exact ⟨flag, year, month, day, second, minute, hour, (holds_append.mp rest).1⟩

theorem parseGps_eq (holds : Holds recvbuf.bytes 0 payload.encode) (inside : gpsPacketSize ≤ recvbuf.extent) :
    parseGps recvbuf gpsPacketSize = .ok (some payload.said) := by
  have size : gpsPacketSize = 512 := rfl
  obtain ⟨⟨_, _⟩, ⟨_, _⟩, ⟨_, _⟩, ⟨_, _⟩, ⟨_, _⟩⟩ := payload.valid
  have days := Calendar.monthLength_le (Calendar.isLeap payload.date.year) payload.date.month
  have century := payload.century
  obtain ⟨flag, year, month, day, second, minute, hour, fineTime⟩ := GpsPayload.fields holds
  unfold parseGps
  rw [if_neg (not_not_intro rfl), Buffer.le16_ok (by omega), Except.ok_bind, parseGpsNumber_eq (by omega) year (by omega),
    Except.ok_bind, parseGpsNumber_eq (by omega) month (by omega), Except.ok_bind,
    parseGpsNumber_eq (by omega) day (by omega), Except.ok_bind, parseGpsNumber_eq (by omega) second (by omega),
    Except.ok_bind, parseGpsNumber_eq (by omega) minute (by omega), Except.ok_bind,
    parseGpsNumber_eq (by omega) hour (by omega), Except.ok_bind, Buffer.le32_ok (by omega), Except.ok_bind,
    show ByteOrder.ofLE (Buffer.slice recvbuf.bytes 0 2) = _ from number_of_holds payload.flag.toNat_lt flag,
    show ByteOrder.ofLE (Buffer.slice recvbuf.bytes 14 4) = _ from number_of_holds payload.fineTime.toNat_lt fineTime]
  rfl

/-- The date comes back from the fields of `struct tm`. -/
theorem GpsPayload.time_date (payload : GpsPayload) : payload.said.time.date = payload.date := by
  obtain ⟨⟨month, -⟩, ⟨day, -⟩, ⟨hour, -⟩, ⟨minute, -⟩, ⟨second, -⟩⟩ := payload.valid
  have century := payload.century
  have ⟨year, month', day', hour', minute', second'⟩ : payload.said.time.date.year = payload.date.year ∧
      payload.said.time.date.month = payload.date.month ∧ payload.said.time.date.day = payload.date.day ∧
      payload.said.time.date.hour = payload.date.hour ∧ payload.said.time.date.minute = payload.date.minute ∧
      payload.said.time.date.second = payload.date.second := by
    simp only [CalendarTime.date, PandarGps.time, GpsPayload.said]
    omega
  exact Calendar.DateTime.ext year month' day' hour' minute' second'

theorem processGps_utc {cfg : Config} (utc : UtcMktime cfg.mktime) (payload : GpsPayload) :
    processGps cfg payload.said = payload.date.seconds + cfg.tzSecond := by
  have date := payload.time_date
  unfold processGps
  rw [utc _ (date ▸ payload.valid), date]

/-! ### Iterations -/

/-- The datagram of a turn, if it is one that the task keeps. -/
def RecvTurn.gps (turn : RecvTurn) : Option (List UInt8) :=
  match turn.poll, turn.recv with
  | .ready first rest, .datagram payload =>
    if first.error = false ∧ (first :: rest).any PollFd.readable ∧ payload.length = gpsPacketSize then some payload else none
  | _, _ => none

def RecvTurn.delivery (turn : RecvTurn) : Delivery := .received turn.poll turn.recv turn.memory turn.time

variable {cfg : Config} {s t : RecvLog} {turn : RecvTurn} {packet : PandarPacket}

/-- A datagram of the GPS size is kept, whole. -/
theorem gps_of_datagram {first : PollFd} {rest : List PollFd} {datagram : List UInt8} {memory : Nat → UInt8} {time : Double}
    (error : first.error = false) (readable : (first :: rest).any PollFd.readable = true) :
    (RecvTurn.gps ⟨.ready first rest, .datagram datagram, memory, time⟩ = none ∧ min datagram.length ethernetMtu ≠ gpsPacketSize) ∨
      min datagram.length ethernetMtu = gpsPacketSize ∧
        RecvTurn.gps ⟨.ready first rest, .datagram datagram, memory, time⟩ = some datagram ∧
        Holds (recvfrom (.datagram datagram) memory).2 0 datagram := by
  have small : gpsPacketSize < ethernetMtu := by decide
  by_cases size : datagram.length = gpsPacketSize
  · have whole : min datagram.length ethernetMtu = datagram.length := by omega
    have carried : Carries ⟨time, (recvfrom (.datagram datagram) memory).2, min datagram.length ethernetMtu⟩
        (datagram.take ethernetMtu) := carries_datagram datagram
    rw [List.take_of_length_le (by omega), whole] at carried
    have holds := carried.data
    rw [List.range_eq_range'] at holds
    exact .inr ⟨by omega, if_pos ⟨error, readable, size⟩, holds⟩
  · exact .inl ⟨if_neg fun kept => size kept.2.2, by omega⟩

/-- The task keeps a datagram just when the packet it gets has the GPS size. -/
theorem gps_of_getPacket {received : Option PandarPacket}
    (got : getPacket turn.poll turn.recv turn.memory turn.time = .ok received) :
    (turn.gps = none ∧ ∀ packet ∈ received, packet.size ≠ gpsPacketSize) ∨
      ∃ packet datagram, received = some packet ∧ packet.size = gpsPacketSize ∧ turn.gps = some datagram ∧
        Holds packet.data 0 datagram := by
  obtain ⟨poll, recv, memory, time⟩ := turn
  have nothing : ∀ packet ∈ (none : Option PandarPacket), packet.size ≠ gpsPacketSize := by
    rintro packet ⟨⟩
  dsimp only at got
  cases poll with
  | failed =>
    obtain rfl := Except.ok.inj got
    exact .inl ⟨rfl, nothing⟩
  | timeout =>
    obtain rfl := Except.ok.inj got
    exact .inl ⟨rfl, nothing⟩
  | ready first rest =>
    cases error : first.error with
    | true =>
      rw [getPacket_error error] at got
      obtain rfl := Except.ok.inj got
      refine .inl ⟨?_, nothing⟩
      cases recv with
      | datagram payload => exact if_neg fun kept => Bool.false_ne_true (kept.1.symm.trans error)
      | wouldBlock => rfl
      | failed => rfl
    | false =>
      cases readable : (first :: rest).any PollFd.readable with
      | false =>
        rw [getPacket_unreadable error readable] at got
        cases got
      | true =>
        cases recv with
        | datagram payload =>
          rw [getPacket_datagram error readable] at got
          obtain rfl := Except.ok.inj got
          rcases gps_of_datagram error readable with ⟨queued, size⟩ | ⟨size, kept, holds⟩
          · refine .inl ⟨queued, ?_⟩
            rintro packet ⟨⟩
            exact size
          · exact .inr ⟨_, payload, rfl, size, kept, holds⟩
        | wouldBlock =>
          rw [getPacket_wouldBlock error readable] at got
          obtain rfl := Except.ok.inj got
          refine .inl ⟨rfl, ?_⟩
          rintro packet ⟨⟩
          exact (by decide : 4294967295 ≠ gpsPacketSize)
        | failed =>
          rw [getPacket_failed error readable] at got
          obtain rfl := Except.ok.inj got
          exact .inl ⟨rfl, nothing⟩

theorem ingest_of_getPacket {received : Option PandarPacket}
    (got : getPacket turn.poll turn.recv turn.memory turn.time = .ok received) :
    turn.delivery.ingest = .ok (received.toList.filter fun packet => packet.size ≠ gpsPacketSize) := by
  unfold RecvTurn.delivery
  rw [ingest_received, got]
  cases received with
  | none => rfl
  | some packet =>
    by_cases gps : packet.size = gpsPacketSize
    · simp [Except.map, gps]
    · simp [Except.map, gps]

/-- An iteration queues what the task hands over, or reports what it reads from a datagram it keeps. -/
theorem iterate_ok (h : s.iterate cfg turn = .ok t) :
    (turn.gps = none ∧ ∃ packets, turn.delivery.ingest = .ok packets ∧ t = { s with queued := s.queued ++ packets }) ∨
      ∃ (datagram : List UInt8) (pkt : PandarPacket) (reports : List Int), turn.gps = some datagram ∧
        Holds pkt.data 0 datagram ∧ turn.delivery.ingest = .ok [] ∧ t = { s with reported := s.reported ++ reports } ∧
        ∀ gpsMsg, parseGps ⟨pkt.data, ethernetMtu⟩ gpsPacketSize = .ok (some gpsMsg) → reports = [processGps cfg gpsMsg] := by
  obtain ⟨received, got, h⟩ := Except.bind_ok h
  have delivered := ingest_of_getPacket got
  rcases gps_of_getPacket got with ⟨queued, sizes⟩ | ⟨pkt, datagram, rfl, size, kept, holds⟩
  · refine .inl ⟨queued, received.toList, ?_, ?_⟩
    · rw [delivered, List.filter_eq_self.mpr fun packet member => decide_eq_true (sizes packet (Option.mem_toList.mp member))]
    · cases received with
      | none =>
        obtain rfl := Except.ok.inj h
        rw [Option.toList_none, List.append_nil]
      | some pkt =>
        dsimp only at h
        rw [if_neg (sizes pkt rfl)] at h
        exact (Except.ok.inj h).symm
  · have nothing : turn.delivery.ingest = .ok [] := by
      rw [delivered, Option.toList_some, List.filter_cons_of_neg (by simp [size])]
      rfl
    dsimp only at h
    rw [if_pos size, size] at h
    obtain ⟨parsed, read, h⟩ := Except.bind_ok h
    cases parsed with
    | none =>
      obtain rfl := Except.ok.inj h
      refine .inr ⟨datagram, pkt, [], kept, holds, nothing, by rw [List.append_nil], fun gpsMsg parsed => ?_⟩
      cases read.symm.trans parsed
    | some gpsMsg =>
      refine .inr ⟨datagram, pkt, [processGps cfg gpsMsg], kept, holds, nothing, (Except.ok.inj h).symm, ?_⟩
      intro gpsMsg' parsed
      obtain rfl := Option.some.inj (Except.ok.inj (read.symm.trans parsed))
      rfl

/-! ### Runs -/

/-- What the turns come to: everything handed over is queued, and every date sent is reported. -/
structure RecvLog.Follows (cfg : Config) (turns : List RecvTurn) (s : RecvLog) : Prop where
  queued : ∃ handed, List.Forall₂ (fun turn packets => turn.delivery.ingest = .ok packets) turns handed ∧
    s.queued = handed.flatten
  reported : ∀ sent : List GpsPayload, turns.filterMap RecvTurn.gps = sent.map GpsPayload.encode →
    s.reported = sent.map fun payload => payload.date.seconds + cfg.tzSecond

theorem RecvLog.Follows.step (utc : UtcMktime cfg.mktime) {turns : List RecvTurn} (follows : s.Follows cfg turns)
    (h : s.iterate cfg turn = .ok t) : t.Follows cfg (turns ++ [turn]) := by
  obtain ⟨⟨handed, delivered, queued⟩, reported⟩ := follows
  rcases iterate_ok h with ⟨none, packets, ingested, rfl⟩ | ⟨datagram, pkt, reports, kept, holds, ingested, rfl, read⟩
  · refine ⟨⟨handed ++ [packets], List.rel_append delivered (.cons ingested .nil), ?_⟩, fun sent encoded => ?_⟩
    · rw [List.flatten_append, List.flatten_singleton, ← queued]
    · rw [List.filterMap_append, List.filterMap_cons_none none, List.filterMap_nil, List.append_nil] at encoded
      exact reported sent encoded
  · refine ⟨⟨handed ++ [[]], List.rel_append delivered (.cons ingested .nil), ?_⟩, fun sent encoded => ?_⟩
    · rw [List.flatten_append, List.flatten_singleton, List.append_nil]
      exact queued
    · rw [List.filterMap_append, List.filterMap_cons_some kept, List.filterMap_nil] at encoded
      obtain ⟨earlier, last, rfl, first, second⟩ := List.append_eq_map_iff.mp encoded
      obtain ⟨payload, rfl, rfl⟩ := List.map_eq_singleton_iff.mp second
      have small : gpsPacketSize ≤ ethernetMtu := by decide
      rw [read _ (parseGps_eq holds small), processGps_utc utc payload, List.map_append, List.map_singleton, reported earlier first.symm]

/-- Over every run of the task the dates that come in are reported in order, each once, as seconds in the configured
zone, and the queue gets the rest. -/
theorem gps_dates_reported (cfg : Config) (utc : UtcMktime cfg.mktime) (turns : List RecvTurn) (s : RecvLog)
    (run : turns.foldlM (RecvLog.iterate cfg) ⟨[], []⟩ = .ok s) (sent : List GpsPayload)
    (encoded : turns.filterMap RecvTurn.gps = sent.map GpsPayload.encode) :
    s.reported = sent.map (fun payload => payload.date.seconds + cfg.tzSecond) ∧
      (sent.Pairwise (fun earlier later => earlier.date.key ≤ later.date.key) → s.reported.Pairwise (· ≤ ·)) ∧
      ∃ handed, List.Forall₂ (fun turn packets => turn.delivery.ingest = .ok packets) turns handed ∧
        s.queued = handed.flatten := by
  have start : RecvLog.Follows cfg [] ⟨[], []⟩ := by
    refine ⟨⟨[], .nil, rfl⟩, fun sent encoded => ?_⟩
    obtain rfl := List.map_eq_nil_iff.mp encoded.symm
    rfl
  have follows := (Runs.run_of_foldlM_ok run).invariant_of_history (I := RecvLog.Follows cfg)
    (fun follows taken => follows.step utc taken) [] start
  have reported := follows.reported sent encoded
  refine ⟨reported, fun order => ?_, follows.queued⟩
  rw [reported]
  refine List.pairwise_map.mpr (order.imp fun {earlier later} before => ?_)
  exact Int.add_le_add_right (Calendar.DateTime.seconds_le earlier.valid later.valid before) _

/-- The last second of a leap day. -/
def leapDay : GpsPayload where
  flag := 0
  date := ⟨2024, 2, 29, 23, 59, 59⟩
  fineTime := 0
  rest := List.replicate 494 0
  valid := ⟨by decide, by decide, by decide, by decide, by decide⟩
  century := by decide
  restSize := List.length_replicate

/-- The second after it. -/
def firstOfMarch : GpsPayload where
  flag := 0
  date := ⟨2024, 3, 1, 0, 0, 0⟩
  fineTime := 0
  rest := List.replicate 494 0
  valid := ⟨by decide, by decide, by decide, by decide, by decide⟩
  century := by decide
  restSize := List.length_replicate

/-- A date, a datagram for the queue, a timeout and the date a second later. -/
theorem gps_dates_reported_leap_day :
    let cfg := { Config.plain .pandarXT16 1 0 with mktime := fun t => t.date.seconds }
    let turn (recv : RecvOutcome) : RecvTurn := ⟨.ready ⟨false, true⟩ [], recv, fun _ => 0, .finite 10⟩
    let turns := [turn (.datagram leapDay.encode), turn (.datagram [1, 2, 3]), ⟨.timeout, .failed, fun _ => 0, .notFinite⟩,
      turn (.datagram firstOfMarch.encode)]
    ∃ s, turns.foldlM (RecvLog.iterate cfg) ⟨[], []⟩ = .ok s ∧ s.reported = [1709251199, 1709251200] ∧
      s.reported.Pairwise (· ≤ ·) ∧ ∃ handed,
        List.Forall₂ (fun turn packets => turn.delivery.ingest = .ok packets) turns handed ∧ s.queued = handed.flatten := by
  intro cfg turn turns
  have reached : (turns.foldlM (RecvLog.iterate cfg) ⟨[], []⟩).toOption.map (fun s => s.queued.length) = some 1 := by
    decide +kernel
  obtain ⟨s, run, -⟩ := Except.ok_of_map reached
  have encoded : turns.filterMap RecvTurn.gps = [leapDay, firstOfMarch].map GpsPayload.encode := by decide +kernel
  obtain ⟨reported, order, queued⟩ := gps_dates_reported cfg (fun _ _ => rfl) turns s run [leapDay, firstOfMarch] encoded
  have later : leapDay.date.key < firstOfMarch.date.key :=
    Calendar.DateTime.key_lt_key.mpr (.inr ⟨rfl, .inl (by decide)⟩)
  exact ⟨s, run, reported, order (List.pairwise_pair.mpr (le_of_lt later)), queued⟩

end HesaiLidar
