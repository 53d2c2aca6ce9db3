import HesaiLidar.Driver.Conservation
import HesaiLidar.Driver.TableAccesses
import HesaiLidar.Driver.XtPath
import HesaiLidar.Wire.Payloads

/-!
# From payloads to points

The parser that the size of a datagram selects reads what the sensor said in it, or nothing. So the points that a run
publishes or keeps are those of the returns that sensors sent, each once.
-/

namespace HesaiLidar

open Memory

variable {cfg : Config} {format : Format} {bytes : Nat → UInt8} {size : Nat} {packet : LidarPacket}

/-- What a sensor of a format says, the bytes it says it in, and how the driver reads it. -/
def Payload : Format → Type
  | .pandar40P => Payload40P
  | .l64 => HeaderPayload layoutL64
  | .l20 => HeaderPayload layoutL20
  | .qt => HeaderPayload layoutQT
  | .xt => XtPayload

def Payload.encode : {format : Format} → Payload format → List UInt8
  | .pandar40P => Payload40P.encode
  | .l64 => HeaderPayload.encode
  | .l20 => HeaderPayload.encode
  | .qt => HeaderPayload.encode
  | .xt => XtPayload.encode

def Payload.said (mktime : Mktime) : {format : Format} → Payload format → LidarPacket
  | .pandar40P => Payload40P.said mktime
  | .l64 => HeaderPayload.said mktime
  | .l20 => HeaderPayload.said mktime
  | .qt => HeaderPayload.said mktime
  | .xt => XtPayload.said mktime

/-- The datagram begins with a payload that says the packet; an XT payload is all of it. -/
def Says (mktime : Mktime) (format : Format) (bytes : Nat → UInt8) (size : Nat) (packet : LidarPacket) : Prop :=
  ∃ payload : Payload format, Holds bytes 0 payload.encode ∧ (format = .xt → payload.encode.length = size) ∧
    payload.said mktime = packet

theorem says_of_reads {mktime : Mktime} {reads : Prop} (other : format ≠ .xt) (known : (size : Int) ∈ format.layout.sizes)
    (accepts : reads ↔ (size : Int) ∈ format.layout.sizes ∧ ∃ payload : Payload format, Holds bytes 0 payload.encode ∧
      payload.said mktime = packet) : reads ↔ Says mktime format bytes size packet := by
  refine accepts.trans ⟨?_, ?_⟩
  · rintro ⟨-, payload, inside, said⟩
    exact ⟨payload, inside, fun same => absurd same other, said⟩
  · rintro ⟨payload, inside, -, said⟩
    exact ⟨known, payload, inside, said⟩

theorem parse_ok_iff (dispatched : dispatch cfg.lidarType size = some format) :
    parse cfg format ⟨bytes, ethernetMtu⟩ size = .ok (some packet) ↔ Says cfg.mktime format bytes size packet := by
  obtain ⟨known, covered⟩ := size_of_dispatch dispatched
  have sound := format.sound
  cases format with
  | pandar40P => exact says_of_reads (by decide) known (parseRawData_iff ⟨bytes, ethernetMtu⟩ sound)
  | l64 =>
    exact says_of_reads (by decide) known (parseByHeader_iff ⟨bytes, ethernetMtu⟩ ⟨rfl, rfl⟩ ⟨by decide, by decide⟩ sound)
  | l20 =>
    exact says_of_reads (by decide) known (parseByHeader_iff ⟨bytes, ethernetMtu⟩ ⟨rfl, rfl⟩ ⟨by decide, by decide⟩ sound)
  | qt =>
    exact says_of_reads (by decide) known (parseByHeader_iff ⟨bytes, ethernetMtu⟩ ⟨rfl, rfl⟩ ⟨by decide, by decide⟩ sound)
  | xt =>
    have accepts : parseXTData cfg.mktime ⟨bytes, ethernetMtu⟩ size = .ok (some packet) ↔ _ :=
      parseXTData_iff ⟨bytes, ethernetMtu⟩ (covered rfl)
    refine accepts.trans ⟨?_, ?_⟩
    · rintro ⟨-, payload, length, holds, said⟩
      exact ⟨payload, holds, fun _ => Int.ofNat.inj length, said⟩
    · rintro ⟨payload, holds, length, said⟩
      exact ⟨known, payload, congrArg Int.ofNat (length rfl), holds, said⟩

/-- The parser the size selects accepts exactly the payloads of its format and reads what they say, and no datagram
says two packets. -/
theorem parse_reads_payload (cfg : Config) (format : Format) (bytes : Nat → UInt8) (size : Nat)
    (dispatched : dispatch cfg.lidarType size = some format) (packet : LidarPacket) :
    (parse cfg format ⟨bytes, ethernetMtu⟩ size = .ok (some packet) ↔ Says cfg.mktime format bytes size packet) ∧
      ∀ other, Says cfg.mktime format bytes size packet → Says cfg.mktime format bytes size other → packet = other := by
  refine ⟨parse_ok_iff dispatched, fun other said said' => ?_⟩
  have parsed := (parse_ok_iff dispatched).mpr said
  have parsed' := (parse_ok_iff dispatched).mpr said'
  exact Option.some.inj (Except.ok.inj (parsed.symm.trans parsed'))

/-- Eight blocks with their azimuths, in a payload whose header says so. -/
theorem parse_reads_payload_eight_blocks :
    let cfg := Config.plain .pandarXT16 1 0
    let datagram := xt16Packet 10 0 fun b => 35800 + b
    ∃ packet : LidarPacket, packet.blocks.map LidarBlock.azimuth = List.range' 35800 8 ∧
      Says cfg.mktime .xt datagram.data datagram.size packet := by
  intro cfg datagram
  have read : ((parse cfg .xt ⟨datagram.data, ethernetMtu⟩ datagram.size).toOption.bind id).map (fun packet =>
      packet.blocks.map LidarBlock.azimuth) = some (List.range' 35800 8) := by decide +kernel
  obtain ⟨packet, accepted, azimuths⟩ := Option.map_eq_some_iff.mp read
  obtain ⟨result, parsed, same⟩ := Option.bind_eq_some_iff.mp accepted
  obtain rfl : result = some packet := same
  refine ⟨packet, azimuths, (parse_reads_payload cfg .xt datagram.data datagram.size (by decide) packet).1.mp ?_⟩
  cases outcome : parse cfg .xt ⟨datagram.data, ethernetMtu⟩ datagram.size with
  | error fault => rw [outcome] at parsed; cases parsed
  | ok result => rw [outcome] at parsed; rw [Option.some.inj parsed]

/-! ### Runs -/

variable {s t : Driver} {popped : List PandarPacket} {datagram : PandarPacket} {p : PPoint}

theorem AcceptedFrom.step (from' : AcceptedFrom cfg popped s.accepted) (h : s.processPacket cfg datagram = .ok t) :
    AcceptedFrom cfg (popped ++ [datagram]) t.accepted := by
  rcases processPacket_ok h with ⟨-, rfl⟩ | ⟨stamp, finite, -, dropped | ⟨m, a, admitted, blocks⟩⟩
  · exact from'.skip datagram
  · rw [(accept_ok dropped).2.1]
    exact from'.skip datagram
  · obtain ⟨-, accepted, -, -, -, known⟩ := accept_ok admitted
    have admitted := known a rfl
    rw [processBlocks_ok blocks]
    show AcceptedFrom cfg _ (m.accepted ++ [a])
    rw [accepted]
    exact from'.keep (admitted.stamp ▸ finite) (admitted.stamp ▸ admitted)

/-- One laser's return in one block of a packet with its stamp. -/
structure Return where
  format : Format
  packet : LidarPacket
  stamp : ℚ
  blockid : Nat
  block : LidarBlock
  laser : Nat
  unit : LidarUnit

def Return.point (cfg : Config) (transformPoint : Affine3) (r : Return) : PPoint :=
  calcPoint cfg ⟨r.format, r.packet, r.stamp, transformPoint⟩ r.blockid r.block r.laser r.unit

end HesaiLidar
