import HesaiLidar.Calibration.CorrectionPacket
import HesaiLidar.Client.TcpCommand
import Mathlib.Data.List.ReduceOption

/-!
# Where the correction tables come from

The SDK asks the sensor for its correction text over TCP and falls back on the file on disk, a scan may bring the
text in a packet, and the node may hand one over itself. What a whole run of these calls leaves in the tables.
-/

namespace HesaiLidar

open ByteSource

/-! ### Commands over a connection -/

inductive PtcErrCode where
  | noError
  | badParameter
  | connectServerFailed
  | transferFailed
  | noMemory
  deriving DecidableEq

def PtcErrCode.value : PtcErrCode → Int
  | .noError => 0
  | .badParameter => 1
  | .connectServerFailed => 2
  | .transferFailed => 3
  | .noMemory => 4

/-- What the network does in one exchange: the socket `tcp_open` comes back with, the results of the two calls of
`write`, and the old contents of the buffer the reply is read into. -/
structure Exchange where
  socket : Option (Source UInt8)
  wroteHeader : Int
  wroteData : Int
  stale : Nat → UInt8

/-- The result of `tcpCommandClient_SendCmd` and the fields of the command it writes to. -/
structure SentCmd where
  errorCode : PtcErrCode
  retCode : UInt8
  retData : Option (List UInt8)
  retSize : UInt32

def tcpCommandClientSendCmd (net : Exchange) (cmd : TcCommand) : SentCmd :=
  let failed (errorCode : PtcErrCode) : SentCmd := ⟨errorCode, cmd.header.retCode, none, 0⟩
  if cmd.header.len ≠ 0 ∧ cmd.data = none then failed .badParameter
  else match net.socket with
    | none => failed .connectServerFailed
    | some fd =>
      if net.wroteHeader ≠ (tcpCommandBuildHeader cmd).length then failed .transferFailed
      else if 0 < cmd.header.len ∧ cmd.data.isSome ∧ UInt32.ofInt net.wroteData ≠ cmd.header.len then failed .transferFailed
      else match tcpCommandReadCommand net.stale fd with
        | none => failed .transferFailed
        | some (feedBack, _) => ⟨.noError, feedBack.header.retCode, feedBack.data, feedBack.header.len⟩

/-- `PTC_COMMAND_GET_LIDAR_CALIBRATION` without a payload. -/
def getLidarCalibrationCmd : TcCommand := ⟨⟨5, 0, 0⟩, none⟩

/-- The return value and the buffer, where one is handed over: a copy of the payload with a zero byte behind it. -/
def tcpCommandGetLidarCalibration (net : Exchange) : Int × Option (List UInt8) :=
  let sent := tcpCommandClientSendCmd net getLidarCalibrationCmd
  if sent.errorCode ≠ .noError then (sent.errorCode.value, none)
  else (sent.retCode.toNat, some ((sent.retData.getD []).take sent.retSize.toNat ++ [0]))

/-! ### GetCalibrationFromDevice -/

/-- `tcpCommandClient` tells whether there is a client: one for a live sensor, none for recordings. -/
structure PandarGeneralSdk where
  tcpCommandClient : Bool
  correctionContent : List Char
  pandarGeneral : Correction

/-- The tables after `LoadCorrectionFile`, with the flag set if it has succeeded. -/
def loadCalibration (trig : Trigonometry) (text : List Char) (s : Correction) : Except CorrectionFault Correction := do
  let (ret, s) ← loadCorrectionFile trig text s
  return if ret ≠ 0 then s else { s with gotLidarCorrectionFlag := true }

/-- The part that asks the sensor. -/
def loadFromDevice (trig : Trigonometry) (net : Exchange) (sdk : PandarGeneralSdk) : Except CorrectionFault PandarGeneralSdk :=
  match tcpCommandGetLidarCalibration net with
  | (_, none) => .ok sdk
  | (ret, some buffer) =>
    if ret = 0 then do
      let text ← cString buffer
      let s ← loadCalibration trig text sdk.pandarGeneral
      return { sdk with correctionContent := text, pandarGeneral := s }
    else .ok sdk

/-- The fallback to the file. Without a file the flag stays as it is, unlike in `PushScanPacket`. -/
def loadFromDisk (trig : Trigonometry) (memory : CorrectionMemory) (s : Correction) : Except CorrectionFault Correction :=
  match memory.correctionFile with
  | none => .ok s
  | some content => do
    let text ← cString (content ++ memory.heap)
    loadCalibration trig text s

def getCalibrationFromDevice (trig : Trigonometry) (memory : CorrectionMemory) (net : Exchange) (sdk : PandarGeneralSdk) :
    Except CorrectionFault PandarGeneralSdk :=
  if sdk.tcpCommandClient = false then .ok sdk
  else do
    let sdk ← loadFromDevice trig net sdk
    if sdk.pandarGeneral.gotLidarCorrectionFlag then return sdk
    let s ← loadFromDisk trig memory sdk.pandarGeneral
    return { sdk with pandarGeneral := s }

/-! ### The reply of the sensor -/

/-- The request goes out, and a whole answer arrives. -/
def Exchange.Answers (net : Exchange) (header : TcpCommandHeader) (payload : List UInt8) : Prop :=
  ∃ fd rest, net.socket = some fd ∧ net.wroteHeader = 8 ∧ Framed fd.stream header payload rest

/-- The sensor answers, and reports no error. -/
def Exchange.Replies (net : Exchange) (payload : List UInt8) : Prop :=
  ∃ header, net.Answers header payload ∧ header.retCode = 0

/-- A stream begins with one command at most. -/
theorem Framed.unique {stream payload payload' rest rest' : List UInt8} {header header' : TcpCommandHeader}
    (framed : Framed stream header payload rest) (framed' : Framed stream header' payload' rest') :
    header = header' ∧ payload = payload' ∧ rest = rest' := by
  obtain ⟨cmd, retCode, len⟩ := header
  obtain ⟨cmd', retCode', len'⟩ := header'
  have same := framed.bytes.symm.trans framed'.bytes
  simp only [List.cons.injEq, true_and, List.append_assoc] at same
  obtain ⟨rfl, rfl, same⟩ := same
  obtain ⟨sameLen, behind⟩ := List.append_inj same ((length_bigEndian len).trans (length_bigEndian len').symm)
  have number : len.toNat = len'.toNat := by rw [← decode_bigEndian, sameLen, decode_bigEndian]
  obtain rfl := UInt32.toNat_inj.mp number
  obtain ⟨rfl, rfl⟩ := List.append_inj behind (framed.length.trans framed'.length.symm)
  exact ⟨rfl, rfl, rfl⟩

theorem Exchange.Answers.unique {net : Exchange} {payload payload' : List UInt8} {header header' : TcpCommandHeader}
    (answers : net.Answers header payload) (answers' : net.Answers header' payload') :
    header = header' ∧ payload = payload' := by
  obtain ⟨fd, rest, socket, -, framed⟩ := answers
  obtain ⟨fd', rest', socket', -, framed'⟩ := answers'
  obtain rfl := Option.some.inj (socket.symm.trans socket')
  obtain ⟨sameHeader, samePayload, -⟩ := framed.unique framed'
  exact ⟨sameHeader, samePayload⟩

/-- What asking for the calibration comes to. -/
inductive Fetched (net : Exchange) : Int × Option (List UInt8) → Prop
  | answer {header : TcpCommandHeader} {payload : List UInt8} (answers : net.Answers header payload) :
    Fetched net (header.retCode.toNat, some (payload ++ [0]))
  | failure {errorCode : PtcErrCode} (silent : ∀ header payload, ¬ net.Answers header payload) :
    Fetched net (errorCode.value, none)

theorem sendCmd_getLidarCalibration (net : Exchange) :
    tcpCommandClientSendCmd net getLidarCalibrationCmd =
      match net.socket with
      | none => ⟨.connectServerFailed, 0, none, 0⟩
      | some fd =>
        if net.wroteHeader ≠ 8 then ⟨.transferFailed, 0, none, 0⟩
        else match tcpCommandReadCommand net.stale fd with
          | none => ⟨.transferFailed, 0, none, 0⟩
          | some (feedBack, _) => ⟨.noError, feedBack.header.retCode, feedBack.data, feedBack.header.len⟩ := by
  have valid : ¬ (getLidarCalibrationCmd.header.len ≠ 0 ∧ getLidarCalibrationCmd.data = none) := fun bad => bad.1 rfl
  have noData : ¬ (0 < getLidarCalibrationCmd.header.len ∧ getLidarCalibrationCmd.data.isSome ∧
      UInt32.ofInt net.wroteData ≠ getLidarCalibrationCmd.header.len) := fun data => Bool.false_ne_true data.2.1
  unfold tcpCommandClientSendCmd
  simp only [if_neg valid, if_neg noData]
  rfl

theorem getLidarCalibration_cases (net : Exchange) : Fetched net (tcpCommandGetLidarCalibration net) := by
  unfold tcpCommandGetLidarCalibration
  rw [sendCmd_getLidarCalibration]
  cases socket : net.socket with
  | none =>
    refine @Fetched.failure net .connectServerFailed ?_
    rintro header payload ⟨fd, rest, opened, -⟩
    cases socket.symm.trans opened
  | some fd =>
    by_cases wrote : net.wroteHeader = 8
    · simp only [wrote, ne_eq, not_true_eq_false, if_false]
      cases read : tcpCommandReadCommand net.stale fd with
      | none =>
        refine @Fetched.failure net .transferFailed ?_
        rintro header payload ⟨fd', rest, opened, -, framed⟩
        obtain rfl := Option.some.inj (socket.symm.trans opened)
        obtain ⟨feedBack, left, whole, -⟩ := readCommand_of_framed net.stale framed
        cases read.symm.trans whole
      | some result =>
        obtain ⟨feedBack, left⟩ := result
        have framed := framed_of_readCommand read
        have copied : feedBack.payload.take feedBack.header.len.toNat = feedBack.payload :=
          List.take_of_length_le (Nat.le_of_eq framed.length)
        show Fetched net (feedBack.header.retCode.toNat, some (feedBack.payload.take feedBack.header.len.toNat ++ [0]))
        rw [copied]
        exact .answer ⟨fd, left.stream, socket, wrote, framed⟩
    · simp only [wrote, ne_eq, not_false_eq_true, if_true]
      refine @Fetched.failure net .transferFailed ?_
      rintro header payload ⟨fd', rest, -, whole, -⟩
      exact wrote whole

/-- The string at the start of a payload. -/
def textOf (payload : List UInt8) : List Char := (payload.takeWhile (· ≠ 0)).map fun b => Char.ofNat b.toNat

theorem cString_terminated (payload : List UInt8) : cString (payload ++ [0]) = .ok (textOf payload) := by
  have same : (payload ++ [0]).takeWhile (· ≠ 0) = payload.takeWhile (· ≠ 0) := by
    rw [List.takeWhile_append]
    split
    · rename_i all
      rw [List.takeWhile_cons_of_neg (by simp), List.append_nil]
      exact ((List.takeWhile_prefix _).eq_of_length all).symm
    · rfl
  unfold cString
  rw [if_pos (by simp), same]
  rfl

variable {trig : Trigonometry} {memory : CorrectionMemory} {net : Exchange} {payload : List UInt8}
variable {sdk after : PandarGeneralSdk} {s t : Correction} {text : List Char}

theorem loadFromDevice_replied (replies : net.Replies payload) :
    loadFromDevice trig net sdk = loadCalibration trig (textOf payload) sdk.pandarGeneral >>= fun s =>
      .ok { sdk with correctionContent := textOf payload, pandarGeneral := s } := by
  obtain ⟨header, answers, noError⟩ := replies
  have ways := getLidarCalibration_cases net
  unfold loadFromDevice
  generalize tcpCommandGetLidarCalibration net = result at ways
  cases ways with
  | @answer header' payload' answers' =>
    obtain ⟨rfl, rfl⟩ := answers.unique answers'
    dsimp only
    rw [if_pos (by rw [noError]; rfl), cString_terminated]
    rfl
  | failure silent => exact absurd answers (silent _ _)

theorem loadFromDevice_silent (silent : ∀ payload, ¬ net.Replies payload) : loadFromDevice trig net sdk = .ok sdk := by
  have ways := getLidarCalibration_cases net
  unfold loadFromDevice
  generalize tcpCommandGetLidarCalibration net = result at ways
  cases ways with
  | @answer header payload answers =>
    dsimp only
    refine if_neg ?_
    intro noError
    have zero : header.retCode.toNat = 0 := by exact_mod_cast noError
    exact silent payload ⟨header, answers, UInt8.toNat_inj.mp zero⟩
  | failure => rfl

/-! ### Loading texts -/

/-- Loading one text after another. -/
def loadTexts (trig : Trigonometry) (texts : List (List Char)) (s : Correction) : Except CorrectionFault Correction :=
  texts.foldlM (fun s text => do let (_, s) ← loadCorrectionFile trig text s; return s) s

/-- The same tables under another flag. -/
def Correction.withFlag (s : Correction) (flag : Bool) : Correction := { s with gotLidarCorrectionFlag := flag }

theorem loadCorrectionFile_withFlag (s : Correction) (flag : Bool) :
    loadCorrectionFile trig text (s.withFlag flag) =
      (loadCorrectionFile trig text s).map fun (ret, t) => (ret, t.withFlag flag) := by
  unfold loadCorrectionFile
  cases parseCorrectionLines .fresh (TextStream.lines text).tail with
  | error fault => rfl
  | ok locals =>
    simp only [Except.ok_bind]
    split <;> rfl

/-- The texts change the tables alike under either flag. -/
theorem loadTexts_withFlag {texts : List (List Char)} (loaded : loadTexts trig texts s = .ok t) (flag : Bool) :
    loadTexts trig texts (s.withFlag flag) = .ok (t.withFlag flag) := by
  induction texts generalizing s with
  | nil =>
    cases loaded
    rfl
  | cons text texts ih =>
    obtain ⟨mid, first, rest⟩ := Except.bind_ok loaded
    obtain ⟨⟨ret, u⟩, parsed, same⟩ := Except.bind_ok first
    cases same
    have other : loadCorrectionFile trig text (s.withFlag flag) = .ok (ret, mid.withFlag flag) := by
      rw [loadCorrectionFile_withFlag, parsed]
      rfl
    unfold loadTexts
    rw [List.foldlM_cons, other]
    exact ih rest

theorem loadTexts_append {texts later : List (List Char)} {u : Correction} (first : loadTexts trig texts s = .ok t)
    (rest : loadTexts trig later t = .ok u) : loadTexts trig (texts ++ later) s = .ok u := by
  unfold loadTexts at first rest ⊢
  rw [List.foldlM_append, first]
  exact rest

theorem loadCorrectionFile_flag {ret : Int} (loaded : loadCorrectionFile trig text s = .ok (ret, t)) :
    t.gotLidarCorrectionFlag = s.gotLidarCorrectionFlag := by
  obtain ⟨locals, -, loaded⟩ := Except.bind_ok loaded
  split at loaded
  · cases loaded
    rfl
  · cases loaded

theorem loadTexts_one {ret : Int} (loaded : loadCorrectionFile trig text s = .ok (ret, t)) : loadTexts trig [text] s = .ok t := by
  unfold loadTexts
  rw [List.foldlM_cons, loaded]
  rfl

/-- One text loaded, and the flag set. -/
theorem loadCalibration_ok (loaded : loadCalibration trig text s = .ok t) :
    ∃ u, loadTexts trig [text] s = .ok u ∧ t = u.withFlag true := by
  obtain ⟨⟨ret, u⟩, parsed, same⟩ := Except.bind_ok loaded
  obtain ⟨rfl, -⟩ := loadCorrectionFile_loaded parsed
  cases same
  exact ⟨u, loadTexts_one parsed, rfl⟩

/-! ### Runs -/

inductive CalibrationCall where
  | getCalibrationFromDevice (memory : CorrectionMemory) (net : Exchange)
  | pushScanPacket (memory : CorrectionMemory) (packet : Nat → UInt8) (packets : List PandarPacketMsg)
  | loadLidarCorrectionFile (correctionContent : List Char)

def calibrationStep (trig : Trigonometry) (sdk : PandarGeneralSdk) : CalibrationCall → Except CorrectionFault PandarGeneralSdk
  | .getCalibrationFromDevice memory net => getCalibrationFromDevice trig memory net sdk
  | .pushScanPacket memory packet packets => do
    let (s, _) ← pushScan trig memory packet sdk.pandarGeneral packets
    return { sdk with pandarGeneral := s }
  | .loadLidarCorrectionFile correctionContent => do
    let (_, s) ← loadCorrectionFile trig correctionContent sdk.pandarGeneral
    return { sdk with pandarGeneral := s }

/-- Whose text it is: the sensor's reply, the file or packet used in its place, or the caller's own. -/
inductive Origin where
  | reply
  | fallback
  | given
  deriving DecidableEq

/-- What the file on disk reads as. -/
def CorrectionMemory.FileText (memory : CorrectionMemory) (text : List Char) : Prop :=
  ∃ content, memory.correctionFile = some content ∧ cString (content ++ memory.heap) = .ok text

/-- What the text in a correction packet reads as. -/
def CorrectionMemory.PacketText (memory : CorrectionMemory) (msg : PandarPacketMsg) (text : List Char) : Prop :=
  correctionLength msg.data = .ok msg.size ∧ cString ((msg.data.drop 8).take msg.size ++ memory.stack) = .ok text

/-- A text and where it is from. -/
abbrev Load := Origin × List Char

/-- What a call loads and what it makes of the flag: a reply always, anything in its place only while the flag is
clear. Only the first correction packet of a scan counts. -/
inductive CalibrationCall.Loads (tcpCommandClient : Bool) : Bool → CalibrationCall → Option Load → Bool → Prop
  | reply {flag : Bool} {memory : CorrectionMemory} {net : Exchange} {payload : List UInt8}
      (client : tcpCommandClient = true) (replies : net.Replies payload) :
      Loads tcpCommandClient flag (.getCalibrationFromDevice memory net) (some (.reply, textOf payload)) true
  | disk {memory : CorrectionMemory} {net : Exchange} {text : List Char} (client : tcpCommandClient = true)
      (silent : ∀ payload, ¬ net.Replies payload) (file : memory.FileText text) :
      Loads tcpCommandClient false (.getCalibrationFromDevice memory net) (some (.fallback, text)) true
  | nothing {flag : Bool} {memory : CorrectionMemory} {net : Exchange}
      (silent : tcpCommandClient = true → ∀ payload, ¬ net.Replies payload)
      (settled : tcpCommandClient = true → flag = true ∨ memory.correctionFile = none) :
      Loads tcpCommandClient flag (.getCalibrationFromDevice memory net) none flag
  | packet {memory : CorrectionMemory} {packet : Nat → UInt8} {packets : List PandarPacketMsg} {msg : PandarPacketMsg}
      {text : List Char} (first : packets.find? (·.isCorrection) = some msg) (read : memory.PacketText msg text) :
      Loads tcpCommandClient false (.pushScanPacket memory packet packets) (some (.fallback, text)) true
  | file {memory : CorrectionMemory} {packet : Nat → UInt8} {packets : List PandarPacketMsg} {msg : PandarPacketMsg}
      {text : List Char} (first : packets.find? (·.isCorrection) = some msg)
      (wrong : correctionLength msg.data ≠ .ok msg.size) (file : memory.FileText text) :
      Loads tcpCommandClient false (.pushScanPacket memory packet packets) (some (.fallback, text)) true
  | noFile {memory : CorrectionMemory} {packet : Nat → UInt8} {packets : List PandarPacketMsg} {msg : PandarPacketMsg}
      (first : packets.find? (·.isCorrection) = some msg) (wrong : correctionLength msg.data ≠ .ok msg.size)
      (missing : memory.correctionFile = none) :
      Loads tcpCommandClient false (.pushScanPacket memory packet packets) none true
  | ignored {flag : Bool} {memory : CorrectionMemory} {packet : Nat → UInt8} {packets : List PandarPacketMsg}
      (settled : flag = true ∨ packets.find? (·.isCorrection) = none) :
      Loads tcpCommandClient flag (.pushScanPacket memory packet packets) none flag
  | given {flag : Bool} {correctionContent : List Char} :
      Loads tcpCommandClient flag (.loadLidarCorrectionFile correctionContent) (some (.given, correctionContent)) flag

/-- The flag and the loads of a run, without the tables. -/
inductive LoadRun (tcpCommandClient : Bool) : Bool → List CalibrationCall → List (Option Load) → Bool → Prop
  | nil {flag : Bool} : LoadRun tcpCommandClient flag [] [] flag
  | cons {flag between after : Bool} {call : CalibrationCall} {calls : List CalibrationCall} {load : Option Load}
      {loads : List (Option Load)} (first : call.Loads tcpCommandClient flag load between)
      (rest : LoadRun tcpCommandClient between calls loads after) :
      LoadRun tcpCommandClient flag (call :: calls) (load :: loads) after

variable {client flag between : Bool} {call : CalibrationCall} {calls : List CalibrationCall} {load : Option Load}
variable {loads : List (Option Load)}

theorem CalibrationCall.Loads.settled (loads : call.Loads client true load flag) :
    flag = true ∧ ∀ l ∈ load, l.1 ≠ .fallback := by
  cases loads with
  | reply => exact ⟨rfl, by rintro l ⟨⟩ ⟨⟩⟩
  | nothing => exact ⟨rfl, by rintro l ⟨⟩⟩
  | ignored => exact ⟨rfl, by rintro l ⟨⟩⟩
  | given => exact ⟨rfl, by rintro l ⟨⟩ ⟨⟩⟩

theorem CalibrationCall.Loads.settles {l : Load} (loads : call.Loads client flag (some l) between) (taken : l.1 ≠ .given) :
    between = true := by
  cases loads with
  | reply => rfl
  | disk => rfl
  | packet => rfl
  | file => rfl
  | given => exact absurd rfl taken

/-- Once the flag is set nothing is taken in place of a reply. -/
theorem LoadRun.settled (run : LoadRun client true calls loads flag) :
    flag = true ∧ ∀ l ∈ loads.reduceOption, l.1 ≠ .fallback := by
  induction loads generalizing calls with
  | nil =>
    cases run
    exact ⟨rfl, by rintro l ⟨⟩⟩
  | cons load loads ih =>
    cases run with
    | cons first rest =>
      obtain ⟨rfl, noFallback⟩ := first.settled
      obtain ⟨same, later⟩ := ih rest
      refine ⟨same, ?_⟩
      cases load with
      | none => rwa [List.reduceOption_cons_of_none]
      | some l =>
        rw [List.reduceOption_cons_of_some]
        exact List.forall_mem_cons.mpr ⟨noFallback l rfl, later⟩

/-- In front of a fallback there are only texts the caller has given. -/
theorem LoadRun.order (run : LoadRun client flag calls loads between) :
    loads.reduceOption.Pairwise fun earlier later => later.1 = .fallback → earlier.1 = .given := by
  induction run with
  | nil => exact .nil
  | @cons start between after call calls load loads first rest ih =>
    cases load with
    | none => rwa [List.reduceOption_cons_of_none]
    | some l =>
      rw [List.reduceOption_cons_of_some]
      refine List.pairwise_cons.mpr ⟨?_, ih⟩
      intro later member fallback
      by_contra taken
      obtain rfl := first.settles taken
      exact rest.settled.2 later member fallback

/-! ### The calls of the driver -/

/-- The tables after the texts, and the flag as it is left. -/
def Loaded (trig : Trigonometry) (texts : List (List Char)) (s t : Correction) : Prop :=
  ∃ u, loadTexts trig texts s = .ok u ∧ t = u.withFlag t.gotLidarCorrectionFlag

theorem Loaded.refl (s : Correction) : Loaded trig [] s s := ⟨s, rfl, rfl⟩

theorem Loaded.trans {texts later : List (List Char)} {u : Correction} (first : Loaded trig texts s t)
    (rest : Loaded trig later t u) : Loaded trig (texts ++ later) s u := by
  obtain ⟨mid, loaded, same⟩ := first
  obtain ⟨last, loadedLater, sameLater⟩ := rest
  have back : t.withFlag mid.gotLidarCorrectionFlag = mid := by
    rw [same]
    rfl
  have after := loadTexts_withFlag loadedLater mid.gotLidarCorrectionFlag
  rw [back] at after
  refine ⟨_, loadTexts_append loaded after, ?_⟩
  conv_lhs => rw [sameLater]
  rfl

theorem loaded_of_calibration (loaded : loadCalibration trig text s = .ok t) :
    Loaded trig [text] s t ∧ t.gotLidarCorrectionFlag = true := by
  obtain ⟨u, texts, rfl⟩ := loadCalibration_ok loaded
  exact ⟨⟨u, texts, rfl⟩, rfl⟩

theorem loadFromDisk_cases (loaded : loadFromDisk trig memory s = .ok t) :
    memory.correctionFile = none ∧ t = s ∨
      ∃ text, memory.FileText text ∧ Loaded trig [text] s t ∧ t.gotLidarCorrectionFlag = true := by
  unfold loadFromDisk at loaded
  cases file : memory.correctionFile with
  | none =>
    rw [file] at loaded
    cases loaded
    exact .inl ⟨rfl, rfl⟩
  | some content =>
    rw [file] at loaded
    obtain ⟨text, read, loaded⟩ := Except.bind_ok loaded
    obtain ⟨tables, flag⟩ := loaded_of_calibration loaded
    exact .inr ⟨text, ⟨content, file, read⟩, tables, flag⟩

theorem loadFromFile_cases (loaded : loadFromFile trig memory s = .ok t) :
    memory.correctionFile = none ∧ t = s.withFlag true ∨
      ∃ text, memory.FileText text ∧ Loaded trig [text] s t ∧ t.gotLidarCorrectionFlag = true := by
  unfold loadFromFile at loaded
  cases file : memory.correctionFile with
  | none =>
    rw [file] at loaded
    cases loaded
    exact .inl ⟨rfl, rfl⟩
  | some content =>
    rw [file] at loaded
    obtain ⟨text, read, loaded⟩ := Except.bind_ok loaded
    obtain ⟨⟨ret, u⟩, parsed, same⟩ := Except.bind_ok loaded
    cases same
    exact .inr ⟨text, ⟨content, file, read⟩, ⟨u, loadTexts_one parsed, rfl⟩, rfl⟩

theorem loadFromPacket_ok {msg : PandarPacketMsg} (fits : correctionLength msg.data = .ok msg.size)
    (loaded : loadFromPacket trig memory s msg = .ok t) :
    ∃ text, memory.PacketText msg text ∧ Loaded trig [text] s t ∧ t.gotLidarCorrectionFlag = true := by
  unfold loadFromPacket at loaded
  split at loaded
  · cases loaded
  split at loaded
  · cases loaded
  obtain ⟨text, read, loaded⟩ := Except.bind_ok loaded
  obtain ⟨tables, flag⟩ := loaded_of_calibration loaded
  exact ⟨text, ⟨fits, read⟩, tables, flag⟩

/-- What a call has loaded, and the tables and the flag it has left. -/
def Stepped (trig : Trigonometry) (client : Bool) (call : CalibrationCall) (load : Option Load) (s t : Correction) : Prop :=
  call.Loads client s.gotLidarCorrectionFlag load t.gotLidarCorrectionFlag ∧ Loaded trig (load.toList.map Prod.snd) s t

theorem pushCorrection_flag {msg : PandarPacketMsg} (pushed : pushCorrection trig memory s msg = .ok t) :
    t.gotLidarCorrectionFlag = true := by
  unfold pushCorrection at pushed
  split at pushed
  · cases pushed
    assumption
  obtain ⟨correctionLenth, -, pushed⟩ := Except.bind_ok pushed
  obtain ⟨u, -, pushed⟩ := Except.bind_ok pushed
  split at pushed
  · cases pushed
    assumption
  rcases loadFromFile_cases pushed with ⟨-, rfl⟩ | ⟨text, -, -, flag⟩
  · rfl
  · exact flag

/-- The first correction packet of a scan is the only one that counts. -/
theorem pushScan_first {packet : Nat → UInt8} {packets : List PandarPacketMsg} {handed : List PandarPacket}
    (pushed : pushScan trig memory packet s packets = .ok (t, handed)) :
    (packets.find? (·.isCorrection)).elim (.ok s) (pushCorrection trig memory s) = .ok t := by
  induction packets generalizing s handed with
  | nil =>
    cases pushed
    rfl
  | cons msg packets ih =>
    obtain ⟨first, -, pushed⟩ := Except.bind_ok pushed
    obtain ⟨mid, corrected, pushed⟩ := Except.bind_ok pushed
    obtain ⟨⟨u, later⟩, rest, same⟩ := Except.bind_ok pushed
    cases same
    have after := ih rest
    rw [List.find?_cons]
    cases correction : msg.isCorrection with
    | false =>
      rw [correction, if_neg Bool.false_ne_true] at corrected
      cases corrected
      exact after
    | true =>
      rw [correction, if_pos rfl] at corrected
      have flag := pushCorrection_flag corrected
      have done : (packets.find? (·.isCorrection)).elim (.ok mid) (pushCorrection trig memory mid) = .ok mid := by
        cases packets.find? (·.isCorrection) with
        | none => rfl
        | some msg => exact if_pos flag
      obtain rfl := Except.ok.inj (done.symm.trans after)
      exact corrected

theorem pushCorrection_steps {packet : Nat → UInt8} {packets : List PandarPacketMsg} {msg : PandarPacketMsg}
    (first : packets.find? (·.isCorrection) = some msg) (pushed : pushCorrection trig memory s msg = .ok t) :
    ∃ load, Stepped trig client (.pushScanPacket memory packet packets) load s t := by
  unfold pushCorrection at pushed
  by_cases flag : s.gotLidarCorrectionFlag = true
  · rw [if_pos flag] at pushed
    cases pushed
    exact ⟨none, .ignored (.inl flag), .refl s⟩
  rw [if_neg flag] at pushed
  have clear : s.gotLidarCorrectionFlag = false := Bool.eq_false_of_not_eq_true flag
  obtain ⟨correctionLenth, length, pushed⟩ := Except.bind_ok pushed
  obtain ⟨u, loaded, rest⟩ := Except.bind_ok pushed
  by_cases fits : correctionLenth = msg.size
  · subst fits
    rw [if_pos rfl] at loaded
    obtain ⟨text, read, tables, set⟩ := loadFromPacket_ok length loaded
    rw [if_pos set] at rest
    cases rest
    refine ⟨some (.fallback, text), ?_, tables⟩
    rw [clear, set]
    exact .packet first read
  · rw [if_neg fits] at loaded
    cases loaded
    rw [if_neg flag] at rest
    have wrong : correctionLength msg.data ≠ .ok msg.size := by
      intro same
      exact fits (Except.ok.inj (length.symm.trans same))
    rcases loadFromFile_cases rest with ⟨missing, rfl⟩ | ⟨text, file, tables, set⟩
    · refine ⟨none, ?_, s, rfl, rfl⟩
      rw [clear]
      exact .noFile first wrong missing
    · refine ⟨some (.fallback, text), ?_, tables⟩
      rw [clear, set]
      exact .file first wrong file

theorem pushScan_steps {packet : Nat → UInt8} {packets : List PandarPacketMsg} {handed : List PandarPacket}
    (pushed : pushScan trig memory packet s packets = .ok (t, handed)) :
    ∃ load, Stepped trig client (.pushScanPacket memory packet packets) load s t := by
  have counted := pushScan_first pushed
  cases first : packets.find? (·.isCorrection) with
  | none =>
    rw [first] at counted
    cases counted
    exact ⟨none, .ignored (.inr first), .refl s⟩
  | some msg =>
    rw [first] at counted
    exact pushCorrection_steps first counted

/-- The last reply of the loads, if there is one. -/
def lastReply (loads : List Load) (old : List Char) : List Char :=
  loads.foldl (fun last l => if l.1 = .reply then l.2 else last) old

theorem getCalibrationFromDevice_steps (loaded : getCalibrationFromDevice trig memory net sdk = .ok after) :
    ∃ load, Stepped trig sdk.tcpCommandClient (.getCalibrationFromDevice memory net) load sdk.pandarGeneral after.pandarGeneral ∧
      after.tcpCommandClient = sdk.tcpCommandClient ∧ after.correctionContent = lastReply load.toList sdk.correctionContent := by
  unfold getCalibrationFromDevice at loaded
  cases client : sdk.tcpCommandClient with
  | false =>
    rw [if_pos client] at loaded
    cases loaded
    exact ⟨none, ⟨.nothing (by rintro ⟨⟩) (by rintro ⟨⟩), .refl _⟩, client, rfl⟩
  | true =>
    rw [if_neg (by rw [client]; exact Bool.true_eq_false.mp)] at loaded
    obtain ⟨mid, asked, loaded⟩ := Except.bind_ok loaded
    by_cases replies : ∃ payload, net.Replies payload
    · obtain ⟨payload, replies⟩ := replies
      rw [loadFromDevice_replied replies] at asked
      obtain ⟨u, calibration, same⟩ := Except.bind_ok asked
      cases same
      obtain ⟨tables, set⟩ := loaded_of_calibration calibration
      rw [if_pos set] at loaded
      cases loaded
      refine ⟨some (.reply, textOf payload), ⟨?_, tables⟩, client, rfl⟩
      rw [set]
      exact .reply rfl replies
    · have silent : ∀ payload, ¬ net.Replies payload := fun payload reply => replies ⟨payload, reply⟩
      rw [loadFromDevice_silent silent] at asked
      cases asked
      by_cases flag : sdk.pandarGeneral.gotLidarCorrectionFlag = true
      · rw [if_pos flag] at loaded
        cases loaded
        exact ⟨none, ⟨.nothing (fun _ => silent) (fun _ => .inl flag), .refl _⟩, client, rfl⟩
      · rw [if_neg flag] at loaded
        obtain ⟨u, disk, same⟩ := Except.bind_ok loaded
        cases same
        rcases loadFromDisk_cases disk with ⟨missing, rfl⟩ | ⟨text, file, tables, set⟩
        · exact ⟨none, ⟨.nothing (fun _ => silent) (fun _ => .inr missing), .refl _⟩, client, rfl⟩
        · refine ⟨some (.fallback, text), ⟨?_, tables⟩, client, rfl⟩
          rw [Bool.eq_false_of_not_eq_true flag, set]
          exact .disk rfl silent file

theorem calibrationStep_steps (stepped : calibrationStep trig sdk call = .ok after) :
    ∃ load, Stepped trig sdk.tcpCommandClient call load sdk.pandarGeneral after.pandarGeneral ∧
      after.tcpCommandClient = sdk.tcpCommandClient ∧ after.correctionContent = lastReply load.toList sdk.correctionContent := by
  cases call with
  | getCalibrationFromDevice memory net => exact getCalibrationFromDevice_steps stepped
  | pushScanPacket memory packet packets =>
    obtain ⟨⟨t, handed⟩, pushed, same⟩ := Except.bind_ok stepped
    cases same
    obtain ⟨load, steps⟩ := @pushScan_steps _ _ _ _ sdk.tcpCommandClient _ _ _ pushed
    refine ⟨load, steps, rfl, ?_⟩
    obtain ⟨taken, -⟩ := steps
    generalize sdk.pandarGeneral.gotLidarCorrectionFlag = before, t.gotLidarCorrectionFlag = set at taken
    cases taken <;> rfl
  | loadLidarCorrectionFile correctionContent =>
    obtain ⟨⟨ret, t⟩, parsed, same⟩ := Except.bind_ok stepped
    cases same
    have flag := loadCorrectionFile_flag parsed
    refine ⟨some (.given, correctionContent), ⟨?_, t, loadTexts_one parsed, rfl⟩, rfl, rfl⟩
    show CalibrationCall.Loads _ _ _ _ t.gotLidarCorrectionFlag
    rw [flag]
    exact .given

/-- A run of calls loads texts one after another: every reply of the sensor, and one text in its place at most,
which is taken before any reply and leaves the flag set. -/
theorem calibration_sources (run : calls.foldlM (calibrationStep trig) sdk = .ok after) :
    ∃ loads, LoadRun sdk.tcpCommandClient sdk.pandarGeneral.gotLidarCorrectionFlag calls loads
        after.pandarGeneral.gotLidarCorrectionFlag ∧
      Loaded trig (loads.reduceOption.map Prod.snd) sdk.pandarGeneral after.pandarGeneral ∧
      after.correctionContent = lastReply loads.reduceOption sdk.correctionContent ∧
      loads.reduceOption.Pairwise fun earlier later => later.1 = .fallback → earlier.1 = .given := by
  suffices whole : ∃ loads, LoadRun sdk.tcpCommandClient sdk.pandarGeneral.gotLidarCorrectionFlag calls loads
        after.pandarGeneral.gotLidarCorrectionFlag ∧
      Loaded trig (loads.reduceOption.map Prod.snd) sdk.pandarGeneral after.pandarGeneral ∧
      after.correctionContent = lastReply loads.reduceOption sdk.correctionContent by
    obtain ⟨loads, accepted, tables, content⟩ := whole
    exact ⟨loads, accepted, tables, content, accepted.order⟩
  induction calls generalizing sdk with
  | nil =>
    cases run
    exact ⟨[], .nil, .refl _, rfl⟩
  | cons call calls ih =>
    rw [List.foldlM_cons] at run
    obtain ⟨mid, stepped, rest⟩ := Except.bind_ok run
    obtain ⟨load, ⟨first, firstTables⟩, client, firstContent⟩ := calibrationStep_steps stepped
    obtain ⟨loads, later, tables, content⟩ := ih rest
    rw [client] at later
    have split : (load :: loads).reduceOption = load.toList ++ loads.reduceOption := by
      cases load with
      | none => exact List.reduceOption_cons_of_none loads
      | some l => exact List.reduceOption_cons_of_some l loads
    refine ⟨load :: loads, .cons first later, ?_, ?_⟩
    · rw [split, List.map_append]
      exact firstTables.trans tables
    · rw [split, lastReply, List.foldl_append]
      rw [firstContent] at content
      exact content

/-- A reply without a text. -/
def bareReply : Exchange where
  socket := some ⟨[.piece 0x47 [0x74, 5, 0], .interrupted, .piece 0 [0, 0, 0]], .closed⟩
  wroteHeader := 8
  wroteData := 0
  stale := fun _ => 0

theorem bareReply_replies : bareReply.Replies [] :=
  ⟨⟨5, 0, 0⟩, ⟨_, [], rfl, rfl, rfl, rfl, by decide⟩, rfl⟩

/-- The file on disk first, because nobody listens, and then a reply. -/
def unreachableFirst : List CalibrationCall :=
  [.getCalibrationFromDevice ⟨[], [0], some []⟩ { bareReply with socket := none },
    .getCalibrationFromDevice ⟨[], [0], some []⟩ bareReply]

theorem calibration_sources_unreachable :
    ∃ (after : PandarGeneralSdk) (loads : List (Option Load)),
      LoadRun true false unreachableFirst loads after.pandarGeneral.gotLidarCorrectionFlag ∧
      Loaded ⟨id, id⟩ (loads.reduceOption.map Prod.snd) .empty after.pandarGeneral ∧
      after.correctionContent = lastReply loads.reduceOption [] ∧
      loads.reduceOption.Pairwise fun earlier later => later.1 = .fallback → earlier.1 = .given := by
  obtain ⟨mid, first, client⟩ : ∃ mid : PandarGeneralSdk,
      getCalibrationFromDevice ⟨id, id⟩ ⟨[], [0], some []⟩ { bareReply with socket := none } ⟨true, [], .empty⟩ = .ok mid ∧
        mid.tcpCommandClient = true := ⟨_, rfl, rfl⟩
  obtain ⟨after, second⟩ : ∃ after, getCalibrationFromDevice ⟨id, id⟩ ⟨[], [0], some []⟩ bareReply mid = .ok after := by
    unfold getCalibrationFromDevice
    rw [loadFromDevice_replied bareReply_replies, client]
    exact ⟨_, rfl⟩
  have run : unreachableFirst.foldlM (calibrationStep ⟨id, id⟩) ⟨true, [], .empty⟩ = .ok after := by
    rw [unreachableFirst, List.foldlM_cons, calibrationStep, first, Except.ok_bind, List.foldlM_cons, calibrationStep, second]
    rfl
  exact ⟨after, calibration_sources run⟩

/-! ### Saved tables as a reply -/

section Saved

variable {cfg : Config} {n : Nat}

/-- The header a saved packet carries is that of a reply to `PTC_COMMAND_GET_LIDAR_CALIBRATION`. -/
def savedHeader (cfg : Config) (n : Nat) : TcpCommandHeader := ⟨5, 0, .ofNat (saveCorrectionFile cfg n).size⟩

theorem saveCorrectionFile_framed (short : (saveCorrectionFile cfg n).size < 2 ^ 31) (rest : List UInt8) :
    Framed ((saveCorrectionFile cfg n).data ++ rest) (savedHeader cfg n) ((correctionText cfg n).toList.map toByte) rest := by
  have len : (savedHeader cfg n).len.toNat = (saveCorrectionFile cfg n).size := by
    show (UInt32.ofNat _).toNat = _
    rw [UInt32.toNat_ofNat', Nat.mod_eq_of_lt (by omega)]
  have ordered : bigEndian (savedHeader cfg n).len =
      [.ofNat ((saveCorrectionFile cfg n).size >>> 24), .ofNat ((saveCorrectionFile cfg n).size >>> 16),
        .ofNat ((saveCorrectionFile cfg n).size >>> 8), .ofNat (saveCorrectionFile cfg n).size] := by
    rw [bigEndian, len]
    show [UInt8.ofNat (_ / 256 / 256 / 256), .ofNat (_ / 256 / 256), .ofNat (_ / 256), .ofNat _] = _
    simp only [Nat.div_div_eq_div_mul, Nat.shiftRight_eq_div_pow]
  constructor
  · rw [ordered]
    rfl
  · rw [len, saveCorrectionFile_size, List.length_map]
  · rwa [len]

theorem Framed.append {stream payload rest : List UInt8} {header : TcpCommandHeader}
    (framed : Framed stream header payload rest) (behind : List UInt8) :
    Framed (stream ++ behind) header payload (rest ++ behind) where
  bytes := by
    rw [framed.bytes]
    simp only [List.cons_append, List.append_assoc]
  length := framed.length
  small := framed.small

/-- A packet that is cut off is no reply. -/
theorem not_framed_take {k : Nat} (short : (saveCorrectionFile cfg n).size < 2 ^ 31)
    (cut : k < (saveCorrectionFile cfg n).data.length) {header : TcpCommandHeader} {payload rest : List UInt8} :
    ¬ Framed ((saveCorrectionFile cfg n).data.take k) header payload rest := by
  intro framed
  have whole := framed.append ((saveCorrectionFile cfg n).data.drop k)
  rw [List.take_append_drop] at whole
  have saved : Framed ((saveCorrectionFile cfg n).data ++ []) _ _ [] := saveCorrectionFile_framed short []
  rw [List.append_nil] at saved
  obtain ⟨-, -, nothing⟩ := whole.unique saved
  have behind := congrArg List.length nothing
  rw [List.length_append, List.length_drop, List.length_nil] at behind
  omega

theorem textOf_correctionText (prints : cfg.printFloat = printFloat) :
    textOf ((correctionText cfg n).toList.map toByte) = (correctionText cfg n).toList := by
  have plain : ∀ c ∈ (correctionText cfg n).toList, TextChar c :=
    fun c member => textChar_of_mem_correctionText prints member
  have read := cString_text plain [0]
  rw [cString_terminated, cString_eq_nil.mpr rfl] at read
  exact (Except.ok.inj read).trans (List.append_nil _)

theorem replies_saved {fd : Source UInt8} {rest : List UInt8} (short : (saveCorrectionFile cfg n).size < 2 ^ 31)
    (socket : net.socket = some fd) (wrote : net.wroteHeader = 8) (whole : fd.stream = (saveCorrectionFile cfg n).data ++ rest) :
    net.Replies ((correctionText cfg n).toList.map toByte) := by
  refine ⟨savedHeader cfg n, ⟨fd, rest, socket, wrote, ?_⟩, rfl⟩
  rw [whole]
  exact saveCorrectionFile_framed short rest

theorem not_replies_broken {fd : Source UInt8} {k : Nat} (short : (saveCorrectionFile cfg n).size < 2 ^ 31)
    (socket : net.socket = some fd) (cut : k < (saveCorrectionFile cfg n).data.length)
    (broken : fd.stream = (saveCorrectionFile cfg n).data.take k) : ¬ net.Replies payload := by
  rintro ⟨header, ⟨fd', rest, opened, -, framed⟩, -⟩
  obtain rfl := Option.some.inj (socket.symm.trans opened)
  rw [broken] at framed
  exact not_framed_take short cut framed

/-- A reply with a saved text restores the tables. -/
theorem restores_of_replies (memory : CorrectionMemory) (prints : cfg.printFloat = printFloat) (few : n ≤ 64)
    (decimals : DecimalTables cfg.tables n) (client : sdk.tcpCommandClient = true)
    (replies : net.Replies ((correctionText cfg n).toList.map toByte)) :
    ∃ after, getCalibrationFromDevice trig memory net sdk = .ok after ∧ after.pandarGeneral.Restores cfg n ∧
      after.pandarGeneral.loaded = sdk.pandarGeneral.loaded ++ [(correctionText cfg n).toList] ∧
      after.pandarGeneral.gotLidarCorrectionFlag = true ∧ after.correctionContent = (correctionText cfg n).toList := by
  obtain ⟨t, parsed, restores⟩ := loadCorrectionFile_correctionText prints decimals few trig sdk.pandarGeneral
  obtain ⟨-, history⟩ := loadCorrectionFile_loaded parsed
  have loaded : loadCalibration trig (correctionText cfg n).toList sdk.pandarGeneral = .ok (t.withFlag true) := by
    unfold loadCalibration
    rw [parsed]
    rfl
  refine ⟨{ sdk with correctionContent := (correctionText cfg n).toList, pandarGeneral := t.withFlag true }, ?_,
    restores.flagged, history, rfl, rfl⟩
  unfold getCalibrationFromDevice
  rw [loadFromDevice_replied replies, textOf_correctionText prints, loaded, client]
  rfl

/-- A sensor that answers with a packet `SaveCorrectionFile` has written restores the tables it was written from,
whatever lies behind the buffers and however the stream is cut up. Of an answer that breaks off nothing is used. -/
theorem calibration_all_or_nothing (trig : Trigonometry) (memory : CorrectionMemory) {net : Exchange} {fd : Source UInt8}
    (prints : cfg.printFloat = printFloat) (few : n ≤ 64) (decimals : DecimalTables cfg.tables n)
    (client : sdk.tcpCommandClient = true) (socket : net.socket = some fd) (wrote : net.wroteHeader = 8) :
    (∀ rest, fd.stream = (saveCorrectionFile cfg n).data ++ rest →
      ∃ after, getCalibrationFromDevice trig memory net sdk = .ok after ∧ after.pandarGeneral.Restores cfg n ∧
        after.pandarGeneral.loaded = sdk.pandarGeneral.loaded ++ [(correctionText cfg n).toList] ∧
        after.pandarGeneral.gotLidarCorrectionFlag = true ∧ after.correctionContent = (correctionText cfg n).toList) ∧
    ∀ k < (saveCorrectionFile cfg n).data.length, fd.stream = (saveCorrectionFile cfg n).data.take k →
      getCalibrationFromDevice trig memory net sdk =
        getCalibrationFromDevice trig memory { net with socket := none } sdk := by
  have short : (saveCorrectionFile cfg n).size < 2 ^ 31 := by
    rw [saveCorrectionFile_size]
    exact length_correctionText prints few decimals
  refine ⟨fun rest whole => ?_, fun k cut broken => ?_⟩
  · exact restores_of_replies memory prints few decimals client (replies_saved short socket wrote whole)
  · have unreachable : ∀ payload, ¬ Exchange.Replies { net with socket := none } payload := by
      rintro payload ⟨header, ⟨fd', rest, opened, -⟩, -⟩
      cases opened
    unfold getCalibrationFromDevice
    rw [loadFromDevice_silent fun _ => not_replies_broken short socket cut broken, loadFromDevice_silent unreachable]

/-- A sensor that sends the saved tables of sixteen lasers in two pieces. -/
def sendsSaved : Exchange where
  socket := some ⟨[.piece 0x47 ((saveCorrectionFile sixteenLasers 16).data.tail), .interrupted, .piece 7 []], .closed⟩
  wroteHeader := 8
  wroteData := 0
  stale := fun _ => 0xff

theorem calibration_all_or_nothing_sixteen :
    ∃ after, getCalibrationFromDevice ⟨id, id⟩ ⟨[], [], none⟩ sendsSaved ⟨true, [], .empty⟩ = .ok after ∧
      after.pandarGeneral.Restores sixteenLasers 16 ∧
      after.pandarGeneral.loaded = [(correctionText sixteenLasers 16).toList] ∧
      after.pandarGeneral.gotLidarCorrectionFlag = true ∧
      after.correctionContent = (correctionText sixteenLasers 16).toList :=
  (calibration_all_or_nothing ⟨id, id⟩ ⟨[], [], none⟩ rfl (by decide) (sixteenLasers_decimal (by decide)) rfl rfl rfl).1 [7] rfl

end Saved

end HesaiLidar
