import HesaiLidar.Calibration.LoadCorrectionFile
import HesaiLidar.Driver.Ingest

/-!
# Correction packets

What `PushScanPacket` does with the correction packet of a scan. The text is copied into a buffer of its own
length and turned into a string as if a zero byte stood behind it.
-/

namespace HesaiLidar

open DecimalText TextStream

/-- The memory behind the two buffers, and the correction file on disk if it can be opened. -/
structure CorrectionMemory where
  stack : List UInt8
  heap : List UInt8
  correctionFile : Option (List UInt8)

/-- A string from a pointer ends in front of the first zero byte. -/
def cString (bytes : List UInt8) : Except CorrectionFault (List Char) :=
  if 0 ∈ bytes then .ok ((bytes.takeWhile (· ≠ 0)).map fun b => Char.ofNat b.toNat) else .error .unterminated

/-- The big-endian length in bytes four to seven. -/
def correctionLength (data : List UInt8) : Except CorrectionFault Nat :=
  match data.drop 4 with
  | a :: b :: c :: d :: _ => .ok (a.toNat <<< 24 + b.toNat <<< 16 + c.toNat <<< 8 + d.toNat)
  | _ => .error (.packet (.read data.length))

/-- The fallback to the file on disk, after which the flag is set whatever has happened. -/
def loadFromFile (trig : Trigonometry) (memory : CorrectionMemory) (s : Correction) : Except CorrectionFault Correction :=
  match memory.correctionFile with
  | none => .ok { s with gotLidarCorrectionFlag := true }
  | some content => do
    let text ← cString (content ++ memory.heap)
    let (_, s) ← loadCorrectionFile trig text s
    return { s with gotLidarCorrectionFlag := true }

/-- The copy of the text and its loading. A length of `2 ^ 31` or more is negative as an `int`. -/
def loadFromPacket (trig : Trigonometry) (memory : CorrectionMemory) (s : Correction) (msg : PandarPacketMsg) :
    Except CorrectionFault Correction :=
  if 2 ^ 31 ≤ msg.size then .error (.arrayAccess msg.size)
  else if msg.data.length < 8 + msg.size then .error (.packet (.read msg.data.length))
  else do
    let text ← cString ((msg.data.drop 8).take msg.size ++ memory.stack)
    let (ret, s) ← loadCorrectionFile trig text s
    return if ret ≠ 0 then s else { s with gotLidarCorrectionFlag := true }

def pushCorrection (trig : Trigonometry) (memory : CorrectionMemory) (s : Correction) (msg : PandarPacketMsg) :
    Except CorrectionFault Correction :=
  if s.gotLidarCorrectionFlag then .ok s
  else do
    let correctionLenth ← correctionLength msg.data
    let s ← (if correctionLenth = msg.size then loadFromPacket trig memory s msg else .ok s)
    if s.gotLidarCorrectionFlag then return s else loadFromFile trig memory s

/-- `PushScanPacket` with its effect on the tables; `packet` is the old contents of the packet on the stack. -/
def pushScan (trig : Trigonometry) (memory : CorrectionMemory) (packet : Nat → UInt8) (s : Correction) :
    List PandarPacketMsg → Except CorrectionFault (Correction × List PandarPacket)
  | [] => .ok (s, [])
  | msg :: packets => do
    let handed ← (pushScanMessage packet msg).mapError CorrectionFault.packet
    let s ← (if msg.isCorrection then pushCorrection trig memory s msg else .ok s)
    let (s, later) ← pushScan trig memory packet s packets
    return (s, handed.toList ++ later)

variable {trig : Trigonometry} {memory : CorrectionMemory} {packet : Nat → UInt8} {s t : Correction}
variable {msg : PandarPacketMsg} {packets front back : List PandarPacketMsg} {handed : List PandarPacket}

theorem mapError_ok {ε δ α : Type} {x : Except ε α} {f : ε → δ} {a : α} (h : x.mapError f = .ok a) : x = .ok a := by
  cases x with
  | error e => cases h
  | ok b => exact congrArg Except.ok (Except.ok.inj h)

theorem pushScan_packets (h : pushScan trig memory packet s packets = .ok (t, handed)) :
    pushScanPacket packet packets = .ok handed := by
  induction packets generalizing s handed with
  | nil =>
    obtain ⟨-, rfl⟩ := Prod.mk.inj (Except.ok.inj h)
    rfl
  | cons msg packets ih =>
    obtain ⟨first, pushed, h⟩ := Except.bind_ok h
    obtain ⟨m, -, h⟩ := Except.bind_ok h
    obtain ⟨⟨n, later⟩, rest, h⟩ := Except.bind_ok h
    obtain ⟨rfl, rfl⟩ := Prod.mk.inj (Except.ok.inj h)
    rw [pushScanPacket, mapError_ok pushed, Except.ok_bind, ih rest]
    rfl

variable (trig memory packet packets) in
theorem pushScan_cons (fits : msg.Fits) :
    ∃ handed : Option PandarPacket, ∀ s, pushScan trig memory packet s (msg :: packets) =
      (if msg.isCorrection then pushCorrection trig memory s msg else .ok s) >>= fun s =>
        pushScan trig memory packet s packets >>= fun (s, later) => .ok (s, handed.toList ++ later) := by
  obtain ⟨handed, pushed, -⟩ := pushScanMessage_ok packet fits
  refine ⟨handed, ?_⟩
  intro s
  rw [pushScan, pushed]
  rfl

variable (trig memory packet packets) in
theorem pushScan_lidar (fits : ∀ msg ∈ front, msg.Fits) (lidar : ∀ msg ∈ front, msg.isCorrection = false) :
    ∃ handed : List PandarPacket, ∀ s, pushScan trig memory packet s (front ++ packets) =
      pushScan trig memory packet s packets >>= fun (s, later) => .ok (s, handed ++ later) := by
  induction front with
  | nil =>
    refine ⟨[], fun s => ?_⟩
    rw [List.nil_append]
    cases pushScan trig memory packet s packets <;> rfl
  | cons msg front ih =>
    obtain ⟨firstFits, restFit⟩ := List.forall_mem_cons.mp fits
    obtain ⟨first, rest⟩ := List.forall_mem_cons.mp lidar
    obtain ⟨handed, cons⟩ := pushScan_cons trig memory packet (front ++ packets) firstFits
    obtain ⟨later, tail⟩ := ih restFit rest
    refine ⟨handed.toList ++ later, fun s => ?_⟩
    rw [List.cons_append, cons, first, if_neg Bool.false_ne_true, Except.ok_bind, tail]
    cases pushScan trig memory packet s packets with
    | error fault => rfl
    | ok result => simp

variable (trig memory packet) in
/-- Once the flag is set no packet changes the tables. -/
theorem pushScan_got (got : s.gotLidarCorrectionFlag = true) (fits : ∀ msg ∈ packets, msg.Fits) :
    ∃ handed, pushScan trig memory packet s packets = .ok (s, handed) := by
  induction packets with
  | nil => exact ⟨[], rfl⟩
  | cons msg packets ih =>
    obtain ⟨firstFits, restFit⟩ := List.forall_mem_cons.mp fits
    obtain ⟨handed, cons⟩ := pushScan_cons trig memory packet packets firstFits
    obtain ⟨later, rest⟩ := ih restFit
    refine ⟨handed.toList ++ later, ?_⟩
    have same : (if msg.isCorrection then pushCorrection trig memory s msg else .ok s) = .ok s := by
      split
      · exact if_pos got
      · rfl
    rw [cons, same, Except.ok_bind, rest]
    rfl

/-! ### The text in a packet -/

/-- A character that one byte holds and that does not end a string. -/
def TextChar (c : Char) : Prop := 0 < c.toNat ∧ c.toNat < 128

def toByte (c : Char) : UInt8 := .ofNat c.toNat

theorem ofNat_toByte {c : Char} (plain : TextChar c) : Char.ofNat (toByte c).toNat = c := by
  obtain ⟨-, below⟩ := plain
  unfold toByte
  rw [UInt8.toNat_ofNat', Nat.mod_eq_of_lt (by omega), Char.ofNat_toNat]

theorem toByte_ne_zero {c : Char} (plain : TextChar c) : toByte c ≠ 0 := by
  obtain ⟨above, below⟩ := plain
  intro zero
  have value := congrArg UInt8.toNat zero
  unfold toByte at value
  rw [UInt8.toNat_ofNat', Nat.mod_eq_of_lt (by omega)] at value
  exact Nat.ne_of_gt above value

theorem textChar_of_numeral {c : Char} (numeral : Numeral c) : TextChar c := by
  obtain ⟨low, high⟩ := numeral.ascii
  exact ⟨by omega, by omega⟩

theorem textChar_of_mem_correctionRow {elev azimuth : ℚ} {i : Nat} {c : Char} (member : c ∈ correctionRow elev azimuth i) :
    TextChar c := by
  unfold correctionRow at member
  simp only [List.mem_append, List.mem_cons] at member
  rcases member with id | rfl | first | rfl | second
  · exact textChar_of_numeral (numeral_of_mem_digits id)
  · exact ⟨by decide, by decide⟩
  · exact textChar_of_numeral (numeral_of_mem_formatG first)
  · exact ⟨by decide, by decide⟩
  · exact textChar_of_numeral (numeral_of_mem_formatG second)

theorem textChar_of_mem_correctionHeader {c : Char} (member : c ∈ correctionHeader) : TextChar c := by
  have all : correctionHeader.all (fun c => 0 < c.toNat ∧ c.toNat < 128) = true := by decide
  have plain := List.all_eq_true.mp all c member
  rwa [decide_eq_true_eq] at plain

theorem textChar_of_mem_correctionText {cfg : Config} {n : Nat} (prints : cfg.printFloat = printFloat) {c : Char}
    (member : c ∈ (correctionText cfg n).toList) : TextChar c := by
  rw [correctionText_toList prints] at member
  obtain ⟨line, among, inside⟩ := List.mem_flatMap.mp member
  rcases List.mem_append.mp inside with inLine | newline
  · rcases List.mem_cons.mp among with rfl | row
    · exact textChar_of_mem_correctionHeader inLine
    · obtain ⟨i, -, rfl⟩ := List.mem_map.mp row
      exact textChar_of_mem_correctionRow inLine
  · obtain rfl := List.mem_singleton.mp newline
    exact ⟨by decide, by decide⟩

theorem length_formatG_of_floatDecimal {q : ℚ} (decimal : FloatDecimal q) : (formatG 6 q).length ≤ 137 := by
  obtain ⟨m, e, small, range, rfl⟩ := decimal
  exact length_formatG_le (k := 50) (by decide) small range

theorem length_correctionRow_le {elev azimuth : ℚ} {i : Nat} (elevDecimal : FloatDecimal elev)
    (azimuthDecimal : FloatDecimal azimuth) (small : i < 64) : (correctionRow elev azimuth i).length ≤ 278 := by
  have id : (digits (i + 1)).length ≤ 2 := length_digits_le (by decide) (by omega)
  have first := length_formatG_of_floatDecimal elevDecimal
  have second := length_formatG_of_floatDecimal azimuthDecimal
  unfold correctionRow
  simp only [List.length_append, List.length_cons]
  omega

theorem length_flatMap_le {α β : Type} {l : List α} {f : α → List β} {k : Nat} (bound : ∀ a ∈ l, (f a).length ≤ k) :
    (l.flatMap f).length ≤ l.length * k := by
  induction l with
  | nil => simp
  | cons a l ih =>
    obtain ⟨first, rest⟩ := List.forall_mem_cons.mp bound
    have tail := ih rest
    rw [List.flatMap_cons, List.length_append, List.length_cons, Nat.add_mul]
    omega

/-- The text of at most 64 lasers is far shorter than what an `int` counts. -/
theorem length_correctionText {cfg : Config} {n : Nat} (prints : cfg.printFloat = printFloat) (few : n ≤ 64)
    (decimals : DecimalTables cfg.tables n) : (correctionText cfg n).toList.length < 2 ^ 31 := by
  have header : correctionHeader.length = 26 := rfl
  have rows := length_flatMap_le (l := List.range n)
    (f := fun i => correctionRow (cfg.tables.elevAngle i) (cfg.tables.horizatalAzimuthOffset i) i ++ ['\n']) (k := 279) <| by
      intro i member
      have below := List.mem_range.mp member
      obtain ⟨elevDecimal, azimuthDecimal⟩ := decimals i below
      have row := length_correctionRow_le elevDecimal azimuthDecimal (Nat.lt_of_lt_of_le below few)
      rw [List.length_append, List.length_singleton]
      omega
  rw [List.length_range] at rows
  rw [correctionText_toList prints, List.flatMap_cons, List.flatMap_map, List.length_append, List.length_append, header,
    List.length_singleton]
  have total : n * 279 ≤ 64 * 279 := Nat.mul_le_mul_right 279 few
  omega

/-! ### Round trip -/

theorem saveCorrectionFile_data (cfg : Config) (n : Nat) :
    (saveCorrectionFile cfg n).data.drop 8 = (correctionText cfg n).toList.map toByte := rfl

theorem saveCorrectionFile_size (cfg : Config) (n : Nat) :
    (saveCorrectionFile cfg n).size = (correctionText cfg n).toList.length := List.length_map _

theorem correctionLength_saveCorrectionFile {cfg : Config} {n : Nat} (short : (correctionText cfg n).toList.length < 2 ^ 31) :
    correctionLength (saveCorrectionFile cfg n).data = .ok (saveCorrectionFile cfg n).size := by
  rw [← saveCorrectionFile_size] at short
  have header : (saveCorrectionFile cfg n).data.drop 4 =
      .ofNat ((saveCorrectionFile cfg n).size >>> 24) :: .ofNat ((saveCorrectionFile cfg n).size >>> 16) ::
        .ofNat ((saveCorrectionFile cfg n).size >>> 8) :: .ofNat (saveCorrectionFile cfg n).size ::
          (saveCorrectionFile cfg n).data.drop 8 := rfl
  unfold correctionLength
  rw [header]
  refine congrArg Except.ok ?_
  simp only [UInt8.toNat_ofNat', Nat.shiftLeft_eq, Nat.shiftRight_eq_div_pow]
  omega

theorem cString_text {text : List Char} (plain : ∀ c ∈ text, TextChar c) (behind : List UInt8) :
    cString (text.map toByte ++ behind) = (cString behind).map (text ++ ·) := by
  have noZero : 0 ∉ text.map toByte := by
    intro member
    obtain ⟨c, inside, zero⟩ := List.mem_map.mp member
    exact toByte_ne_zero (plain c inside) zero
  have nonzero : ∀ b ∈ text.map toByte, decide (b ≠ 0) = true := by
    intro b member
    apply decide_eq_true
    rintro rfl
    exact noZero member
  have back : (text.map toByte).map (fun b => Char.ofNat b.toNat) = text := by
    rw [List.map_map]
    exact (List.map_congr_left fun c inside => ofNat_toByte (plain c inside)).trans (List.map_id text)
  unfold cString
  rw [List.takeWhile_append_of_pos nonzero, List.map_append, back]
  by_cases zero : 0 ∈ behind
  · rw [if_pos (List.mem_append_right _ zero), if_pos zero]
    rfl
  · rw [if_neg fun member => (List.mem_append.mp member).elim noZero zero, if_neg zero]
    rfl

/-- The driver is given the text and what stands behind the buffer up to the next zero byte. -/
theorem pushCorrection_saveCorrectionFile {cfg : Config} {n : Nat} (prints : cfg.printFloat = printFloat) (few : n ≤ 64)
    (decimals : DecimalTables cfg.tables n) (fresh : s.gotLidarCorrectionFlag = false) :
    pushCorrection trig memory s (saveCorrectionFile cfg n) =
      cString memory.stack >>= fun behind =>
        loadCorrectionFile trig ((correctionText cfg n).toList ++ behind) s >>= fun (_, t) =>
          .ok { t with gotLidarCorrectionFlag := true } := by
  have short := length_correctionText prints few decimals
  have sized : ¬ 2 ^ 31 ≤ (saveCorrectionFile cfg n).size := by
    rw [saveCorrectionFile_size]
    exact Nat.not_le_of_lt short
  have whole : (saveCorrectionFile cfg n).data.length = 8 + (saveCorrectionFile cfg n).size := List.length_append
  have text : ((saveCorrectionFile cfg n).data.drop 8).take (saveCorrectionFile cfg n).size =
      (correctionText cfg n).toList.map toByte := by
    rw [saveCorrectionFile_data, saveCorrectionFile_size]
    exact List.take_of_length_le (Nat.le_of_eq (List.length_map _))
  unfold pushCorrection
  rw [fresh, if_neg Bool.false_ne_true, correctionLength_saveCorrectionFile short, Except.ok_bind, if_pos rfl]
  unfold loadFromPacket
  rw [if_neg sized, if_neg (by omega), text, cString_text fun c member => textChar_of_mem_correctionText prints member]
  cases cString memory.stack with
  | error fault => rfl
  | ok behind =>
    simp only [Except.map, Except.ok_bind]
    cases loaded : loadCorrectionFile trig ((correctionText cfg n).toList ++ behind) s with
    | error fault => rfl
    | ok result =>
      obtain ⟨ret, t⟩ := result
      obtain ⟨rfl, -⟩ := loadCorrectionFile_loaded loaded
      rfl

/-- A scan with a saved correction table restores the table, from exactly the text that was saved. -/
def CorrectionRoundTrip (trig : Trigonometry) (memory : CorrectionMemory) (packet : Nat → UInt8) (s : Correction)
    (cfg : Config) (n : Nat) (front back : List PandarPacketMsg) : Prop :=
  ∃ t handed, pushScan trig memory packet s (front ++ saveCorrectionFile cfg n :: back) = .ok (t, handed) ∧
    t.loaded = s.loaded ++ [(correctionText cfg n).toList] ∧ t.Restores cfg n ∧ t.gotLidarCorrectionFlag = true

theorem saveCorrectionFile_fits (cfg : Config) (n : Nat) : (saveCorrectionFile cfg n).Fits where
  magic := ⟨0x47, _, rfl, fun _ => List.cons_ne_nil _ _⟩
  inside := by
    intro lidar
    rw [saveCorrectionFile_isCorrection] at lidar
    cases lidar

theorem Correction.Restores.flagged {t : Correction} {cfg : Config} {n : Nat} (restores : t.Restores cfg n) :
    Correction.Restores { t with gotLidarCorrectionFlag := true } cfg n :=
  ⟨restores.elevAngleMap, restores.horizatalAzimuthOffsetMap, restores.sinElevationMap, restores.cosElevationMap⟩

theorem correctionRoundTrip_iff_cString {cfg : Config} {n : Nat} (prints : cfg.printFloat = printFloat) (few : n ≤ 64)
    (decimals : DecimalTables cfg.tables n) (fresh : s.gotLidarCorrectionFlag = false)
    (frontFits : ∀ msg ∈ front, msg.Fits) (lidar : ∀ msg ∈ front, msg.isCorrection = false)
    (backFits : ∀ msg ∈ back, msg.Fits) :
    CorrectionRoundTrip trig memory packet s cfg n front back ↔ cString memory.stack = .ok [] := by
  obtain ⟨before, lidarOnly⟩ := pushScan_lidar trig memory packet (saveCorrectionFile cfg n :: back) frontFits lidar
  obtain ⟨first, cons⟩ := pushScan_cons trig memory packet back (saveCorrectionFile_fits cfg n)
  unfold CorrectionRoundTrip
  rw [lidarOnly, cons, saveCorrectionFile_isCorrection, if_pos rfl,
    pushCorrection_saveCorrectionFile prints few decimals fresh]
  constructor
  · rintro ⟨t, handed, pushed, loaded, -⟩
    obtain ⟨⟨r, scan⟩, scanned, last⟩ := Except.bind_ok pushed
    obtain ⟨flagged, corrected, rested⟩ := Except.bind_ok scanned
    obtain ⟨⟨t', tail⟩, pushedBack, same⟩ := Except.bind_ok rested
    obtain ⟨behind, read, corrected⟩ := Except.bind_ok corrected
    obtain ⟨⟨ret, u⟩, parsed, corrected⟩ := Except.bind_ok corrected
    cases last
    cases same
    cases corrected
    obtain ⟨-, history⟩ := loadCorrectionFile_loaded parsed
    -- The rest of the scan comes too late to change what was loaded.
    obtain ⟨later, rest⟩ := pushScan_got trig memory packet (s := { u with gotLidarCorrectionFlag := true }) rfl backFits
    rw [rest] at pushedBack
    cases pushedBack
    have same : s.loaded ++ [(correctionText cfg n).toList ++ behind] = s.loaded ++ [(correctionText cfg n).toList] :=
      history.symm.trans loaded
    obtain ⟨whole, -⟩ := List.cons.inj (List.append_cancel_left same)
    obtain rfl := List.append_right_eq_self.mp whole
    exact read
  · intro terminated
    obtain ⟨t, parsed, restores⟩ := loadCorrectionFile_correctionText prints decimals few trig s
    obtain ⟨-, history⟩ := loadCorrectionFile_loaded parsed
    obtain ⟨later, rest⟩ := pushScan_got trig memory packet (s := { t with gotLidarCorrectionFlag := true }) rfl backFits
    rw [terminated, Except.ok_bind, List.append_nil, parsed, Except.ok_bind, Except.ok_bind, rest]
    exact ⟨_, _, rfl, history, restores.flagged, rfl⟩

theorem cString_eq_nil {bytes : List UInt8} : cString bytes = .ok [] ↔ bytes.head? = some 0 := by
  unfold cString
  cases bytes with
  | nil => simp
  | cons b bytes =>
    by_cases zero : b = 0
    · subst zero
      simp
    · rw [List.takeWhile_cons_of_pos (by simpa using zero), List.map_cons]
      simp only [List.head?_cons, Option.some.injEq, zero, iff_false]
      split <;> rintro ⟨⟩

/-- A scan restores the saved table exactly when the byte behind the buffer happens to be zero, because
`std::string(buffer)` looks for the end of a text that was copied without one. -/
theorem correction_round_trip (trig : Trigonometry) (memory : CorrectionMemory) (packet : Nat → UInt8) {cfg : Config}
    {n : Nat} {s : Correction} {front back : List PandarPacketMsg} (prints : cfg.printFloat = printFloat) (few : n ≤ 64)
    (decimals : DecimalTables cfg.tables n) (fresh : s.gotLidarCorrectionFlag = false)
    (frontFits : ∀ msg ∈ front, msg.Fits) (lidar : ∀ msg ∈ front, msg.isCorrection = false)
    (backFits : ∀ msg ∈ back, msg.Fits) :
    CorrectionRoundTrip trig memory packet s cfg n front back ↔ memory.stack.head? = some 0 := by
  rw [correctionRoundTrip_iff_cString prints few decimals fresh frontFits lidar backFits, cString_eq_nil]

def sixteenLasers : Config :=
  { Config.plain .pandarXT16 0 0 with
    printFloat := printFloat
    tables := { Tables.zero with elevAngle := fun i => 15 - 2 * i, horizatalAzimuthOffset := fun _ => -83 / 100 } }

def Correction.empty : Correction := ⟨fun _ => none, fun _ => none, [], [], false, []⟩

theorem sixteenLasers_decimal {n : Nat} (few : n ≤ 16) : DecimalTables sixteenLasers.tables n := by
  intro i below
  constructor
  · refine ⟨15 - 2 * i, 0, abs_lt.mpr ⟨by omega, by omega⟩, by decide, ?_⟩
    simp [sixteenLasers]
  · refine ⟨-83, -2, by decide, by decide, ?_⟩
    norm_num [sixteenLasers]

theorem correction_round_trip_sixteen :
    CorrectionRoundTrip ⟨id, id⟩ ⟨[0], [], none⟩ (fun _ => 0) .empty sixteenLasers 16 [] [] :=
  (correction_round_trip ⟨id, id⟩ ⟨[0], [], none⟩ (fun _ => 0) rfl (by decide) (sixteenLasers_decimal (by decide)) rfl
    (List.forall_mem_nil _) (List.forall_mem_nil _) (List.forall_mem_nil _)).mpr rfl

/-- With the bytes `2,9,9` and a zero behind the buffer the text of one laser is read as the text of two. -/
theorem correction_text_goes_on :
    sixteenLasers.printFloat = printFloat ∧ DecimalTables sixteenLasers.tables 1 ∧
      Correction.empty.gotLidarCorrectionFlag = false ∧
      ¬ CorrectionRoundTrip ⟨id, id⟩ ⟨"2,9,9".toList.map toByte ++ [0], [], none⟩ (fun _ => 0) .empty sixteenLasers 1 [] [] := by
  refine ⟨rfl, sixteenLasers_decimal (by decide), rfl, ?_⟩
  rw [correctionRoundTrip_iff_cString rfl (by decide) (sixteenLasers_decimal (by decide)) rfl (List.forall_mem_nil _)
    (List.forall_mem_nil _) (List.forall_mem_nil _), cString_eq_nil]
  decide

end HesaiLidar
