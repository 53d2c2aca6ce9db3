import HesaiLidar.Frame.Emission
import HesaiLidar.Library.TextStream

/-!
# LoadCorrectionFile

The angle tables a driver corrects points with and the text parser that fills them. A value nobody has written is
`none`.
-/

namespace HesaiLidar

open DecimalText TextStream

/-- Reads and writes out of bounds in the code that loads correction tables, and those of the packet path. -/
inductive CorrectionFault where
  | packet (fault : Fault)
  | arrayAccess (index : Nat)
  | unterminated
  deriving DecidableEq, Repr

/-- `General_elev_angle_map_`, `General_horizatal_azimuth_offset_map_` and the elevation maps. `loaded` is
history: the texts `LoadCorrectionFile` was called with. -/
structure Correction where
  elevAngleMap : Nat → Option ℚ
  horizatalAzimuthOffsetMap : Nat → Option ℚ
  sinElevationMap : List (Option ℚ)
  cosElevationMap : List (Option ℚ)
  gotLidarCorrectionFlag : Bool
  loaded : List (List Char)

/-- The sine and cosine of an angle in degrees, as floats. -/
structure Trigonometry where
  sinf : ℚ → ℚ
  cosf : ℚ → ℚ

/-- The locals of the loop over the lines. -/
structure CorrectionLines where
  azimuthOffset : Nat → Option ℚ
  elevAngle : Nat → Option ℚ
  lineCounter : Nat

def CorrectionLines.fresh : CorrectionLines := ⟨fun _ => none, fun _ => none, 0⟩

/-- The loop over the lines. A short line ends it, and so does a line whose id is not its number, but that line
is counted. -/
def parseCorrectionLines (locals : CorrectionLines) : List (List Char) → Except CorrectionFault CorrectionLines
  | [] => .ok locals
  | line :: rest =>
    if line.length < 5 then .ok locals
    else
      let lineCounter := locals.lineCounter + 1
      let lineId := readInt 0 (column ',' line 0)
      let elev := readDouble none (column ',' line 1)
      let azimuth := readDouble none (column ',' line 2)
      if lineId ≠ lineCounter then .ok { locals with lineCounter := lineCounter }
      else if locals.lineCounter < L64.unitNum then
        parseCorrectionLines
          { azimuthOffset := Function.update locals.azimuthOffset locals.lineCounter azimuth
            elevAngle := Function.update locals.elevAngle locals.lineCounter elev
            lineCounter := lineCounter } rest
      else .error (.arrayAccess locals.lineCounter)

/-- The tables with the counted entries taken over. -/
def Correction.take (trig : Trigonometry) (s : Correction) (locals : CorrectionLines) : Correction :=
  { s with
    elevAngleMap := fun i => if i < locals.lineCounter then locals.elevAngle i else s.elevAngleMap i
    horizatalAzimuthOffsetMap := fun i =>
      if i < locals.lineCounter then locals.azimuthOffset i else s.horizatalAzimuthOffsetMap i
    sinElevationMap := (List.range locals.lineCounter).map fun i => (locals.elevAngle i).map trig.sinf
    cosElevationMap := (List.range locals.lineCounter).map fun i => (locals.elevAngle i).map trig.cosf }

section Take

variable {trig : Trigonometry} {s : Correction} {locals : CorrectionLines} {i : Nat}

theorem take_below (below : i < locals.lineCounter) :
    (s.take trig locals).elevAngleMap i = locals.elevAngle i ∧
      (s.take trig locals).horizatalAzimuthOffsetMap i = locals.azimuthOffset i := ⟨if_pos below, if_pos below⟩

end Take

/-- The first line is skipped, and the result is always zero. -/
def loadCorrectionFile (trig : Trigonometry) (correctionContent : List Char) (s : Correction) :
    Except CorrectionFault (Int × Correction) := do
  let s := { s with loaded := s.loaded ++ [correctionContent] }
  let locals ← parseCorrectionLines .fresh (lines correctionContent).tail
  if locals.lineCounter ≤ L64.unitNum then return (0, s.take trig locals)
  else .error (.arrayAccess L64.unitNum)

/-! ### Rows -/

def correctionRow (elev azimuth : ℚ) (i : Nat) : List Char :=
  digits (i + 1) ++ ',' :: (formatG 6 elev ++ ',' :: formatG 6 azimuth)

/-- A decimal number of at most six significant digits within the range of a float. -/
def FloatDecimal (q : ℚ) : Prop := ∃ m e : Int, |m| < 10 ^ 6 ∧ |e| ≤ 50 ∧ q = m * 10 ^ e

theorem FloatDecimal.isDecimal {q : ℚ} (decimal : FloatDecimal q) : IsDecimal 6 q := by
  obtain ⟨m, e, small, -, rfl⟩ := decimal
  exact ⟨m, e, small, rfl⟩

theorem Numeral.ne_comma {c : Char} (numeral : Numeral c) : c ≠ ',' := by
  rintro rfl
  rcases numeral with h | h | h | h | h <;> cases h

theorem Numeral.visible {c : Char} (numeral : Numeral c) : isSpace c = false := by
  have range := numeral.ascii
  unfold isSpace
  apply decide_eq_false
  intro member
  simp only [List.mem_cons, List.not_mem_nil, or_false] at member
  rcases member with rfl | rfl | rfl | rfl | rfl | rfl <;> revert range <;> decide

theorem comma_not_mem_formatG (q : ℚ) : ',' ∉ formatG 6 q := fun member =>
  Numeral.ne_comma (numeral_of_mem_formatG member) rfl

theorem comma_not_mem_digits (n : Nat) : ',' ∉ digits n := fun member => Numeral.ne_comma (numeral_of_mem_digits member) rfl

theorem readDouble_formatG {q : ℚ} (decimal : FloatDecimal q) (old : Option ℚ) : readDouble old (formatG 6 q) = some q := by
  have read := extractFloat_formatG decimal.isDecimal
  have visible {c : Char} (member : c ∈ formatG 6 q) : isSpace c = false := Numeral.visible (numeral_of_mem_formatG member)
  cases text : formatG 6 q with
  | nil => exact absurd text (formatG_ne_nil 6 q)
  | cons c rest =>
    rw [text] at read visible
    exact readDouble_of_extractFloat rfl (visible List.mem_cons_self) read

theorem readInt_digits {n : Nat} (small : n < 2 ^ 31) (old : Int) : readInt old (digits n) = n := by
  have read := extractInt_digits n ends_nil.1
  rw [List.append_nil] at read
  have visible {c : Char} (member : c ∈ digits n) : isSpace c = false := Numeral.visible (numeral_of_mem_digits member)
  cases text : digits n with
  | nil => exact absurd text (digits_ne_nil n)
  | cons c rest =>
    rw [text] at read visible
    exact readInt_of_extractInt rfl (visible List.mem_cons_self) read (by omega) (by omega)

theorem splitOn_correctionRow (elev azimuth : ℚ) (i : Nat) :
    (correctionRow elev azimuth i).splitOn ',' = [digits (i + 1), formatG 6 elev, formatG 6 azimuth] :=
  splitOn_three (comma_not_mem_digits _) (comma_not_mem_formatG _) (comma_not_mem_formatG _)

theorem length_correctionRow (elev azimuth : ℚ) (i : Nat) : 5 ≤ (correctionRow elev azimuth i).length := by
  have id := List.length_pos_iff.mpr (digits_ne_nil (i + 1))
  have first := List.length_pos_iff.mpr (formatG_ne_nil 6 elev)
  have second := List.length_pos_iff.mpr (formatG_ne_nil 6 azimuth)
  unfold correctionRow
  simp only [List.length_append, List.length_cons]
  omega

/-- The locals after one more row. -/
def CorrectionLines.row (locals : CorrectionLines) (line : List Char) : CorrectionLines where
  azimuthOffset := Function.update locals.azimuthOffset locals.lineCounter (readDouble none (column ',' line 2))
  elevAngle := Function.update locals.elevAngle locals.lineCounter (readDouble none (column ',' line 1))
  lineCounter := locals.lineCounter + 1

theorem parseCorrectionLines_long {locals : CorrectionLines} {line : List Char} {rest : List (List Char)}
    (long : 5 ≤ line.length) (expected : readInt 0 (column ',' line 0) = (locals.lineCounter + 1 : Nat))
    (room : locals.lineCounter < L64.unitNum) :
    parseCorrectionLines locals (line :: rest) = parseCorrectionLines (locals.row line) rest := by
  rw [parseCorrectionLines, if_neg (Nat.not_lt_of_le long)]
  dsimp only
  rw [if_neg (not_not_intro expected), if_pos room]
  rfl

theorem parseCorrectionLines_row {locals : CorrectionLines} {elev azimuth : ℚ} {rest : List (List Char)}
    (elevDecimal : FloatDecimal elev) (azimuthDecimal : FloatDecimal azimuth) (room : locals.lineCounter < L64.unitNum) :
    parseCorrectionLines locals (correctionRow elev azimuth locals.lineCounter :: rest) =
      parseCorrectionLines
        { azimuthOffset := Function.update locals.azimuthOffset locals.lineCounter (some azimuth)
          elevAngle := Function.update locals.elevAngle locals.lineCounter (some elev)
          lineCounter := locals.lineCounter + 1 } rest := by
  have small : locals.lineCounter + 1 < 2 ^ 31 := Nat.lt_of_le_of_lt room (by decide)
  have columns := splitOn_correctionRow elev azimuth locals.lineCounter
  have id : readInt 0 (column ',' (correctionRow elev azimuth locals.lineCounter) 0) = (locals.lineCounter + 1 : Nat) := by
    unfold column
    rw [columns]
    exact readInt_digits small 0
  have first : readDouble none (column ',' (correctionRow elev azimuth locals.lineCounter) 1) = some elev := by
    unfold column
    rw [columns]
    exact readDouble_formatG elevDecimal none
  have second : readDouble none (column ',' (correctionRow elev azimuth locals.lineCounter) 2) = some azimuth := by
    unfold column
    rw [columns]
    exact readDouble_formatG azimuthDecimal none
  rw [parseCorrectionLines_long (length_correctionRow ..) id room, CorrectionLines.row, first, second]

structure CorrectionLines.Holds (locals : CorrectionLines) (elev azimuth : Nat → ℚ) (n : Nat) : Prop where
  lineCounter : locals.lineCounter = n
  elevAngle : ∀ i < n, locals.elevAngle i = some (elev i)
  azimuthOffset : ∀ i < n, locals.azimuthOffset i = some (azimuth i)

theorem CorrectionLines.Holds.next {locals : CorrectionLines} {elev azimuth : Nat → ℚ} {n : Nat}
    (holds : locals.Holds elev azimuth n) :
    CorrectionLines.Holds ⟨Function.update locals.azimuthOffset n (some (azimuth n)),
      Function.update locals.elevAngle n (some (elev n)), n + 1⟩ elev azimuth (n + 1) where
  lineCounter := rfl
  elevAngle := by
    intro i below
    rcases Nat.lt_succ_iff_lt_or_eq.mp below with old | rfl
    · exact (Function.update_of_ne (Nat.ne_of_lt old) ..).trans (holds.elevAngle i old)
    · exact Function.update_self ..
  azimuthOffset := by
    intro i below
    rcases Nat.lt_succ_iff_lt_or_eq.mp below with old | rfl
    · exact (Function.update_of_ne (Nat.ne_of_lt old) ..).trans (holds.azimuthOffset i old)
    · exact Function.update_self ..

theorem parseCorrectionLines_rows {elev azimuth : Nat → ℚ} {start count : Nat} {locals : CorrectionLines}
    (holds : locals.Holds elev azimuth start) (few : start + count ≤ L64.unitNum)
    (decimals : ∀ i < start + count, FloatDecimal (elev i) ∧ FloatDecimal (azimuth i)) :
    ∃ filled, parseCorrectionLines locals ((List.range' start count).map fun i => correctionRow (elev i) (azimuth i) i) =
      .ok filled ∧ filled.Holds elev azimuth (start + count) := by
  induction count generalizing start locals with
  | zero => exact ⟨locals, rfl, holds⟩
  | succ count ih =>
    obtain ⟨elevDecimal, azimuthDecimal⟩ := decimals start (by omega)
    obtain rfl := holds.lineCounter
    obtain ⟨filled, parsed, all⟩ := ih holds.next (by omega) fun i below => decimals i (by omega)
    refine ⟨filled, ?_, ?_⟩
    · rw [List.range'_succ, List.map_cons, parseCorrectionLines_row elevDecimal azimuthDecimal (by omega)]
      exact parsed
    · rwa [show locals.lineCounter + (count + 1) = locals.lineCounter + 1 + count by omega]

/-! ### The text of a table -/

/-- How a stream with its default precision prints a float. -/
def printFloat (q : ℚ) : String := .ofList (formatG 6 q)

def correctionHeader : List Char := "Laser id,Elevation,Azimuth".toList

theorem correctionText_toList {cfg : Config} (prints : cfg.printFloat = printFloat) (n : Nat) :
    (correctionText cfg n).toList = (correctionHeader :: (List.range n).map fun i =>
      correctionRow (cfg.tables.elevAngle i) (cfg.tables.horizatalAzimuthOffset i) i).flatMap (· ++ ['\n']) := by
  have header : "Laser id,Elevation,Azimuth\n".toList = correctionHeader ++ ['\n'] := rfl
  have row (i : Nat) :
      (toString (i + 1) ++ "," ++ cfg.printFloat (cfg.tables.elevAngle i) ++ "," ++
        cfg.printFloat (cfg.tables.horizatalAzimuthOffset i) ++ "\n").toList =
      correctionRow (cfg.tables.elevAngle i) (cfg.tables.horizatalAzimuthOffset i) i ++ ['\n'] := by
    rw [prints]
    simp [correctionRow, printFloat, digits]
  unfold correctionText
  rw [String.toList_append, String.toList_join, header, List.flatMap_cons, List.flatMap_map, List.flatMap_map]
  exact congrArg (correctionHeader ++ ['\n'] ++ ·) (congrArg (List.flatMap · _) (funext row))

theorem newline_not_mem_correctionRow (elev azimuth : ℚ) (i : Nat) : '\n' ∉ correctionRow elev azimuth i := by
  have numerals {c : Char} (numeral : Numeral c) : c ≠ '\n' := by
    rintro rfl
    rcases numeral with h | h | h | h | h <;> cases h
  intro member
  unfold correctionRow at member
  simp only [List.mem_append, List.mem_cons] at member
  rcases member with id | comma | first | comma | second
  · exact numerals (numeral_of_mem_digits id) rfl
  · cases comma
  · exact numerals (numeral_of_mem_formatG first) rfl
  · cases comma
  · exact numerals (numeral_of_mem_formatG second) rfl

/-- The tables and maps of a driver agree with the first `n` lasers of a configuration. -/
structure Correction.Restores (s : Correction) (cfg : Config) (n : Nat) : Prop where
  elevAngleMap : ∀ i < n, s.elevAngleMap i = some (cfg.tables.elevAngle i)
  horizatalAzimuthOffsetMap : ∀ i < n, s.horizatalAzimuthOffsetMap i = some (cfg.tables.horizatalAzimuthOffset i)
  sinElevationMap : s.sinElevationMap.length = n
  cosElevationMap : s.cosElevationMap.length = n

/-- Every number of the first `n` lasers is one a float stream prints exactly. -/
def DecimalTables (tables : Tables) (n : Nat) : Prop :=
  ∀ i < n, FloatDecimal (tables.elevAngle i) ∧ FloatDecimal (tables.horizatalAzimuthOffset i)

theorem loadCorrectionFile_correctionText {cfg : Config} {n : Nat} (prints : cfg.printFloat = printFloat)
    (decimals : DecimalTables cfg.tables n) (few : n ≤ L64.unitNum) (trig : Trigonometry) (s : Correction) :
    ∃ t, loadCorrectionFile trig (correctionText cfg n).toList s = .ok (0, t) ∧ t.Restores cfg n := by
  have fresh : CorrectionLines.fresh.Holds cfg.tables.elevAngle cfg.tables.horizatalAzimuthOffset 0 := ⟨rfl, nofun, nofun⟩
  rw [← Nat.zero_add n] at few
  obtain ⟨filled, parsed, holds⟩ := parseCorrectionLines_rows fresh few fun i below => decimals i (by omega)
  rw [← List.range_eq_range'] at parsed
  rw [Nat.zero_add] at few holds
  have inside : ∀ l ∈ correctionHeader :: (List.range n).map fun i =>
      correctionRow (cfg.tables.elevAngle i) (cfg.tables.horizatalAzimuthOffset i) i, '\n' ∉ l := by
    intro l member
    rcases List.mem_cons.mp member with rfl | row
    · decide
    · obtain ⟨i, -, rfl⟩ := List.mem_map.mp row
      exact newline_not_mem_correctionRow _ _ i
  unfold loadCorrectionFile
  rw [correctionText_toList prints, lines_unlines inside, List.tail_cons, parsed, Except.ok_bind, holds.lineCounter,
    if_pos few]
  refine ⟨_, rfl, ?_⟩
  constructor
  · intro i below
    rw [(take_below (holds.lineCounter ▸ below)).1]
    exact holds.elevAngle i below
  · intro i below
    rw [(take_below (holds.lineCounter ▸ below)).2]
    exact holds.azimuthOffset i below
  · simp [Correction.take, holds.lineCounter]
  · simp [Correction.take, holds.lineCounter]

theorem loadCorrectionFile_loaded {trig : Trigonometry} {text : List Char} {s t : Correction} {ret : Int}
    (h : loadCorrectionFile trig text s = .ok (ret, t)) : ret = 0 ∧ t.loaded = s.loaded ++ [text] := by
  obtain ⟨locals, -, h⟩ := Except.bind_ok h
  split at h
  · obtain ⟨rfl, rfl⟩ := Prod.mk.inj (Except.ok.inj h)
    exact ⟨rfl, rfl⟩
  · cases h

end HesaiLidar
