import HesaiLidar.Calibration.LoadCorrectionFile

/-!
# Which correction files load faithfully

What the lines of a correction file say, apart from how the loader reads them, and for which texts the loader
ends with exactly that in its tables. It reports success for every text.
-/

namespace HesaiLidar

open DecimalText TextStream

/-! ### What a line says -/

/-- A column of a line without the blanks in front; none behind the last column. -/
def field (line : List Char) (k : Nat) : Option (List Char) :=
  (line.splitOn ',')[k]?.map (·.dropWhile isSpace)

def azimuth (line : List Char) : Option ℚ := (field line 2).bind extractFloat

variable {line : List Char} {i : Nat}

variable {locals final : CorrectionLines} {ls : List (List Char)}

end HesaiLidar
