import HesaiLidar.Library.DecimalText

/-!
# Reading texts line by line

What `getline` and the extraction operators of an input stream deliver: lines, the columns of a line, and the
numbers in a column.
-/

namespace TextStream

open DecimalText

/-- The lines `getline` delivers. What stands behind the last newline is a line unless it is empty. -/
def lines (text : List Char) : List (List Char) :=
  let pieces := text.splitOn '\n'
  if pieces.getLast? = some [] then pieces.dropLast else pieces

/-- What the string holds after the `k`-th call of `getline` with a delimiter. A call behind the end of the line
leaves the string as it is. -/
def column (delimiter : Char) (line : List Char) (k : Nat) : List Char :=
  let pieces := line.splitOn delimiter
  pieces.getD k (pieces.getLastD [])

def isSpace (c : Char) : Bool := c ∈ [' ', '\t', '\n', '\x0b', '\x0c', '\r']

/-- Extraction of an `int`. Without a character to read the variable keeps its value, and a failed conversion
stores zero. -/
def readInt (old : Int) (text : List Char) : Int :=
  match text.dropWhile isSpace with
  | [] => old
  | rest => max (-2 ^ 31) (min ((extractInt rest).getD 0) (2 ^ 31 - 1))

/-- Extraction of a floating-point number, taken as exact. -/
def readDouble (old : Option ℚ) (text : List Char) : Option ℚ :=
  match text.dropWhile isSpace with
  | [] => old
  | rest => some ((extractFloat rest).getD 0)

theorem splitOn_unlines {ls : List (List Char)} (inside : ∀ l ∈ ls, '\n' ∉ l) :
    (ls.flatMap (· ++ ['\n'])).splitOn '\n' = ls ++ [[]] := by
  induction ls with
  | nil => rfl
  | cons l ls ih =>
    obtain ⟨first, rest⟩ := List.forall_mem_cons.mp inside
    rw [List.flatMap_cons, List.append_assoc, List.singleton_append, List.splitOn_append_cons_self_of_not_mem first,
      ih rest, List.cons_append]

theorem lines_unlines {ls : List (List Char)} (inside : ∀ l ∈ ls, '\n' ∉ l) : lines (ls.flatMap (· ++ ['\n'])) = ls := by
  unfold lines
  rw [splitOn_unlines inside]
  simp

theorem splitOn_three {delimiter : Char} {a b c : List Char} (first : delimiter ∉ a) (second : delimiter ∉ b)
    (third : delimiter ∉ c) : (a ++ delimiter :: (b ++ delimiter :: c)).splitOn delimiter = [a, b, c] := by
  rw [List.splitOn_append_cons_self_of_not_mem first, List.splitOn_append_cons_self_of_not_mem second,
    List.splitOn_eq_singleton third]

/-- A text that begins with a visible character is read from there. -/
theorem dropWhile_isSpace {text : List Char} {c : Char} (head : text.head? = some c) (visible : isSpace c = false) :
    text.dropWhile isSpace = text := by
  cases text with
  | nil => rfl
  | cons d rest =>
    obtain rfl := Option.some.inj head
    exact List.dropWhile_cons_of_neg (by simp [visible])

theorem readInt_of_extractInt {old value : Int} {text : List Char} {c : Char} (head : text.head? = some c)
    (visible : isSpace c = false) (extracted : extractInt text = some value) (low : -2 ^ 31 ≤ value)
    (high : value < 2 ^ 31) : readInt old text = value := by
  unfold readInt
  rw [dropWhile_isSpace head visible]
  cases text with
  | nil => cases head
  | cons d rest =>
    dsimp only
    rw [extracted, Option.getD_some]
    omega

theorem readDouble_of_extractFloat {old : Option ℚ} {value : ℚ} {text : List Char} {c : Char} (head : text.head? = some c)
    (visible : isSpace c = false) (extracted : extractFloat text = some value) : readDouble old text = some value := by
  unfold readDouble
  rw [dropWhile_isSpace head visible]
  cases text with
  | nil => cases head
  | cons d rest =>
    dsimp only
    rw [extracted, Option.getD_some]

end TextStream
