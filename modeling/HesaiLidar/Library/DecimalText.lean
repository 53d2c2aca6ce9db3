import Mathlib.Algebra.Order.Floor.Semiring
import Mathlib.Data.Int.Log
import Mathlib.Data.Rat.Floor
import Mathlib.Tactic.FieldSimp
import Mathlib.Tactic.Linarith
import Mathlib.Tactic.Ring

/-!
# Decimal texts of numbers

Printing a number with a fixed count of significant digits the way the `%g` format does, reading a number from
the front of a text the way an input stream does, and that a decimal number with few enough digits comes back
unchanged.
-/

namespace DecimalText

/-! ### Printing -/

/-- Rounding to the nearest natural number, halves to the even one. -/
def roundHalfEven (q : ℚ) : Nat :=
  let n := ⌊q⌋₊
  if q - n < 1 / 2 then n
  else if 1 / 2 < q - n then n + 1
  else if n % 2 = 0 then n
  else n + 1

/-- A mantissa and an exponent of ten without up to `fuel` trailing zeros of the mantissa. -/
def stripZeros : Nat → Nat → Int → Nat × Int
  | 0, mantissa, exponent => (mantissa, exponent)
  | fuel + 1, mantissa, exponent =>
    if mantissa % 10 = 0 then stripZeros fuel (mantissa / 10) (exponent + 1) else (mantissa, exponent)

/-- The significant digits of a positive number. -/
def significant (precision : Nat) (q : ℚ) : Nat × Int :=
  let exponent := Int.log 10 q + 1 - precision
  stripZeros precision (roundHalfEven (q / 10 ^ exponent)) exponent

def digits (n : Nat) : List Char := Nat.toDigits 10 n

def padded (width n : Nat) : List Char := (digits n).leftpad width '0'

/-- The digits in front of the last `width` ones, and these behind a point. -/
def withPoint (width n : Nat) : List Char :=
  digits (n / 10 ^ width) ++ if width = 0 then [] else '.' :: padded width (n % 10 ^ width)

def fixed (mantissa : Nat) (exponent : Int) : List Char :=
  if 0 ≤ exponent then digits (mantissa * 10 ^ exponent.toNat) else withPoint (-exponent).toNat mantissa

/-- One digit in front of the point, and a signed exponent of at least two digits. -/
def scientific (mantissa : Nat) (power : Int) : List Char :=
  withPoint ((digits mantissa).length - 1) mantissa ++
    'e' :: (if power < 0 then '-' else '+') :: padded 2 power.natAbs

def formatPositive (precision : Nat) (q : ℚ) : List Char :=
  let (mantissa, exponent) := significant precision q
  let power := exponent + (digits mantissa).length - 1
  if -4 ≤ power ∧ power < precision then fixed mantissa exponent else scientific mantissa power

def formatG (precision : Nat) (q : ℚ) : List Char :=
  if q = 0 then ['0'] else if q < 0 then '-' :: formatPositive precision (-q) else formatPositive precision q

/-! ### Reading -/

def takeSign : List Char → Int × List Char
  | '-' :: rest => (-1, rest)
  | '+' :: rest => (1, rest)
  | rest => (1, rest)

def number (ds : List Char) : Nat := Nat.ofDigitChars 10 ds 0

def spanDigits (text : List Char) : List Char × List Char := text.span Char.isDigit

/-- The digits behind a point, if there is one. -/
def takeFraction : List Char → List Char × List Char
  | '.' :: rest => spanDigits rest
  | rest => ([], rest)

/-- The power of ten that an exponent stands for; `none` when the letter has no digits behind it. -/
def takeExponent : List Char → Option Int
  | [] => some 0
  | c :: rest =>
    if c = 'e' ∨ c = 'E' then
      let (sign, rest) := takeSign rest
      let (ds, _) := spanDigits rest
      if ds = [] then none else some (sign * number ds)
    else some 0

/-- The number at the front of a text; `none` when the conversion fails. -/
def extractFloat (text : List Char) : Option ℚ :=
  let (sign, rest) := takeSign text
  let (whole, rest) := spanDigits rest
  let (fraction, rest) := takeFraction rest
  if whole ++ fraction = [] then none
  else (takeExponent rest).map fun power => sign * (number (whole ++ fraction) / 10 ^ fraction.length) * 10 ^ power

/-- The integer at the front of a text; `none` when there are no digits. -/
def extractInt (text : List Char) : Option Int :=
  let (sign, rest) := takeSign text
  let (ds, _) := spanDigits rest
  if ds = [] then none else some (sign * number ds)

example : formatG 6 (-25 / 2) = "-12.5".toList ∧ formatG 6 (1 / 80000) = "1.25e-05".toList := by decide +kernel

/-! ### Digits -/

theorem isDigit_of_mem_digits {c : Char} {n : Nat} (member : c ∈ digits n) : c.isDigit = true :=
  Nat.isDigit_of_mem_toDigits (by decide) (by decide) member

theorem digits_ne_nil (n : Nat) : digits n ≠ [] := Nat.toDigits_ne_nil

theorem number_digits (n : Nat) : number (digits n) = n := Nat.ofDigitChars_ten_toDigits

theorem number_append (front back : List Char) :
    number (front ++ back) = number front * 10 ^ back.length + number back := by
  unfold number
  rw [Nat.ofDigitChars_append, Nat.ofDigitChars_eq_ofDigitChars_zero, Nat.mul_comm]

theorem isDigit_of_mem_padded {c : Char} {width n : Nat} (member : c ∈ padded width n) : c.isDigit = true := by
  unfold padded List.leftpad at member
  rcases List.mem_append.mp member with zero | digit
  · rw [List.eq_of_mem_replicate zero]
    rfl
  · exact isDigit_of_mem_digits digit

theorem number_padded (width n : Nat) : number (padded width n) = n := by
  unfold padded List.leftpad
  rw [number_append, number_digits]
  unfold number
  rw [Nat.ofDigitChars_replicate_zero, Nat.mul_zero, Nat.zero_mul, Nat.zero_add]

theorem length_digits_le {n k : Nat} (pos : 0 < k) (small : n < 10 ^ k) : (digits n).length ≤ k :=
  (Nat.length_toDigits_le_iff (by decide) pos).mpr small

theorem length_padded {width n : Nat} (pos : 0 < width) (small : n < 10 ^ width) : (padded width n).length = width := by
  unfold padded
  rw [List.length_leftpad]
  exact Nat.max_eq_left (length_digits_le pos small)

def NoDigit (text : List Char) : Prop := ∀ c ∈ text.head?, c.isDigit = false

theorem spanDigits_append {ds rest : List Char} (all : ∀ c ∈ ds, c.isDigit = true) (stop : NoDigit rest) :
    spanDigits (ds ++ rest) = (ds, rest) := by
  unfold spanDigits
  rw [List.span_eq_takeWhile_dropWhile]
  have taken : rest.takeWhile Char.isDigit = [] := by
    cases rest with
    | nil => rfl
    | cons c rest => exact List.takeWhile_cons_of_neg (by simp [stop c rfl])
  have dropped : rest.dropWhile Char.isDigit = rest := by
    cases rest with
    | nil => rfl
    | cons c rest => exact List.dropWhile_cons_of_neg (by simp [stop c rfl])
  rw [List.takeWhile_append_of_pos all, List.dropWhile_append_of_pos all, taken, dropped, List.append_nil]

theorem takeSign_of_digit {text : List Char} {c : Char} (head : text.head? = some c) (digit : c.isDigit = true) :
    takeSign text = (1, text) := by
  cases text with
  | nil => cases head
  | cons d rest =>
    obtain rfl := Option.some.inj head
    unfold takeSign
    split
    · rename_i same
      obtain ⟨rfl, -⟩ := List.cons.inj same
      cases digit
    · rename_i same
      obtain ⟨rfl, -⟩ := List.cons.inj same
      cases digit
    · rfl

theorem head?_digits (n : Nat) (rest : List Char) : ∃ c, (digits n ++ rest).head? = some c ∧ c.isDigit = true := by
  cases ds : digits n with
  | nil => exact absurd ds (digits_ne_nil n)
  | cons c ds' =>
    refine ⟨c, rfl, ?_⟩
    apply isDigit_of_mem_digits (n := n)
    rw [ds]
    exact List.mem_cons_self

/-! ### Integers -/

/-- An integer text is read back whatever follows it, unless that is another digit. -/
theorem extractInt_digits (n : Nat) {rest : List Char} (stop : NoDigit rest) : extractInt (digits n ++ rest) = some (n : Int) := by
  obtain ⟨c, head, digit⟩ := head?_digits n rest
  unfold extractInt
  rw [takeSign_of_digit head digit]
  dsimp only
  rw [spanDigits_append (fun c member => isDigit_of_mem_digits member) stop]
  dsimp only
  rw [if_neg (digits_ne_nil _), number_digits, Int.one_mul]

/-! ### Numbers with a point -/

def Ends (text : List Char) : Prop := NoDigit text ∧ text.head? ≠ some '.'

theorem takeFraction_of_ends {rest : List Char} (ends : Ends rest) : takeFraction rest = ([], rest) := by
  unfold takeFraction
  split
  · exact absurd rfl ends.2
  · rfl

theorem extractFloat_withPoint (width mantissa : Nat) {rest : List Char} (ends : Ends rest) :
    extractFloat (withPoint width mantissa ++ rest) =
      (takeExponent rest).map fun power => (mantissa / 10 ^ width : ℚ) * 10 ^ power := by
  obtain ⟨c, head, digit⟩ := head?_digits (mantissa / 10 ^ width)
    ((if width = 0 then [] else '.' :: padded width (mantissa % 10 ^ width)) ++ rest)
  unfold extractFloat withPoint
  rw [List.append_assoc, takeSign_of_digit head digit]
  dsimp only
  have whole {text : List Char} (stop : NoDigit text) :
      spanDigits (digits (mantissa / 10 ^ width) ++ text) = (digits (mantissa / 10 ^ width), text) :=
    spanDigits_append (fun c member => isDigit_of_mem_digits member) stop
  by_cases none : width = 0
  · subst none
    rw [if_pos rfl, List.nil_append, whole ends.1]
    dsimp only
    rw [takeFraction_of_ends ends]
    dsimp only
    rw [List.append_nil, if_neg (digits_ne_nil _), number_digits]
    simp
  · have pos : 0 < width := Nat.pos_of_ne_zero none
    have low : mantissa % 10 ^ width < 10 ^ width := Nat.mod_lt _ (Nat.pow_pos (by decide))
    have point : NoDigit ('.' :: padded width (mantissa % 10 ^ width) ++ rest) := by
      rintro c ⟨⟩
      rfl
    rw [if_neg none, whole point]
    dsimp only
    have fraction : takeFraction ('.' :: padded width (mantissa % 10 ^ width) ++ rest) =
        (padded width (mantissa % 10 ^ width), rest) :=
      spanDigits_append (fun c member => isDigit_of_mem_padded member) ends.1
    rw [fraction]
    dsimp only
    have value : number (digits (mantissa / 10 ^ width) ++ padded width (mantissa % 10 ^ width)) = mantissa := by
      rw [number_append, number_digits, number_padded, length_padded pos low]
      exact Nat.div_add_mod' ..
    rw [if_neg (List.append_ne_nil_of_left_ne_nil (digits_ne_nil _) _), value, length_padded pos low]
    simp

/-! ### Printing and reading back -/

theorem roundHalfEven_natCast (n : Nat) : roundHalfEven n = n := by
  unfold roundHalfEven
  simp

theorem stripZeros_value (fuel mantissa : Nat) (exponent : Int) :
    ((stripZeros fuel mantissa exponent).1 : ℚ) * 10 ^ (stripZeros fuel mantissa exponent).2 =
      mantissa * 10 ^ exponent := by
  induction fuel generalizing mantissa exponent with
  | zero => rfl
  | succ fuel ih =>
    unfold stripZeros
    split
    · rename_i zero
      rw [ih, zpow_add_one₀ (by norm_num)]
      have whole : (mantissa : ℚ) = (mantissa / 10 : Nat) * 10 := by
        exact_mod_cast (Nat.div_mul_cancel (Nat.dvd_of_mod_eq_zero zero)).symm
      rw [whole]
      ring
    · rfl

/-- A whole multiple of a power of ten with a mantissa of at most `precision` digits. -/
def IsDecimal (precision : Nat) (q : ℚ) : Prop := ∃ m e : Int, |m| < 10 ^ precision ∧ q = m * 10 ^ e

theorem stripZeros_bounds (fuel mantissa : Nat) (exponent : Int) :
    (stripZeros fuel mantissa exponent).1 ≤ mantissa ∧ exponent ≤ (stripZeros fuel mantissa exponent).2 ∧
      (stripZeros fuel mantissa exponent).2 ≤ exponent + fuel := by
  induction fuel generalizing mantissa exponent with
  | zero => exact ⟨Nat.le_refl _, Int.le_refl _, by simp [stripZeros]⟩
  | succ fuel ih =>
    unfold stripZeros
    split
    · obtain ⟨smaller, low, high⟩ := ih (mantissa / 10) (exponent + 1)
      exact ⟨Nat.le_trans smaller (Nat.div_le_self ..), by omega, by omega⟩
    · dsimp only
      omega

/-- Rounding does not change a decimal number that has no more than `precision` digits. -/
theorem significant_eq {precision n : Nat} {e : Int} (pos : 0 < n) (small : n < 10 ^ precision) :
    ∃ scaled exponent, significant precision (n * 10 ^ e) = stripZeros precision scaled exponent ∧
      (scaled : ℚ) * 10 ^ exponent = n * 10 ^ e ∧ scaled < 10 ^ precision ∧
      e + 1 - precision ≤ exponent ∧ exponent ≤ e := by
  have tenPos : (0 : ℚ) < 10 ^ e := zpow_pos (by norm_num) e
  have qPos : (0 : ℚ) < n * 10 ^ e := mul_pos (by exact_mod_cast pos) tenPos
  have above : e ≤ Int.log 10 ((n : ℚ) * 10 ^ e) := by
    apply (Int.zpow_le_iff_le_log (by decide) qPos).mp
    rw [Nat.cast_ofNat]
    exact le_mul_of_one_le_left (le_of_lt tenPos) (by exact_mod_cast pos)
  have below : Int.log 10 ((n : ℚ) * 10 ^ e) < precision + e := by
    apply (Int.lt_zpow_iff_log_lt (by decide) qPos).mp
    rw [Nat.cast_ofNat, zpow_add₀ (by norm_num), zpow_natCast]
    exact mul_lt_mul_of_pos_right (by exact_mod_cast small) tenPos
  have next : (n : ℚ) * 10 ^ e < 10 ^ (Int.log 10 ((n : ℚ) * 10 ^ e) + 1) := by
    have next := Int.lt_zpow_succ_log_self (b := 10) (by decide) ((n : ℚ) * 10 ^ e)
    rwa [Nat.cast_ofNat] at next
  unfold significant
  dsimp only
  generalize Int.log 10 ((n : ℚ) * 10 ^ e) = log at above below next
  obtain ⟨k, shift⟩ := Int.eq_ofNat_of_zero_le (show 0 ≤ e - (log + 1 - precision) by omega)
  have scaled : (n : ℚ) * 10 ^ e = (n * 10 ^ k : Nat) * 10 ^ (log + 1 - precision) := by
    rw [show e = (k : Int) + (log + 1 - precision) by omega, zpow_add₀ (by norm_num), zpow_natCast]
    push_cast
    ring
  have cut : (0 : ℚ) < 10 ^ (log + 1 - (precision : Int)) := zpow_pos (by norm_num) _
  refine ⟨n * 10 ^ k, log + 1 - precision, ?_, scaled.symm, ?_, by omega, by omega⟩
  · rw [scaled, mul_div_cancel_right₀ _ (ne_of_gt cut), roundHalfEven_natCast]
  · have turn : (10 : ℚ) ^ (log + 1) = 10 ^ precision * 10 ^ (log + 1 - (precision : Int)) := by
      rw [← zpow_natCast, ← zpow_add₀ (by norm_num)]
      exact congrArg _ (by ring)
    rw [scaled, turn] at next
    have less : ((n * 10 ^ k : Nat) : ℚ) < 10 ^ precision := lt_of_mul_lt_mul_right next (le_of_lt cut)
    exact_mod_cast less

theorem significant_value {precision n : Nat} {e : Int} (pos : 0 < n) (small : n < 10 ^ precision) :
    ((significant precision (n * 10 ^ e)).1 : ℚ) * 10 ^ (significant precision (n * 10 ^ e)).2 = n * 10 ^ e := by
  obtain ⟨scaled, exponent, found, value, -⟩ := significant_eq (e := e) pos small
  rw [found, stripZeros_value, value]

theorem fixed_eq (mantissa : Nat) (exponent : Int) :
    fixed mantissa exponent = withPoint (-exponent).toNat (mantissa * 10 ^ exponent.toNat) := by
  unfold fixed
  split
  · rename_i whole
    rw [show (-exponent).toNat = 0 by omega]
    unfold withPoint
    rw [if_pos rfl, pow_zero, Nat.div_one, List.append_nil]
  · rw [show exponent.toNat = 0 by omega, pow_zero, Nat.mul_one]

theorem ends_nil : Ends [] := ⟨nofun, nofun⟩

theorem extractFloat_fixed (mantissa : Nat) (exponent : Int) :
    extractFloat (fixed mantissa exponent) = some ((mantissa : ℚ) * 10 ^ exponent) := by
  have read := extractFloat_withPoint (-exponent).toNat (mantissa * 10 ^ exponent.toNat) ends_nil
  rw [List.append_nil] at read
  rw [fixed_eq, read]
  refine congrArg some ?_
  dsimp only
  rw [zpow_zero, mul_one]
  rcases Int.le_total 0 exponent with whole | fraction
  · obtain ⟨k, rfl⟩ := Int.eq_ofNat_of_zero_le whole
    simp
  · obtain ⟨k, negated⟩ := Int.eq_ofNat_of_zero_le (Int.neg_nonneg_of_nonpos fraction)
    obtain rfl : exponent = -k := by omega
    simp [div_eq_mul_inv]

theorem takeExponent_signed (power : Int) :
    takeExponent ('e' :: (if power < 0 then '-' else '+') :: padded 2 power.natAbs) = some power := by
  have read : spanDigits (padded 2 power.natAbs) = (padded 2 power.natAbs, []) := by
    have all : spanDigits (padded 2 power.natAbs ++ []) = (padded 2 power.natAbs, []) :=
      spanDigits_append (fun c member => isDigit_of_mem_padded member) ends_nil.1
    rwa [List.append_nil] at all
  have some' : padded 2 power.natAbs ≠ [] := by
    unfold padded List.leftpad
    exact List.append_ne_nil_of_right_ne_nil _ (digits_ne_nil _)
  by_cases negative : power < 0
  · have sign : takeSign ('-' :: padded 2 power.natAbs) = (-1, padded 2 power.natAbs) := rfl
    rw [if_pos negative]
    unfold takeExponent
    dsimp only
    rw [if_pos (Or.inl rfl), sign, read]
    dsimp only
    rw [if_neg some', number_padded]
    exact congrArg some (by omega)
  · have sign : takeSign ('+' :: padded 2 power.natAbs) = (1, padded 2 power.natAbs) := rfl
    rw [if_neg negative]
    unfold takeExponent
    dsimp only
    rw [if_pos (Or.inl rfl), sign, read]
    dsimp only
    rw [if_neg some', number_padded]
    exact congrArg some (by omega)

theorem extractFloat_scientific (mantissa : Nat) (exponent : Int) :
    extractFloat (scientific mantissa (exponent + (digits mantissa).length - 1)) =
      some ((mantissa : ℚ) * 10 ^ exponent) := by
  have ends (rest : List Char) : Ends ('e' :: rest) := by
    constructor
    · rintro c ⟨⟩
      rfl
    · rintro ⟨⟩
  unfold scientific
  rw [extractFloat_withPoint _ _ (ends _), takeExponent_signed]
  refine congrArg some ?_
  have pos : 0 < (digits mantissa).length := List.length_pos_iff.mpr (digits_ne_nil mantissa)
  obtain ⟨k, count⟩ := Nat.exists_eq_add_of_lt pos
  dsimp only
  rw [count, show exponent + ((0 + k + 1 : Nat) : Int) - 1 = exponent + k by push_cast; ring,
    show 0 + k + 1 - 1 = k by omega, zpow_add₀ (by norm_num), zpow_natCast]
  field_simp

theorem extractFloat_formatPositive {precision n : Nat} {e : Int} (pos : 0 < n) (small : n < 10 ^ precision) :
    extractFloat (formatPositive precision (n * 10 ^ e)) = some ((n : ℚ) * 10 ^ e) := by
  have value := significant_value (e := e) pos small
  unfold formatPositive
  generalize significant precision ((n : ℚ) * 10 ^ e) = found at value ⊢
  obtain ⟨mantissa, exponent⟩ := found
  dsimp only at value ⊢
  split
  · rw [extractFloat_fixed, value]
  · rw [extractFloat_scientific, value]

theorem withPoint_head (width mantissa : Nat) (rest : List Char) :
    ∃ c, (withPoint width mantissa ++ rest).head? = some c ∧ c.isDigit = true := by
  unfold withPoint
  rw [List.append_assoc]
  exact head?_digits ..

theorem formatPositive_head (precision : Nat) (q : ℚ) :
    ∃ c, (formatPositive precision q).head? = some c ∧ c.isDigit = true := by
  unfold formatPositive
  dsimp only
  split
  · have head := withPoint_head (-(significant precision q).2).toNat
      ((significant precision q).1 * 10 ^ (significant precision q).2.toNat) []
    rwa [List.append_nil, ← fixed_eq] at head
  · exact withPoint_head ..

theorem takeSign_formatPositive (precision : Nat) (q : ℚ) :
    takeSign (formatPositive precision q) = (1, formatPositive precision q) := by
  obtain ⟨c, head, digit⟩ := formatPositive_head precision q
  exact takeSign_of_digit head digit

theorem formatG_ne_nil (precision : Nat) (q : ℚ) : formatG precision q ≠ [] := by
  unfold formatG
  split
  · exact List.cons_ne_nil _ _
  · split
    · exact List.cons_ne_nil _ _
    · obtain ⟨c, head, -⟩ := formatPositive_head precision q
      intro empty
      rw [empty] at head
      cases head

theorem extractFloat_neg {text : List Char} (unsigned : takeSign text = (1, text)) :
    extractFloat ('-' :: text) = (extractFloat text).map Neg.neg := by
  have negative : takeSign ('-' :: text) = (-1, text) := rfl
  unfold extractFloat
  rw [unsigned, negative]
  dsimp only
  split
  · rfl
  · rw [Option.map_map]
    refine congrArg (Option.map · _) (funext fun power => ?_)
    simp

/-- What is printed with enough digits is read back. -/
theorem extractFloat_formatG {precision : Nat} {q : ℚ} (decimal : IsDecimal precision q) :
    extractFloat (formatG precision q) = some q := by
  obtain ⟨m, e, small, rfl⟩ := decimal
  have tenPos : (0 : ℚ) < 10 ^ e := zpow_pos (by norm_num) e
  unfold formatG
  rcases lt_trichotomy m 0 with negative | rfl | positive
  · obtain ⟨n, magnitude⟩ := Int.eq_ofNat_of_zero_le (Int.neg_nonneg_of_nonpos (le_of_lt negative))
    obtain rfl : m = -n := by omega
    have pos : 0 < n := by omega
    rw [abs_neg, Nat.abs_cast] at small
    have below : (((-n : Int) : ℚ)) * 10 ^ e < 0 := mul_neg_of_neg_of_pos (by exact_mod_cast negative) tenPos
    have opposite : -(((-n : Int) : ℚ) * 10 ^ e) = n * 10 ^ e := by
      push_cast
      ring
    rw [if_neg (ne_of_lt below), if_pos below, extractFloat_neg (takeSign_formatPositive ..), opposite,
      extractFloat_formatPositive pos (by exact_mod_cast small), Option.map_some, ← opposite, neg_neg]
  · have zero : extractFloat (fixed 0 0) = some (((0 : Nat) : ℚ) * 10 ^ (0 : Int)) := extractFloat_fixed 0 0
    rw [Nat.cast_zero, zero_mul] at zero
    rw [Int.cast_zero, zero_mul, if_pos rfl]
    exact zero
  · obtain ⟨n, rfl⟩ := Int.eq_ofNat_of_zero_le (le_of_lt positive)
    have pos : 0 < n := by omega
    rw [Nat.abs_cast] at small
    have above : 0 < ((n : Int) : ℚ) * 10 ^ e := mul_pos (by exact_mod_cast pos) tenPos
    rw [if_neg (ne_of_gt above), if_neg (not_lt_of_gt above), Int.cast_natCast]
    exact extractFloat_formatPositive pos (by exact_mod_cast small)

/-! ### What printed numbers look like -/

/-- The characters of printed numbers. -/
def Numeral (c : Char) : Prop := c.isDigit = true ∨ c = '.' ∨ c = 'e' ∨ c = '+' ∨ c = '-'

theorem numeral_of_mem_digits {c : Char} {n : Nat} (member : c ∈ digits n) : Numeral c :=
  .inl (isDigit_of_mem_digits member)

theorem numeral_of_mem_withPoint {c : Char} {width mantissa : Nat} (member : c ∈ withPoint width mantissa) : Numeral c := by
  unfold withPoint at member
  rcases List.mem_append.mp member with whole | fraction
  · exact numeral_of_mem_digits whole
  · split at fraction
    · cases fraction
    · rcases List.mem_cons.mp fraction with rfl | digit
      · exact .inr (.inl rfl)
      · exact .inl (isDigit_of_mem_padded digit)

theorem numeral_of_mem_formatPositive {precision : Nat} {q : ℚ} {c : Char} (member : c ∈ formatPositive precision q) :
    Numeral c := by
  unfold formatPositive at member
  dsimp only at member
  split at member
  · rw [fixed_eq] at member
    exact numeral_of_mem_withPoint member
  · unfold scientific at member
    rcases List.mem_append.mp member with mantissa | exponent
    · exact numeral_of_mem_withPoint mantissa
    · rcases List.mem_cons.mp exponent with rfl | signed
      · exact .inr (.inr (.inl rfl))
      · rcases List.mem_cons.mp signed with rfl | digit
        · split
          · exact .inr (.inr (.inr (.inr rfl)))
          · exact .inr (.inr (.inr (.inl rfl)))
        · exact .inl (isDigit_of_mem_padded digit)

theorem numeral_of_mem_formatG {precision : Nat} {q : ℚ} {c : Char} (member : c ∈ formatG precision q) : Numeral c := by
  unfold formatG at member
  split at member
  · rw [List.mem_singleton.mp member]
    exact .inl rfl
  · split at member
    · rcases List.mem_cons.mp member with rfl | positive
      · exact .inr (.inr (.inr (.inr rfl)))
      · exact numeral_of_mem_formatPositive positive
    · exact numeral_of_mem_formatPositive member

theorem Numeral.ascii {c : Char} (numeral : Numeral c) : 43 ≤ c.toNat ∧ c.toNat ≤ 101 := by
  rcases numeral with digit | rfl | rfl | rfl | rfl
  · obtain ⟨low, high⟩ := Char.isDigit_iff_toNat.mp digit
    exact ⟨Nat.le_trans (by decide) low, Nat.le_trans high (by decide)⟩
  all_goals decide

theorem length_withPoint_le (width : Nat) {mantissa k : Nat} (pos : 0 < k) (small : mantissa < 10 ^ k) :
    (withPoint width mantissa).length ≤ k + 1 + width := by
  have whole := length_digits_le pos (Nat.lt_of_le_of_lt (Nat.div_le_self mantissa (10 ^ width)) small)
  unfold withPoint
  rw [List.length_append]
  split
  · rw [List.length_nil]
    omega
  · rename_i some'
    rw [List.length_cons, length_padded (Nat.pos_of_ne_zero some') (Nat.mod_lt _ (Nat.pow_pos (by decide)))]
    omega

theorem length_padded_le (width n : Nat) : (padded width n).length ≤ width + n + 1 := by
  have some' : (digits n).length ≤ n + 1 :=
    length_digits_le (Nat.succ_pos n) (Nat.lt_trans (Nat.lt_succ_self n) (Nat.lt_pow_self (by decide)))
  unfold padded
  rw [List.length_leftpad]
  omega

theorem length_formatPositive_le {precision n k : Nat} {e : Int} (digit : 0 < precision) (pos : 0 < n)
    (small : n < 10 ^ precision) (range : |e| ≤ k) :
    (formatPositive precision (n * 10 ^ e)).length ≤ 5 * precision + 2 * k + 6 := by
  obtain ⟨low, high⟩ := abs_le.mp range
  obtain ⟨scaled, exponent, found, -, below, least, most⟩ := significant_eq (e := e) pos small
  obtain ⟨smaller, atLeast, atMost⟩ := stripZeros_bounds precision scaled exponent
  unfold formatPositive
  rw [found]
  generalize stripZeros precision scaled exponent = parts at smaller atLeast atMost
  obtain ⟨mantissa, power⟩ := parts
  dsimp only at smaller atLeast atMost ⊢
  have few : mantissa < 10 ^ precision := Nat.lt_of_le_of_lt smaller below
  have count := length_digits_le digit few
  split
  · have large : mantissa * 10 ^ power.toNat < 10 ^ (precision + power.toNat) := by
      rw [Nat.pow_add]
      exact Nat.mul_lt_mul_of_pos_right few (Nat.pow_pos (by decide))
    rw [fixed_eq]
    have length := length_withPoint_le (-power).toNat (Nat.add_pos_left digit _) large
    omega
  · have length := length_withPoint_le ((digits mantissa).length - 1) digit few
    have signed := length_padded_le 2 (power + (digits mantissa).length - 1).natAbs
    unfold scientific
    rw [List.length_append, List.length_cons, List.length_cons]
    omega

theorem length_formatG_le {precision k : Nat} {m e : Int} (digit : 0 < precision) (small : |m| < 10 ^ precision)
    (range : |e| ≤ k) : (formatG precision (m * 10 ^ e)).length ≤ 5 * precision + 2 * k + 7 := by
  have tenPos : (0 : ℚ) < 10 ^ e := zpow_pos (by norm_num) e
  unfold formatG
  rcases lt_trichotomy m 0 with negative | rfl | positive
  · obtain ⟨n, magnitude⟩ := Int.eq_ofNat_of_zero_le (Int.neg_nonneg_of_nonpos (le_of_lt negative))
    obtain rfl : m = -n := by omega
    rw [abs_neg, Nat.abs_cast] at small
    have below : (((-n : Int) : ℚ)) * 10 ^ e < 0 := mul_neg_of_neg_of_pos (by exact_mod_cast negative) tenPos
    have opposite : -(((-n : Int) : ℚ) * 10 ^ e) = n * 10 ^ e := by
      push_cast
      ring
    rw [if_neg (ne_of_lt below), if_pos below, opposite, List.length_cons]
    have length := length_formatPositive_le (n := n) (e := e) digit (by omega) (by exact_mod_cast small) range
    omega
  · rw [Int.cast_zero, zero_mul, if_pos rfl, List.length_singleton]
    omega
  · obtain ⟨n, rfl⟩ := Int.eq_ofNat_of_zero_le (le_of_lt positive)
    rw [Nat.abs_cast] at small
    have above : 0 < ((n : Int) : ℚ) * 10 ^ e := mul_pos (by exact_mod_cast positive) tenPos
    rw [if_neg (ne_of_gt above), if_neg (not_lt_of_gt above), Int.cast_natCast]
    have length := length_formatPositive_le (n := n) (e := e) digit (by omega) (by exact_mod_cast small) range
    omega

end DecimalText
