import Mathlib.Data.Prod.Lex
import Mathlib.Tactic.IntervalCases
import Mathlib.Tactic.Linarith

/-!
# Dates and seconds

Dates of the Gregorian calendar with a time of day, and the seconds since 1970 they stand for. Dates are ordered
field by field from the year down, and the seconds follow that order.
-/

namespace Calendar

/-! ### Slots that do not overlap -/

/-- Where every slot ends before the next one begins, a place in a later slot is a later place. -/
theorem place_lt {ι α : Type*} [AddCommMonoid α] [PartialOrder α] [IsOrderedCancelAddMonoid α] [LT ι] (start size : ι → α)
    {i j : ι} {x y : α} (apart : i < j → start i + size i ≤ start j) (inside : x < size i) (nonneg : 0 ≤ y)
    (before : i < j ∨ i = j ∧ x < y) : start i + x < start j + y := by
  rcases before with earlier | ⟨rfl, less⟩
  · calc start i + x < start i + size i := by gcongr
      _ ≤ start j := apart earlier
      _ ≤ start j + y := le_add_of_nonneg_right nonneg
  · gcongr

/-! ### Dates -/

@[ext]
structure DateTime where
  year : Int
  month : Int
  day : Int
  hour : Int
  minute : Int
  second : Int
  deriving DecidableEq, Repr

def isLeap (year : Int) : Bool := year % 4 = 0 ∧ (year % 100 ≠ 0 ∨ year % 400 = 0)

def monthLength (leap : Bool) (month : Int) : Int :=
  if month = 2 then if leap then 29 else 28
  else if month = 4 ∨ month = 6 ∨ month = 9 ∨ month = 11 then 30
  else 31

theorem monthLength_le (leap : Bool) (month : Int) : monthLength leap month ≤ 31 := by
  unfold monthLength
  split
  · split <;> omega
  · split <;> omega

/-- The days before the first of the month. From March on the months repeat every five in 153 days. -/
def monthStart (leap : Bool) (month : Int) : Int :=
  if month ≤ 2 then 31 * (month - 1) else (153 * (month - 3) + 2) / 5 + if leap then 60 else 59

def yearLength (year : Int) : Int := if isLeap year then 366 else 365

/-- The days before the first of January, from that of the year 1. -/
def yearStart (year : Int) : Int := 365 * (year - 1) + (year - 1) / 4 - (year - 1) / 100 + (year - 1) / 400

namespace DateTime

structure Valid (d : DateTime) : Prop where
  month : 1 ≤ d.month ∧ d.month ≤ 12
  day : 1 ≤ d.day ∧ d.day ≤ monthLength (isLeap d.year) d.month
  hour : 0 ≤ d.hour ∧ d.hour < 24
  minute : 0 ≤ d.minute ∧ d.minute < 60
  second : 0 ≤ d.second ∧ d.second < 60

def dayOfYear (d : DateTime) : Int := monthStart (isLeap d.year) d.month + (d.day - 1)

def dayNumber (d : DateTime) : Int := yearStart d.year + d.dayOfYear

def secondOfDay (d : DateTime) : Int := 3600 * d.hour + (60 * d.minute + d.second)

/-- The seconds since the beginning of 1970. -/
def seconds (d : DateTime) : Int := 86400 * (d.dayNumber - yearStart 1970) + d.secondOfDay

/-- From the year down. -/
def key (d : DateTime) : Int ×ₗ Int ×ₗ Int ×ₗ Int ×ₗ Int ×ₗ Int :=
  toLex (d.year, toLex (d.month, toLex (d.day, toLex (d.hour, toLex (d.minute, d.second)))))

end DateTime

/-! ### Years and months follow one another -/

theorem yearStart_apart {i j : Int} (earlier : i < j) : yearStart i + yearLength i ≤ yearStart j := by
  unfold yearLength isLeap yearStart
  split
  · rename_i leap
    rw [decide_eq_true_eq] at leap
    omega
  · rename_i common
    rw [decide_eq_true_eq] at common
    omega

theorem monthStart_apart {leap : Bool} {i j : Int} (first : 1 ≤ i) (last : j ≤ 12) (earlier : i < j) :
    monthStart leap i + monthLength leap i ≤ monthStart leap j := by
  have above : i ≤ 12 := by omega
  cases leap
  all_goals
    interval_cases i
    all_goals
      simp only [monthStart, monthLength]
      norm_num
      split <;> omega

namespace DateTime

variable {a b d : DateTime}

theorem Valid.dayOfYear (valid : d.Valid) : 0 ≤ d.dayOfYear ∧ d.dayOfYear < yearLength d.year := by
  obtain ⟨⟨first, last⟩, day, -⟩ := valid
  unfold DateTime.dayOfYear yearLength
  generalize d.month = month at *
  generalize d.day = date at *
  cases isLeap d.year
  all_goals
    interval_cases month
    all_goals
      simp only [monthStart, monthLength] at *
      norm_num at *
      omega

theorem Valid.secondOfDay (valid : d.Valid) : 0 ≤ d.secondOfDay ∧ d.secondOfDay < 86400 := by
  obtain ⟨-, -, hour, minute, second⟩ := valid
  unfold DateTime.secondOfDay
  omega

theorem dayOfYear_lt (year : a.year = b.year) (validA : a.Valid) (validB : b.Valid)
    (before : a.month < b.month ∨ a.month = b.month ∧ a.day < b.day) : a.dayOfYear < b.dayOfYear := by
  have day := validA.day
  have day' := validB.day
  unfold dayOfYear
  rw [← year]
  exact place_lt (monthStart (isLeap a.year)) (monthLength (isLeap a.year)) (monthStart_apart validA.month.1 validB.month.2)
    (by omega) (by omega) (before.imp_right (And.imp_right (by omega)))

theorem dayNumber_lt (validA : a.Valid) (validB : b.Valid)
    (before : a.year < b.year ∨ a.year = b.year ∧ a.dayOfYear < b.dayOfYear) : a.dayNumber < b.dayNumber :=
  place_lt yearStart yearLength yearStart_apart validA.dayOfYear.2 validB.dayOfYear.1 before

theorem secondOfDay_lt (validA : a.Valid) (validB : b.Valid)
    (before : a.hour < b.hour ∨ a.hour = b.hour ∧ (a.minute < b.minute ∨ a.minute = b.minute ∧ a.second < b.second)) :
    a.secondOfDay < b.secondOfDay := by
  obtain ⟨-, -, -, minute, second⟩ := validA
  obtain ⟨-, -, -, minute', second'⟩ := validB
  unfold secondOfDay
  omega

theorem key_lt_key : a.key < b.key ↔
    a.year < b.year ∨ a.year = b.year ∧ (a.month < b.month ∨ a.month = b.month ∧ (a.day < b.day ∨ a.day = b.day ∧
      (a.hour < b.hour ∨ a.hour = b.hour ∧ (a.minute < b.minute ∨ a.minute = b.minute ∧ a.second < b.second)))) := by
  simp only [key, Prod.Lex.toLex_lt_toLex]

theorem key_injective : Function.Injective key := by
  rintro ⟨⟩ ⟨⟩ same
  simp only [key, EmbeddingLike.apply_eq_iff_eq, Prod.mk.injEq] at same
  obtain ⟨rfl, rfl, rfl, rfl, rfl, rfl⟩ := same
  rfl

/-- A later date and time of day is a later second. -/
theorem seconds_lt (validA : a.Valid) (validB : b.Valid) (before : a.key < b.key) : a.seconds < b.seconds := by
  have day := validA.secondOfDay
  have day' := validB.secondOfDay
  unfold seconds
  rcases key_lt_key.mp before with year | ⟨year, month | ⟨month, date | ⟨date, time⟩⟩⟩
  · have days := dayNumber_lt validA validB (.inl year)
    omega
  · have days := dayNumber_lt validA validB (.inr ⟨year, dayOfYear_lt year validA validB (.inl month)⟩)
    omega
  · have days := dayNumber_lt validA validB (.inr ⟨year, dayOfYear_lt year validA validB (.inr ⟨month, date⟩)⟩)
    omega
  · have same : a.dayNumber = b.dayNumber := by
      unfold dayNumber dayOfYear
      rw [year, month, date]
    have times := secondOfDay_lt validA validB time
    omega

theorem seconds_le (validA : a.Valid) (validB : b.Valid) (before : a.key ≤ b.key) : a.seconds ≤ b.seconds := by
  rcases before.lt_or_eq with earlier | same
  · exact le_of_lt (seconds_lt validA validB earlier)
  · rw [key_injective same]

/-- A date is not before the beginning of an earlier year. -/
theorem Valid.le_seconds (valid : d.Valid) {year : Int} (before : year ≤ d.year) :
    86400 * (yearStart year - yearStart 1970) ≤ d.seconds := by
  have day := valid.dayOfYear
  have time := valid.secondOfDay
  have years : yearStart year ≤ yearStart d.year := by
    unfold yearStart
    omega
  unfold seconds dayNumber
  omega

example : seconds ⟨2024, 2, 29, 12, 0, 0⟩ = 1709208000 := by decide

end DateTime

end Calendar
