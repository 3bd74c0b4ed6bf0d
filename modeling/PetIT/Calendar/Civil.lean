/-
The Gregorian calendar as an arithmetic of days: how many days there are before a date, counted from the first of
January of the year 0, which date a number of days leads to, and that as many days are before it.
-/
import Mathlib.Tactic

namespace Calendar

/-! ## Blocks of given lengths -/

/-- The block the number falls into, and its place there. -/
def locate : List Nat → Nat → Nat × Nat
  | [], n => (0, n)
  | l :: ls, n => if n < l then (0, n) else ((locate ls (n - l)).1 + 1, (locate ls (n - l)).2)

theorem locate_spec : ∀ {ls : List Nat} {n : Nat}, n < ls.sum →
    (locate ls n).1 < ls.length ∧ (locate ls n).2 < ls.getD (locate ls n).1 0 ∧
      (ls.take (locate ls n).1).sum + (locate ls n).2 = n
  | [], _, h => by simp at h
  | l :: ls, n, h => by
    unfold locate
    split
    case isTrue hl => exact ⟨Nat.succ_pos _, hl, by simp⟩
    case isFalse hl =>
      rw [List.sum_cons] at h
      have hn : n - l < ls.sum := by omega
      obtain ⟨h1, h2, h3⟩ := locate_spec hn
      refine ⟨Nat.succ_lt_succ h1, h2, ?_⟩
      rw [List.take_succ_cons, List.sum_cons]
      omega

/-! ## Years -/

/-- The Gregorian rule. -/
def isLeap (year : Nat) : Bool := year % 4 = 0 && (year % 100 ≠ 0 || year % 400 = 0)

/-- The days of the months of a year. -/
def monthLengths (year : Nat) : List Nat :=
  [31, if isLeap year then 29 else 28, 31, 30, 31, 30, 31, 31, 30, 31, 30, 31]

/-- The days before the first of January of the year. -/
def daysBefore (year : Nat) : Nat := 365 * year + (year + 3) / 4 + (year + 399) / 400 - (year + 99) / 100

theorem sum_monthLengths (year : Nat) : (monthLengths year).sum = if isLeap year then 366 else 365 := by
  unfold monthLengths
  cases isLeap year <;> rfl

theorem daysBefore_succ (year : Nat) : daysBefore (year + 1) = daysBefore year + (monthLengths year).sum := by
  have h4 : (year + 1 + 3) / 4 = (year + 3) / 4 + if year % 4 = 0 then 1 else 0 := by split <;> omega
  have h100 : (year + 1 + 99) / 100 = (year + 99) / 100 + if year % 100 = 0 then 1 else 0 := by split <;> omega
  have h400 : (year + 1 + 399) / 400 = (year + 399) / 400 + if year % 400 = 0 then 1 else 0 := by split <;> omega
  have hle : (year + 99) / 100 ≤ (year + 3) / 4 := by omega
  have hmod : year % 400 = 0 → year % 100 = 0 := by omega
  have hmod' : year % 100 = 0 → year % 4 = 0 := by omega
  rw [sum_monthLengths]
  unfold daysBefore isLeap
  rw [h4, h100, h400]
  by_cases h1 : year % 4 = 0 <;> by_cases h2 : year % 100 = 0 <;> by_cases h3 : year % 400 = 0 <;>
    simp [h1, h2, h3] at hmod hmod' ⊢ <;> omega

theorem daysBefore_mono : StrictMono daysBefore := by
  refine strictMono_nat_of_lt_succ fun year => ?_
  rw [daysBefore_succ, sum_monthLengths]
  split <;> omega

/-- A year has 146097 / 400 days on average, and is never far off. -/
theorem daysBefore_bounds (year : Nat) :
    146097 * year ≤ 400 * daysBefore year + 396 ∧ 400 * daysBefore year ≤ 146097 * year + 699 := by
  unfold daysBefore
  omega

/-- The year of a day, from the average length of a year. -/
def yearOf (n : Nat) : Nat :=
  let year := 400 * n / 146097
  if n < daysBefore year then year - 1 else if daysBefore (year + 1) ≤ n then year + 1 else year

theorem yearOf_spec (n : Nat) : daysBefore (yearOf n) ≤ n ∧ n < daysBefore (yearOf n + 1) := by
  have hlo : 146097 * (400 * n / 146097) ≤ 400 * n := Nat.mul_div_le _ _
  have hhi : 400 * n < 146097 * (400 * n / 146097 + 1) := Nat.lt_mul_div_succ _ (by norm_num)
  unfold yearOf
  dsimp only
  generalize 400 * n / 146097 = year at hlo hhi
  -- the average is off by less than a year either way
  split_ifs with h1 h2
  · cases year with
    | zero => exact absurd h1 (Nat.not_lt_zero n)
    | succ year =>
      rw [Nat.add_sub_cancel]
      have := daysBefore_bounds year
      exact ⟨by omega, h1⟩
  · have := daysBefore_bounds (year + 1 + 1)
    exact ⟨h2, by omega⟩
  · exact ⟨not_lt.1 h1, not_le.1 h2⟩

/-! ## Dates -/

/-- A day of the calendar. -/
structure Date where
  year : Nat
  month : Nat
  day : Nat
  deriving DecidableEq, Repr

/-- The days of a month, which is counted from 1. -/
def daysInMonth (year month : Nat) : Nat := (monthLengths year).getD (month - 1) 0

/-- A date of the calendar. -/
structure Date.Valid (d : Date) : Prop where
  month_pos : 1 ≤ d.month
  month_le : d.month ≤ 12
  day_pos : 1 ≤ d.day
  day_le : d.day ≤ daysInMonth d.year d.month

instance (d : Date) : Decidable d.Valid :=
  decidable_of_iff (1 ≤ d.month ∧ d.month ≤ 12 ∧ 1 ≤ d.day ∧ d.day ≤ daysInMonth d.year d.month)
    ⟨fun h => ⟨h.1, h.2.1, h.2.2.1, h.2.2.2⟩, fun h => ⟨h.month_pos, h.month_le, h.day_pos, h.day_le⟩⟩

/-- The days before the date. -/
def Date.days (d : Date) : Nat :=
  daysBefore d.year + (((monthLengths d.year).take (d.month - 1)).sum + (d.day - 1))

/-- The date of a day that is counted from the first one. -/
def Date.ofDays (n : Nat) : Date :=
  let year := yearOf n
  let place := locate (monthLengths year) (n - daysBefore year)
  ⟨year, place.1 + 1, place.2 + 1⟩

/-- The day of the year falls into one of its months. -/
theorem sub_daysBefore_lt (n : Nat) : n - daysBefore (yearOf n) < (monthLengths (yearOf n)).sum := by
  obtain ⟨hlo, hhi⟩ := yearOf_spec n
  rw [daysBefore_succ] at hhi
  omega

theorem Date.ofDays_valid (n : Nat) : (ofDays n).Valid := by
  obtain ⟨h1, h2, -⟩ := locate_spec (sub_daysBefore_lt n)
  exact ⟨Nat.succ_pos _, h1, Nat.succ_pos _, h2⟩

theorem Date.days_ofDays (n : Nat) : (ofDays n).days = n := by
  obtain ⟨-, -, h3⟩ := locate_spec (sub_daysBefore_lt n)
  have hlo := (yearOf_spec n).1
  unfold days ofDays
  simp only [Nat.add_sub_cancel]
  rw [h3]
  omega

example : Date.ofDays 719528 = ⟨1970, 1, 1⟩ := by decide

end Calendar
