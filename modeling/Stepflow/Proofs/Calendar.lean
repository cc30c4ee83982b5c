/-
  Stepflow.Proofs.Calendar — every number is the number of one day.

  (1) Before the first of March of a year there are `marchStart` days, counted from that of
  year 0. A day of a number lies in one year between two such firsts (`exists_year`): inside
  a cycle of 400 years the quotient that the calendar takes grows with the day and meets
  every year at its first and its last day (`yearOf_spec`).

  (2) The day of a number exists (`valid_ofDays`) and has that number (`toDays_ofDays`).

  (3) Years do not run backwards: numbers between the first days of two years are days of
  years between them (`year_ofDays`).
-/

import Mathlib.Order.Monotone.Basic
import Mathlib.Tactic.IntervalCases
import Mathlib.Order.SuccPred.Basic
import Mathlib.Algebra.Order.Group.Int
import Stepflow.Time.Calendar

namespace Stepflow.Time.Date

/-! ## (1) Years from March on -/

/-- Days before the first of March of a year, from that of year 0 on. -/
def marchStart (year : Int) : Int := 365 * year + year / 4 - year / 100 + year / 400

/-- The year of a day in a cycle of 400 years. -/
def yearOf (day : Int) : Int := (day - day / 1460 + day / 36524 - day / 146096) / 365

/-- At the last day of a year of the cycle and at its first the quotient is that year. -/
theorem yearOf_bounds : ∀ y : Fin 400,
    yearOf (marchStart y) = y ∧ yearOf (marchStart (y + 1) - 1) = y ∧ 0 ≤ marchStart y := by
  decide +kernel

/-- The quotient grows with the day: where a part taken away steps up, a part added does. -/
theorem yearOf_mono {a b : Int} (h : a ≤ b) : yearOf a ≤ yearOf b := by
  refine monotone_int_of_le_succ (fun day => ?_) h
  have hcentury : ∀ d : Int, d / 146096 = d / 36524 / 4 := fun d => by rw [Int.ediv_ediv_of_nonneg (by decide)]; rfl
  unfold yearOf
  rw [hcentury, hcentury]
  omega

theorem exists_year_of_cycle {day : Int} (h₀ : 0 ≤ day) {years : Nat} (h : day < marchStart years) :
    ∃ y : Nat, y < years ∧ marchStart y ≤ day ∧ day < marchStart (y + 1) := by
  induction years with
  | zero => exact absurd h (by simp [marchStart]; omega)
  | succ n ih =>
    by_cases hday : day < marchStart n
    · obtain ⟨y, hy, hfrom, hto⟩ := ih hday
      exact ⟨y, by omega, hfrom, hto⟩
    · exact ⟨n, by omega, by omega, by simpa using h⟩

theorem yearOf_spec {day : Int} (h₀ : 0 ≤ day) (h : day < 146097) :
    0 ≤ yearOf day ∧ yearOf day < 400 ∧ marchStart (yearOf day) ≤ day ∧ day < marchStart (yearOf day + 1) := by
  have hcycle : day < marchStart (400 : Nat) := h
  obtain ⟨y, hy, hfrom, hto⟩ := exists_year_of_cycle h₀ hcycle
  obtain ⟨hfirst, hlast, -⟩ := yearOf_bounds ⟨y, hy⟩
  have hyear : yearOf day = y := by
    have hlow := yearOf_mono hfrom
    have hhigh := yearOf_mono (show day ≤ marchStart (y + 1) - 1 by omega)
    simp only at hfirst hlast
    omega
  rw [hyear]
  exact ⟨by omega, by omega, hfrom, hto⟩

theorem marchStart_add_cycles (year cycles : Int) :
    marchStart (year + cycles * 400) = marchStart year + cycles * 146097 := by
  unfold marchStart
  omega

def ofMarch (year day : Int) : Date :=
  let month := (5 * day + 2) / 153
  let dayOfMonth := day - (153 * month + 2) / 5 + 1
  if month < 10 then ⟨year, (month + 3).toNat, dayOfMonth.toNat⟩ else ⟨year + 1, (month - 9).toNat, dayOfMonth.toNat⟩

theorem exists_year (n : Int) : ∃ year day, n + epochOffset = marchStart year + day ∧ 0 ≤ day ∧
    marchStart year + day < marchStart (year + 1) ∧ ofDays n = ofMarch year day := by
  generalize hshifted : n + epochOffset = shifted
  obtain ⟨hyear₀, hyear, hfrom, hto⟩ :=
    yearOf_spec (Int.emod_nonneg shifted (b := 146097) (by decide)) (Int.emod_lt_of_pos shifted (by decide))
  have hday : 365 * yearOf (shifted % 146097) + yearOf (shifted % 146097) / 4 - yearOf (shifted % 146097) / 100 =
      marchStart (yearOf (shifted % 146097)) := by
    unfold marchStart
    omega
  refine ⟨yearOf (shifted % 146097) + shifted / 146097 * 400,
    shifted % 146097 - marchStart (yearOf (shifted % 146097)), ?_, by omega, ?_, ?_⟩
  · rw [marchStart_add_cycles]
    omega
  · rw [show yearOf (shifted % 146097) + shifted / 146097 * 400 + 1 =
      yearOf (shifted % 146097) + 1 + shifted / 146097 * 400 by omega, marchStart_add_cycles, marchStart_add_cycles]
    omega
  · rw [← hday, ← hshifted]
    rfl

/-! ## (2) The day of a number -/

theorem toDays_eq (d : Date) : d.toDays =
    marchStart (if d.month ≤ 2 then d.year - 1 else d.year) +
      ((153 * (if d.month ≤ 2 then d.month + 9 else d.month - 3 : Nat) + 2) / 5 : Nat) + d.day - 1 - epochOffset := by
  unfold toDays marchStart
  dsimp only
  generalize (if d.month ≤ 2 then d.year - 1 else d.year) = year
  omega

/-- A year from March on has a leap day at its end if the year that begins before that is a
    leap year. -/
theorem marchStart_succ (year : Int) :
    marchStart (year + 1) = marchStart year + if isLeapYear (year + 1) then 366 else 365 := by
  simp only [isLeapYear, Bool.and_eq_true, Bool.or_eq_true, beq_iff_eq, bne_iff_ne]
  unfold marchStart
  split <;> omega

theorem toDays_ofMarch {year day : Int} (h₀ : 0 ≤ day) (h : day < 366) :
    (ofMarch year day).toDays = marchStart year + day - epochOffset := by
  rw [toDays_eq]
  unfold ofMarch
  dsimp only
  by_cases hmonth : (5 * day + 2) / 153 < 10
  · simp only [hmonth, if_true]
    split <;> omega
  · simp only [hmonth, if_false]
    split <;> simp <;> omega

theorem toDays_ofDays (n : Int) : (ofDays n).toDays = n := by
  obtain ⟨year, day, hn, h₀, hday, hdate⟩ := exists_year n
  rw [marchStart_succ] at hday
  rw [hdate, toDays_ofMarch h₀ (by split at hday <;> omega)]
  omega

theorem valid_ofMarch {year day : Int} (h₀ : 0 ≤ day) (h : day < if isLeapYear (year + 1) then 366 else 365) :
    (ofMarch year day).Valid := by
  have h366 : day < 366 := by split at h <;> omega
  obtain ⟨month, hmonth⟩ : ∃ month, (5 * day + 2) / 153 = month := ⟨_, rfl⟩
  have hmonths : 0 ≤ month ∧ month < 12 := by omega
  unfold ofMarch Valid
  simp only [hmonth]
  -- month by month; the last one is February
  rcases hmonths with ⟨h₁, h₂⟩
  interval_cases month <;> simp [daysIn] <;> try omega
  split at h <;> simp_all <;> omega

theorem valid_ofDays (n : Int) : (ofDays n).Valid := by
  obtain ⟨year, day, -, h₀, hday, hdate⟩ := exists_year n
  rw [marchStart_succ] at hday
  rw [hdate]
  exact valid_ofMarch h₀ (by omega)

theorem Valid.bounds {d : Date} (h : d.Valid) : 1 ≤ d.month ∧ d.month ≤ 12 ∧ d.day ≤ 31 := by
  obtain ⟨h₁, h⟩ := h
  unfold daysIn at h
  split at h <;> (try split at h) <;> omega

/-! ## (3) The year of a number -/

theorem marchStart_mono {a b : Int} (h : a ≤ b) : marchStart a ≤ marchStart b := by
  refine monotone_int_of_le_succ (fun year => ?_) h
  rw [marchStart_succ]
  split <;> omega

/-- The first of January is the 307th day from March on. -/
theorem toDays_newYear (year : Int) : toDays ⟨year, 1, 1⟩ = marchStart (year - 1) + 306 - epochOffset := by
  simp [toDays_eq]

/-- The year of a day changes with its 307th day from March on. -/
theorem year_ofMarch {year day : Int} :
    (ofMarch year day).year = if day < 306 then year else year + 1 := by
  unfold ofMarch
  dsimp only
  split <;> split <;> simp <;> omega

theorem le_year_ofDays {year n : Int} (h : toDays ⟨year, 1, 1⟩ ≤ n) : year ≤ (ofDays n).year := by
  obtain ⟨march, day, hn, h₀, hday, hdate⟩ := exists_year n
  rw [toDays_newYear] at h
  rw [hdate, year_ofMarch]
  refine Int.not_lt.mp fun hlt => ?_
  split at hlt
  · have := marchStart_mono (show march ≤ year - 1 by omega)
    omega
  · have := marchStart_mono (show march + 1 ≤ year - 1 by omega)
    omega

theorem year_ofDays_lt {year n : Int} (h : n < toDays ⟨year, 1, 1⟩) : (ofDays n).year < year := by
  obtain ⟨march, day, hn, h₀, hday, hdate⟩ := exists_year n
  rw [toDays_newYear] at h
  rw [hdate, year_ofMarch]
  refine Int.not_le.mp fun hle => ?_
  split at hle
  · have hnext := marchStart_succ (year - 1)
    have := marchStart_mono (show year - 1 + 1 ≤ march by omega)
    split at hnext <;> omega
  · have := marchStart_mono (show year - 1 ≤ march by omega)
    omega

end Stepflow.Time.Date
