import Mathlib

namespace SupplyDrop.Library.Calendar

def nanosPerSecond : Int := 1000000000
def secondsPerDay : Int := 86400

/-- Day counts of the proleptic Gregorian calendar, in years that begin in March: the day within its
era of 400 years, its year there, and its day of that year. -/
def dayOfEra (days : Int) : Int := (days + 719468) % 146097

def yearOfEra (days : Int) : Int :=
  let doe := dayOfEra days
  (doe - doe / 1460 + doe / 36524 - doe / 146096) / 365

def dayOfYear (days : Int) : Int :=
  let yoe := yearOfEra days
  dayOfEra days - (365 * yoe + yoe / 4 - yoe / 100)

def monthFromMarch (days : Int) : Nat := ((5 * dayOfYear days + 2) / 153).toNat

def month (days : Int) : Nat :=
  if monthFromMarch days < 10 then monthFromMarch days + 3 else monthFromMarch days - 9

def year (days : Int) : Int :=
  yearOfEra days + (days + 719468) / 146097 * 400 + if month days ≤ 2 then 1 else 0

def dayOfMonth (days : Int) : Int :=
  dayOfYear days - (153 * monthFromMarch days + 2) / 5 + 1

/-! ## Years that begin in March -/

/-- The days of an era before a year of it begins. -/
def yearStart (y : Int) : Int := 365 * y + y / 4 - y / 100 + y / 400

theorem yearStart_mono {y z : Int} (le : y ≤ z) : yearStart y ≤ yearStart z := by
  unfold yearStart
  omega

-- the last day of an era is the only one that `doe / 146096` is for
theorem year_of_day {doe century yoe : Int} (low : 0 ≤ doe) (high : doe < 146096)
    (century_ : century = doe / 36524) (yoe_ : yoe = (doe - doe / 1460 + century) / 365) :
    0 ≤ yoe ∧ yoe ≤ 399 ∧ yearStart yoe ≤ doe ∧ doe < yearStart (yoe + 1) := by
  have centuries : 0 ≤ century ∧ century ≤ 3 := by omega
  obtain ⟨quad, quad_⟩ : ∃ quad, quad = doe / 1460 := ⟨_, rfl⟩
  have many : 25 * century ≤ quad ∧ quad ≤ 100 := by omega
  obtain ⟨leap, leap_⟩ : ∃ leap, leap = yoe / 4 := ⟨_, rfl⟩
  rw [← quad_] at yoe_
  have close : leap ≤ quad ∧ quad ≤ leap + 1 := by omega
  have within : 100 * century ≤ yoe ∧ yoe < 100 * century + 100 := by omega
  have begun : 365 * yoe + yoe / 4 ≤ doe + century := by omega
  have before : doe + century < 365 * (yoe + 1) + (yoe + 1) / 4 := by omega
  clear yoe_ quad_ leap_ close many
  have hundreds : yoe / 100 = century ∧ yoe / 400 = 0 := by omega
  unfold yearStart
  rw [hundreds.1, hundreds.2]
  refine ⟨by omega, by omega, by omega, ?_⟩
  by_cases last : yoe = 100 * century + 99
  · subst last
    omega
  · have hundreds' : (yoe + 1) / 100 = century ∧ (yoe + 1) / 400 = 0 := by omega
    rw [hundreds'.1, hundreds'.2]
    omega

theorem yearOfEra_spec (days : Int) :
    0 ≤ yearOfEra days ∧ yearOfEra days ≤ 399 ∧ yearStart (yearOfEra days) ≤ dayOfEra days ∧
      dayOfEra days < yearStart (yearOfEra days + 1) := by
  have low : 0 ≤ dayOfEra days := Int.emod_nonneg _ (by decide)
  have high : dayOfEra days < 146097 := Int.emod_lt_of_pos _ (by decide)
  unfold yearOfEra
  dsimp only
  by_cases last : dayOfEra days = 146096
  · rw [last]
    decide
  · have before : dayOfEra days < 146096 := by omega
    apply year_of_day low before rfl
    rw [show dayOfEra days / 146096 = 0 by omega, sub_zero]

theorem dayOfYear_eq (days : Int) : dayOfYear days = dayOfEra days - yearStart (yearOfEra days) := by
  obtain ⟨low, high, -, -⟩ := yearOfEra_spec days
  unfold dayOfYear yearStart
  dsimp only
  omega

theorem dayOfYear_bounds (days : Int) : 0 ≤ dayOfYear days ∧ dayOfYear days ≤ 365 := by
  obtain ⟨low, high, begun, before⟩ := yearOfEra_spec days
  rw [dayOfYear_eq]
  unfold yearStart at *
  omega

theorem monthFromMarch_le (days : Int) : monthFromMarch days ≤ 11 := by
  have bounds := dayOfYear_bounds days
  unfold monthFromMarch
  omega

theorem month_mem (days : Int) : 1 ≤ month days ∧ month days ≤ 12 := by
  have bound := monthFromMarch_le days
  unfold month
  split <;> omega

theorem dayOfMonth_mem (days : Int) : 1 ≤ dayOfMonth days ∧ dayOfMonth days ≤ 31 := by
  have bounds := dayOfYear_bounds days
  unfold dayOfMonth monthFromMarch
  omega

example : (year 20645, month 20645, dayOfMonth 20645) = (2026, 7, 11) := by decide

/-! ## The order of dates -/

/-- The year that begins in March, counted from that of 1 March of the year 0. -/
def marchYear (days : Int) : Int := yearOfEra days + (days + 719468) / 146097 * 400

theorem yearStart_era (y era : Int) : yearStart (y + era * 400) = yearStart y + era * 146097 := by
  unfold yearStart
  omega

theorem marchYear_spec (days : Int) :
    days + 719468 = yearStart (marchYear days) + dayOfYear days ∧
      days + 719468 < yearStart (marchYear days + 1) := by
  obtain ⟨-, -, -, before⟩ := yearOfEra_spec days
  have parts := Int.emod_add_mul_ediv (days + 719468) 146097
  have next : marchYear days + 1 = yearOfEra days + 1 + (days + 719468) / 146097 * 400 := by
    unfold marchYear
    ring
  rw [next, yearStart_era, marchYear, yearStart_era, dayOfYear_eq]
  unfold dayOfEra at *
  omega

/-- Months are counted alike in years that begin in March and in January. -/
theorem month_index (days : Int) :
    12 * year days + month days = 12 * marchYear days + monthFromMarch days + 3 := by
  have bound := monthFromMarch_le days
  have year_ : year days = marchYear days + if month days ≤ 2 then 1 else 0 := rfl
  have month_ : month days =
    if monthFromMarch days < 10 then monthFromMarch days + 3 else monthFromMarch days - 9 := rfl
  split at month_ <;> split at year_ <;> omega

theorem date_lt {a b : Int} (lt : a < b) : year a < year b ∨
    (year a = year b ∧ (month a < month b ∨ month a = month b ∧ dayOfMonth a < dayOfMonth b)) := by
  obtain ⟨aYear, -⟩ := marchYear_spec a
  obtain ⟨bYear, bNext⟩ := marchYear_spec b
  have aDay := dayOfYear_bounds a
  have bDay := dayOfYear_bounds b
  have years : marchYear a ≤ marchYear b := by
    by_contra later
    have start := yearStart_mono (show marchYear b + 1 ≤ marchYear a by omega)
    omega
  have aIndex := month_index a
  have bIndex := month_index b
  have aMonth := month_mem a
  have bMonth := month_mem b
  rcases years.lt_or_eq with earlier | same
  · have aBound := monthFromMarch_le a
    omega
  · rw [same] at aYear aIndex
    have days : dayOfYear a < dayOfYear b := by omega
    have months : monthFromMarch a ≤ monthFromMarch b := by
      unfold monthFromMarch
      omega
    have within : monthFromMarch a = monthFromMarch b → dayOfMonth a < dayOfMonth b := by
      intro sameMonth
      unfold dayOfMonth
      rw [sameMonth]
      omega
    omega

end SupplyDrop.Library.Calendar
