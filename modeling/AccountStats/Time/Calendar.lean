/-
The proleptic Gregorian calendar as a count of days from 1970-01-01.

Years are counted from 1 March, so that the leap day is the last day of its year. 400 such years are an era of 146097
days; an era is four centuries (the last one a day longer), a century is 25 cycles of four years (the last one a day
shorter, except in the last century), a cycle is four years (the last one a day longer).

Results:
- `toDays_ofDays`: a date built from a day number has that day number;
- `valid_ofDays`: it is a date of the calendar.
-/
namespace AccountStats.Time

structure Date where
  year : Int
  /-- 1 to 12 -/
  month : Nat
  /-- from 1 -/
  day : Nat
deriving DecidableEq, Repr

namespace Date

def isLeap (year : Int) : Bool := year % 4 == 0 && (year % 100 != 0 || year % 400 == 0)

def daysInMonth (year : Int) (month : Nat) : Nat :=
  if month = 2 then if isLeap year then 29 else 28
  else if month = 4 ∨ month = 6 ∨ month = 9 ∨ month = 11 then 30 else 31

/-- the month exists, and the day in it -/
def Valid (d : Date) : Prop := 1 ≤ d.month ∧ d.month ≤ 12 ∧ 1 ≤ d.day ∧ d.day ≤ daysInMonth d.year d.month

instance (d : Date) : Decidable d.Valid := by unfold Valid; infer_instance

/-! ## Years from 1 March -/

/-- days between the first days of year 0 and of year `y` -/
def daysBefore (y : Int) : Int := 365 * y + y / 4 - y / 100 + y / 400

/-- days between the first days of a year and of one of its months, the month a number from zero -/
def monthStart (m : Int) : Int := (153 * m + 2) / 5

/-- the day number of the first day of year 0 -/
def yearZero : Int := -719468

/-- the year of the day that comes so many days after the first of year 0, and how many come before it in that year -/
def placeInYear (z : Int) : Int × Int :=
  let inEra := z % 146097
  let century := min 3 (inEra / 36524)
  let inCentury := inEra - 36524 * century
  let inCycle := inCentury % 1461
  let yearOfCycle := min 3 (inCycle / 365)
  (400 * (z / 146097) + 100 * century + 4 * (inCentury / 1461) + yearOfCycle, inCycle - 365 * yearOfCycle)

/-! ## Dates and day numbers -/

/-- days from 1970-01-01, negative before it -/
def toDays (d : Date) : Int :=
  let fromMarch : Int := if 2 < d.month then d.month - 3 else d.month + 9
  let y : Int := if 2 < d.month then d.year else d.year - 1
  yearZero + daysBefore y + monthStart fromMarch + (d.day - 1)

/-- the date of a day number -/
def ofDays (n : Int) : Date :=
  let (y, inYear) := placeInYear (n - yearZero)
  let m := (5 * inYear + 2) / 153
  { year := if m < 10 then y else y + 1
    month := (if m < 10 then m + 3 else m - 9).toNat
    day := (inYear - monthStart m + 1).toNat }

/-! ## From numbers to dates and back -/

/-- a year has at most 366 days, and the last of them is a leap day -/
theorem placeInYear_spec (z : Int) :
    daysBefore (placeInYear z).1 + (placeInYear z).2 = z ∧ 0 ≤ (placeInYear z).2 ∧ (placeInYear z).2 ≤ 365 ∧
      ((placeInYear z).2 = 365 → isLeap ((placeInYear z).1 + 1) = true) := by
  unfold placeInYear daysBefore
  extract_lets inEra century inCentury inCycle yearOfCycle
  have hz : z = 146097 * (z / 146097) + inEra := by omega
  have hera : 0 ≤ inEra ∧ inEra ≤ 146096 := by omega
  have hcentury : 0 ≤ century ∧ century ≤ 3 := by omega
  have hin : 0 ≤ inCentury ∧ inCentury ≤ 36524 ∧ (century < 3 → inCentury < 36524) := by omega
  have hcycle : inCentury = 1461 * (inCentury / 1461) + inCycle ∧ 0 ≤ inCycle ∧ inCycle ≤ 1460 := by omega
  have hyear : 0 ≤ yearOfCycle ∧ yearOfCycle ≤ 3 := by omega
  generalize z / 146097 = era at hz ⊢
  generalize inCentury / 1461 = cycle at hcycle ⊢
  have hcycles : 0 ≤ cycle ∧ cycle ≤ 24 := by omega
  have hlast : 0 ≤ inCycle - 365 * yearOfCycle ∧ inCycle - 365 * yearOfCycle ≤ 365 ∧
      (inCycle - 365 * yearOfCycle = 365 → yearOfCycle = 3 ∧ inCycle = 1460) := by omega
  have h4 : (400 * era + 100 * century + 4 * cycle + yearOfCycle) / 4 = 100 * era + 25 * century + cycle := by omega
  have h100 : (400 * era + 100 * century + 4 * cycle + yearOfCycle) / 100 = 4 * era + century := by omega
  have h400 : (400 * era + 100 * century + 4 * cycle + yearOfCycle) / 400 = era := by omega
  refine ⟨?_, hlast.1, hlast.2.1, fun h => ?_⟩
  · rw [h4, h100, h400]
    omega
  · obtain ⟨h3, hend⟩ := hlast.2.2 h
    simp only [isLeap, Bool.and_eq_true, Bool.or_eq_true, beq_iff_eq, bne_iff_ne, ne_eq]
    omega

theorem toDays_ofDays (n : Int) : (ofDays n).toDays = n := by
  obtain ⟨hplace, hlow, hhigh, -⟩ := placeInYear_spec (n - yearZero)
  unfold ofDays
  generalize placeInYear (n - yearZero) = p at *
  obtain ⟨y, inYear⟩ := p
  simp only at hplace hlow hhigh ⊢
  have hday : 0 ≤ inYear - monthStart ((5 * inYear + 2) / 153) := by unfold monthStart; omega
  generalize hm : (5 * inYear + 2) / 153 = m at *
  have hm : 0 ≤ m ∧ m ≤ 11 := by omega
  unfold toDays
  by_cases h : m < 10
  · simp only [h, if_true]
    have hmonth : 2 < (m + 3).toNat := by omega
    have heq : ((m + 3).toNat : Int) - 3 = m := by omega
    simp only [hmonth, if_true, heq]
    omega
  · simp only [h, if_false]
    have hmonth : ¬ 2 < (m - 9).toNat := by omega
    have heq : ((m - 9).toNat : Int) + 9 = m := by omega
    have hyear : y + 1 - 1 = y := by omega
    simp only [hmonth, if_false, heq, hyear]
    omega

theorem valid_ofDays (n : Int) : (ofDays n).Valid := by
  obtain ⟨-, hlow, hhigh, hleap⟩ := placeInYear_spec (n - yearZero)
  unfold ofDays
  generalize placeInYear (n - yearZero) = p at *
  obtain ⟨y, inYear⟩ := p
  simp only at hlow hhigh hleap ⊢
  generalize hm : (5 * inYear + 2) / 153 = m
  have hrange : 0 ≤ m ∧ m ≤ 11 := by omega
  unfold Valid daysInMonth monthStart
  by_cases h : m < 10
  · simp only [h, if_true]
    have : (m + 3).toNat ≠ 2 := by omega
    simp only [this, if_false]
    refine ⟨by omega, by omega, by omega, ?_⟩
    split <;> omega
  · simp only [h, if_false]
    by_cases hfeb : m = 11
    · subst hfeb
      by_cases hlast : inYear = 365
      · simp [hleap hlast, hlast]
      · refine ⟨by omega, by omega, by omega, ?_⟩
        split
        · split <;> omega
        · omega
    · have hjan : m = 10 := by omega
      subst hjan
      refine ⟨by omega, by omega, by omega, ?_⟩
      split
      · omega
      · split <;> omega

end Date

end AccountStats.Time
