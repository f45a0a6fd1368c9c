import ProvisionWatch.Time.Instant

/-!
# Every day has its place in the calendar

A cycle of 400 years consists of four centuries, a century of 25 groups of four
years, and only the last century and the last year of a group may have a day
more than the others.  Counted from the first of March that day is the last one
of its year, so a day of a cycle is told by its century, its group and its place
there, and year, month and day follow.

Main results:

- Theorem `exists_place`: the place of a day in its cycle.
- Theorem `isValid_ofDayNumber`: every number names a day of the calendar.
- Theorem `dayNumber_ofDayNumber`: and counting gives that number back.
-/

namespace ProvisionWatch
namespace Date

/-! ## The place of a day in its cycle -/

/-- A day of a cycle of 400 years: its century, its group of four years and its place there. -/
structure Place where
  century : Nat
  group : Nat
  day : Nat
  century_lt : century < 4
  group_lt : group < 25
  day_lt : day < 1461
  /-- Only the last century of a cycle ends with a leap day. -/
  day_lt_of_last : century < 3 → group = 24 → day < 1460

namespace Place

/-- How many days of the cycle come before. -/
def dayOfCycle (p : Place) : Nat :=
  36524 * p.century + 1461 * p.group + p.day

/-- The year within the group. -/
def yearOfGroup (p : Place) : Nat :=
  if p.day = 1460 then 3 else p.day / 365

/-- The year within the cycle, which starts in March. -/
def yearOfCycle (p : Place) : Nat :=
  100 * p.century + 4 * p.group + p.yearOfGroup

/-- How many days of the year come before. -/
def dayOfYear (p : Place) : Nat :=
  p.day - 365 * p.yearOfGroup

theorem yearOfGroup_le (p : Place) : p.yearOfGroup ≤ 3 ∧ 365 * p.yearOfGroup ≤ p.day := by
  have hday := p.day_lt
  unfold yearOfGroup
  split <;> omega

/-- The last day of a leap year is the last one of its group. -/
theorem dayOfYear_le (p : Place) : p.dayOfYear ≤ 365 ∧ (p.dayOfYear = 365 → p.day = 1460) := by
  have hday := p.day_lt
  unfold dayOfYear yearOfGroup
  split <;> omega

theorem yearOfCycle_lt (p : Place) : p.yearOfCycle < 400 := by
  have hcentury := p.century_lt
  have hgroup := p.group_lt
  have hyear := p.yearOfGroup_le
  unfold yearOfCycle
  omega

/-- The days of the years before, and those of the year. -/
theorem dayOfCycle_eq (p : Place) :
    p.dayOfCycle =
      365 * p.yearOfCycle + p.yearOfCycle / 4 - p.yearOfCycle / 100 + p.dayOfYear := by
  have hgroup := p.group_lt
  obtain ⟨hyear, hday⟩ := p.yearOfGroup_le
  unfold dayOfCycle dayOfYear yearOfCycle
  omega

/-- The year of a day by counting. -/
theorem yearOfCycle_eq (p : Place) :
    (p.dayOfCycle - p.dayOfCycle / 1460 + p.dayOfCycle / 36524 - p.dayOfCycle / 146096) / 365 =
      p.yearOfCycle := by
  obtain ⟨f, j, s, hf, hj, hs, hlast⟩ := p
  simp only [dayOfCycle, yearOfCycle, yearOfGroup]
  generalize hd : 36524 * f + 1461 * j + s = d
  have hgroups : d / 1460 = 25 * f + j + (24 * f + j + s) / 1460 := by omega
  have hcenturies : d / 36524 - d / 146096 = f := by omega
  have hcycles : d / 146096 ≤ d / 36524 := by omega
  have hsplit : d - d / 1460 + d / 36524 - d / 146096 =
      365 * (100 * f + 4 * j) + (s - (24 * f + j + s) / 1460) := by omega
  rw [hsplit, Nat.mul_add_div (by decide)]
  congr 1
  split <;> omega

end Place

/-- Every day of a cycle has its place. -/
theorem exists_place {d : Nat} (h : d < 146097) : ∃ p : Place, p.dayOfCycle = d := by
  by_cases hlast : d = 146096
  · exact ⟨⟨3, 24, 1460, by decide, by decide, by decide, by decide⟩, hlast.symm⟩
  · refine ⟨⟨d / 36524, d % 36524 / 1461, d % 36524 % 1461, ?_, ?_, ?_, ?_⟩, ?_⟩
    · omega
    · omega
    · omega
    · omega
    · simp only [Place.dayOfCycle]
      omega

/-! ## Months -/

/-- The month with a number from March on, which starts in the next year of the count for January
and February. -/
def monthOf (monthFromMarch : Nat) : Nat :=
  if monthFromMarch < 10 then monthFromMarch + 3 else monthFromMarch - 9

/-- The days of a year that come before a month, counted from March. -/
def daysBefore (monthFromMarch : Nat) : Nat :=
  (153 * monthFromMarch + 2) / 5

/-- The day that is so many days after 1970-01-01, by its place. -/
theorem ofDayNumber_eq {n : Int} {p : Place}
    (hp : (p.dayOfCycle : Int) = (n + 719468) % 146097) :
    ofDayNumber n =
      { year := p.yearOfCycle + (n + 719468) / 146097 * 400 +
          (if monthOf ((5 * p.dayOfYear + 2) / 153) ≤ 2 then 1 else 0)
        month := monthOf ((5 * p.dayOfYear + 2) / 153)
        day := p.dayOfYear - daysBefore ((5 * p.dayOfYear + 2) / 153) + 1 } := by
  have hcycle : ((n + 719468) % 146097).toNat = p.dayOfCycle := by omega
  have hday : p.dayOfCycle -
      (365 * p.yearOfCycle + p.yearOfCycle / 4 - p.yearOfCycle / 100) = p.dayOfYear := by
    rw [p.dayOfCycle_eq]
    omega
  simp only [ofDayNumber, hcycle, p.yearOfCycle_eq, hday]
  rfl

/-- A day of a year lies between the start of its month and that of the next one. -/
theorem daysBefore_bounds {doy : Nat} (h : doy ≤ 365) :
    (5 * doy + 2) / 153 ≤ 11 ∧ daysBefore ((5 * doy + 2) / 153) ≤ doy ∧
      doy < daysBefore ((5 * doy + 2) / 153 + 1) := by
  unfold daysBefore
  omega

/-- A month lasts until the next one, except for February. -/
theorem monthLength_monthOf (year : Int) {m : Nat} (h : m < 11) :
    monthLength year (monthOf m) = daysBefore (m + 1) - daysBefore m := by
  have hcases : m = 0 ∨ m = 1 ∨ m = 2 ∨ m = 3 ∨ m = 4 ∨ m = 5 ∨ m = 6 ∨ m = 7 ∨ m = 8 ∨ m = 9 ∨
      m = 10 := by omega
  rcases hcases with rfl | rfl | rfl | rfl | rfl | rfl | rfl | rfl | rfl | rfl | rfl <;> rfl

/-- The year that follows a year of 366 days is the one that has the leap day. -/
theorem Place.isLeapYear_of_day (p : Place) (h : p.day = 1460) (cycle : Int) :
    isLeapYear (p.yearOfCycle + cycle * 400 + 1) = true := by
  have hcentury := p.century_lt
  have hgroup := p.group_lt
  have hlast := p.day_lt_of_last
  have hyear : (p.yearOfCycle : Int) = 100 * p.century + 4 * p.group + 3 := by
    simp [yearOfCycle, yearOfGroup, h]
  rw [hyear]
  simp only [isLeapYear, Bool.and_eq_true, Bool.or_eq_true, beq_iff_eq, bne_iff_ne, ne_eq]
  omega

/-- Every number names a day of the calendar. -/
@[simp]
theorem isValid_ofDayNumber (n : Int) : (ofDayNumber n).isValid = true := by
  obtain ⟨p, hp⟩ := exists_place (d := ((n + 719468) % 146097).toNat) (by omega)
  rw [ofDayNumber_eq (p := p) (by omega)]
  obtain ⟨hle, hlast⟩ := p.dayOfYear_le
  obtain ⟨hmonth, hfrom, hto⟩ := daysBefore_bounds hle
  generalize hm : (5 * p.dayOfYear + 2) / 153 = m at *
  simp only [isValid, Bool.and_eq_true, decide_eq_true_eq]
  refine ⟨by omega, ?_⟩
  rcases Nat.lt_or_eq_of_le hmonth with hm | rfl
  · rw [monthLength_monthOf _ hm]
    omega
  · rw [if_pos (by decide)]
    show _ ≤ if isLeapYear _ then 29 else 28
    simp only [daysBefore] at *
    by_cases hday : p.dayOfYear = 365
    · rw [p.isLeapYear_of_day (hlast hday), if_pos rfl]
      omega
    · split <;> omega

/-- Counting to the day that a number names gives that number. -/
@[simp]
theorem dayNumber_ofDayNumber (n : Int) : dayNumber (ofDayNumber n) = n := by
  obtain ⟨p, hp⟩ := exists_place (d := ((n + 719468) % 146097).toNat) (by omega)
  rw [ofDayNumber_eq (p := p) (by omega)]
  obtain ⟨hle, -⟩ := p.dayOfYear_le
  obtain ⟨hmonth, hfrom, -⟩ := daysBefore_bounds hle
  have hdays := p.dayOfCycle_eq
  have hyear := p.yearOfCycle_lt
  generalize (5 * p.dayOfYear + 2) / 153 = m at *
  generalize hcycle : (n + 719468) / 146097 = cycle
  have hback : ((monthOf m : Int) + 9) % 12 = m := by
    unfold monthOf
    split <;> omega
  have hshift : (if monthOf m ≤ 2 then
      (p.yearOfCycle : Int) + cycle * 400 + (if monthOf m ≤ 2 then 1 else 0) - 1
      else (p.yearOfCycle : Int) + cycle * 400 + (if monthOf m ≤ 2 then 1 else 0)) =
      p.yearOfCycle + cycle * 400 := by
    split <;> omega
  have hquotient : ((p.yearOfCycle : Int) + cycle * 400) / 400 = cycle := by omega
  have hremainder : ((p.yearOfCycle : Int) + cycle * 400) % 400 = p.yearOfCycle := by omega
  simp only [dayNumber, hshift, hquotient, hremainder, hback]
  unfold daysBefore at *
  omega

example : dayNumber ⟨1970, 1, 1⟩ = 0 := by
  decide

/-- A day of the calendar lies in one of twelve months, and none is longer than 31 days. -/
theorem bounds_of_isValid {d : Date} (h : d.isValid = true) :
    1 ≤ d.month ∧ d.month ≤ 12 ∧ 1 ≤ d.day ∧ d.day ≤ 31 := by
  simp only [isValid, Bool.and_eq_true, decide_eq_true_eq] at h
  obtain ⟨hfirst, hlength⟩ := h
  have hday := Nat.le_trans hlength (monthLength_le d.year d.month)
  have hmonth : monthLength d.year d.month ≠ 0 := by omega
  unfold monthLength at hmonth
  split at hmonth <;> simp_all

/-- A year is not shorter than 365 days. -/
theorem natAbs_year_ofDayNumber_le {n : Int} (h : n.natAbs ≤ 100000000) :
    (ofDayNumber n).year.natAbs ≤ 300000 := by
  obtain ⟨p, hp⟩ := exists_place (d := ((n + 719468) % 146097).toNat) (by omega)
  rw [ofDayNumber_eq (p := p) (by omega)]
  have hyear := p.yearOfCycle_lt
  dsimp only
  split <;> omega

end Date
end ProvisionWatch
