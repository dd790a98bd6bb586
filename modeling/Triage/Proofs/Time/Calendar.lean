import Mathlib.Tactic.IntervalCases
import Triage.Time.Calendar

/-!
# Days and dates

Every number of days is the number of days of its date (`toDays_ofDays`), and the date exists
(`isValid_ofDays`). Both rest on the parts of a day within an era of four hundred years: centuries,
groups of four years, years, and the days of a year that begins in March.
-/
namespace Triage.Time

/-- The parts of a day within an era. Only the last year of a group of four has 366 days, and the last
group of a century does not, except in the last century. -/
structure EraDay where
  century : Int
  group : Int
  year : Int
  day : Int
  century_range : 0 ≤ century ∧ century ≤ 3
  group_range : 0 ≤ group ∧ group ≤ 24
  year_range : 0 ≤ year ∧ year ≤ 3
  day_range : 0 ≤ day ∧ day ≤ 365
  leap : day = 365 → year = 3 ∧ (group = 24 → century = 3)

namespace EraDay

def dayOfEra (p : EraDay) : Int := 36524 * p.century + 1461 * p.group + 365 * p.year + p.day

def yearOfEra (p : EraDay) : Int := 100 * p.century + 4 * p.group + p.year

theorem exists_dayOfEra {n : Int} (h : 0 ≤ n ∧ n ≤ 146096) : ∃ p : EraDay, p.dayOfEra = n := by
  -- The last day of an era or of a group of four years begins no new century or year.
  obtain ⟨c, hc, hr⟩ : ∃ c, (0 ≤ c ∧ c ≤ 3) ∧ 0 ≤ n - 36524 * c ∧
      (n - 36524 * c ≤ 36523 ∨ c = 3 ∧ n - 36524 * c ≤ 36524) := by
    by_cases hlast : n = 146096
    · exact ⟨3, by omega⟩
    · exact ⟨n / 36524, by omega⟩
  obtain ⟨q, hq⟩ : ∃ q, q = (n - 36524 * c) / 1461 := ⟨_, rfl⟩
  obtain ⟨r, hr'⟩ : ∃ r, r = n - 36524 * c - 1461 * q := ⟨_, rfl⟩
  by_cases hlast : r = 1460
  · exact ⟨⟨c, q, 3, 365, hc, by omega, by omega, by omega, by omega⟩, by simp only [dayOfEra]; omega⟩
  · exact ⟨⟨c, q, r / 365, r % 365, hc, by omega, by omega, by omega, by omega⟩,
      by simp only [dayOfEra]; omega⟩

theorem yearOfEra_range (p : EraDay) : 0 ≤ p.yearOfEra ∧ p.yearOfEra ≤ 399 := by
  have hc := p.century_range
  have hg := p.group_range
  have hy := p.year_range
  unfold yearOfEra
  omega

theorem century_eq {c r : Int} (hc : 0 ≤ c ∧ c ≤ 3) (hr : 0 ≤ r) (h : r ≤ 36523 ∨ c = 3 ∧ r = 36524) :
    (36524 * c + r) / 36524 - (36524 * c + r) / 146096 = c := by
  rcases h with h | ⟨rfl, rfl⟩
  · have hera : (36524 * c + r) / 146096 = 0 := by omega
    omega
  · decide

/-- The year of the era by divisions of the day. -/
theorem yearOfEra_eq (p : EraDay) :
    (p.dayOfEra - p.dayOfEra / 1460 + p.dayOfEra / 36524 - p.dayOfEra / 146096) / 365 = p.yearOfEra := by
  obtain ⟨c, g, y, d, hc, hg, hy, hd, hleap⟩ := p
  simp only [dayOfEra, yearOfEra] at *
  have hcentury : (36524 * c + 1461 * g + 365 * y + d) / 36524 -
      (36524 * c + 1461 * g + 365 * y + d) / 146096 = c := by
    have hparts := century_eq (r := 1461 * g + 365 * y + d) hc (by omega) (by omega)
    rwa [← Int.add_assoc, ← Int.add_assoc] at hparts
  have hgroup : (36524 * c + 1461 * g + 365 * y + d) / 1460 =
      25 * c + g + (24 * c + g + 365 * y + d) / 1460 := by omega
  omega

/-- The days before a year of the era. -/
theorem daysBefore_eq (p : EraDay) :
    p.dayOfEra - (365 * p.yearOfEra + p.yearOfEra / 4 - p.yearOfEra / 100) = p.day := by
  obtain ⟨c, g, y, d, hc, hg, hy, hd, hleap⟩ := p
  simp only [dayOfEra, yearOfEra] at *
  have hfour : (100 * c + 4 * g + y) / 4 = 25 * c + g := by omega
  have hhundred : (100 * c + 4 * g + y) / 100 = c := by omega
  omega

/-- The year that ends with a day 365 is a leap year. -/
theorem isLeap_of_day (p : EraDay) (h : p.day = 365) (era : Int) :
    isLeap (p.yearOfEra + era * 400 + 1) = true := by
  obtain ⟨hy, hcentury⟩ := p.leap h
  have hg := p.group_range
  have hc := p.century_range
  simp only [isLeap, yearOfEra, Bool.and_eq_true, Bool.or_eq_true, beq_iff_eq, bne_iff_ne]
  omega

end EraDay

/-- The day `day` of the year that begins with March of the year `year`. -/
def Date.fromMarch (year day : Int) : Date :=
  let monthFromMarch := (5 * day + 2) / 153
  let month := if monthFromMarch < 10 then monthFromMarch + 3 else monthFromMarch - 9
  ⟨if month ≤ 2 then year + 1 else year, month.toNat, (day - (153 * monthFromMarch + 2) / 5 + 1).toNat⟩

/-- The date of a number of days, by the parts of the day within its era. -/
theorem exists_ofDays (days : Int) : ∃ (era : Int) (p : EraDay),
    days = era * 146097 + p.dayOfEra - 719468 ∧
      Date.ofDays days = Date.fromMarch (p.yearOfEra + era * 400) p.day := by
  obtain ⟨p, hp⟩ : ∃ p : EraDay, p.dayOfEra = days + 719468 - (days + 719468) / 146097 * 146097 :=
    EraDay.exists_dayOfEra (by omega)
  refine ⟨(days + 719468) / 146097, p, by omega, ?_⟩
  simp only [Date.ofDays, Date.fromMarch, ← hp, p.yearOfEra_eq, p.daysBefore_eq]

/-- The twelve months, one after the other: the date exists. -/
theorem isValid_fromMarch {year day : Int} (h : 0 ≤ day ∧ day ≤ 365)
    (hleap : day = 365 → isLeap (year + 1) = true) : (Date.fromMarch year day).isValid = true := by
  obtain ⟨m, hm⟩ : ∃ m, m = (5 * day + 2) / 153 := ⟨_, rfl⟩
  have hlow : 0 ≤ m := by omega
  have hhigh : m ≤ 11 := by omega
  simp only [Date.fromMarch, Date.isValid, ← hm, Bool.and_eq_true, decide_eq_true_eq, daysInMonth]
  interval_cases m
  all_goals simp
  case «11» =>
    cases hyear : isLeap (year + 1) with
    | true => simp; omega
    | false =>
      have hday : day ≠ 365 := fun hd => by simp [hleap hd] at hyear
      simp
      omega
  all_goals omega

theorem toDays_fromMarch {year day : Int} (h : 0 ≤ day ∧ day ≤ 365) :
    (Date.fromMarch year day).toDays = year / 400 * 146097 + ((year - year / 400 * 400) * 365 +
      (year - year / 400 * 400) / 4 - (year - year / 400 * 400) / 100 + day) - 719468 := by
  obtain ⟨m, hm⟩ : ∃ m, m = (5 * day + 2) / 153 := ⟨_, rfl⟩
  have hlow : 0 ≤ m := by omega
  have hhigh : m ≤ 11 := by omega
  simp only [Date.fromMarch, Date.toDays, ← hm]
  interval_cases m
  all_goals simp
  all_goals omega

/-- **The date of a number of days** is that many days away. -/
theorem toDays_ofDays (days : Int) : (Date.ofDays days).toDays = days := by
  obtain ⟨era, p, hdays, hdate⟩ := exists_ofDays days
  have hyear := p.yearOfEra_range
  have hera : (p.yearOfEra + era * 400) / 400 = era := by omega
  have hbefore := p.daysBefore_eq
  rw [hdate, toDays_fromMarch p.day_range, hera, Int.add_sub_cancel]
  omega

/-- **The date of a number of days** exists. -/
theorem isValid_ofDays (days : Int) : (Date.ofDays days).isValid = true := by
  obtain ⟨era, p, -, hdate⟩ := exists_ofDays days
  rw [hdate]
  exact isValid_fromMarch p.day_range fun h => p.isLeap_of_day h era

end Triage.Time
