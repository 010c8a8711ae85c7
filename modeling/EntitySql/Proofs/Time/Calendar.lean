import Mathlib
import EntitySql.Time.Basic

/-!
# Day numbers of the calendar

`CivilDate.ofDays` finds the date of a day number by the era arithmetic of the Gregorian cycle:
the days since 0000-03-01 are cut into eras of 400 years (146097 days), the day of an era into a
year counted from March, and the day of that year into a month. This module shows that the
arithmetic is right for every day number:

* within an era, the year it finds starts at or before the day, and the day is at most the
  366th of that year, the 366th only when the year ends in a February of 29 days
  (`CivilDate.yearOfEra_spec`);
* the date it gives has a month from 1 to 12 and a day within that month
  (`CivilDate.ofDays_month_day`);
* `toDays` takes the date back to the day number (`CivilDate.toDays_ofDays`).

So an instant is the instant of its UTC date and time of day (`Timestamp.ofUtc_date_time`), and
the time of day of an instant is a valid one when a leap second falls on the last second of a
minute (`Timestamp.time_isValid`).
-/

namespace EntitySql

namespace CivilDate

/-- Day `doe` of an era of 400 years counted from March 1 falls in the year `yoe` that the era
arithmetic finds: on or after the first day of that year, which is day `365 yoe + yoe / 4 -
yoe / 100` of the era, and at most 365 days after it; 365 days after it only when the year
ends in a February of 29 days. -/
theorem yearOfEra_spec {doe : Int} (h0 : 0 ≤ doe) (h1 : doe ≤ 146096) :
    let yoe := (doe - doe / 1460 + doe / 36524 - doe / 146096) / 365
    0 ≤ yoe ∧ yoe ≤ 399 ∧ 365 * yoe + yoe / 4 - yoe / 100 ≤ doe ∧
      doe ≤ 365 * yoe + yoe / 4 - yoe / 100 + 365 ∧
      (doe = 365 * yoe + yoe / 4 - yoe / 100 + 365 →
        (yoe + 1) % 4 = 0 ∧ ((yoe + 1) % 100 ≠ 0 ∨ (yoe + 1) % 400 = 0)) := by
  intro yoe
  by_cases hlast : doe = 146096
  · -- the era's last day is February 29 of its last year
    have hy : yoe = 399 := by simp only [yoe, hlast]; norm_num
    rw [hy, hlast]
    norm_num
  obtain ⟨C, Q, S, hC, hQ, hS, hQS, hd⟩ : ∃ C Q S : Int, (0 ≤ C ∧ C ≤ 3) ∧ (0 ≤ Q ∧ Q ≤ 24) ∧
      (0 ≤ S ∧ S ≤ 1460) ∧ 1461 * Q + S ≤ 36523 ∧ doe = 36524 * C + 1461 * Q + S :=
    ⟨doe / 36524, doe % 36524 / 1461, doe % 36524 % 1461, by omega, by omega, by omega, by omega,
      by omega⟩
  have hcentury : doe / 36524 = C := by omega
  have hera : doe / 146096 = 0 := by omega
  have hquad : doe / 1460 = 25 * C + Q + (24 * C + Q + S) / 1460 := by omega
  have hyoe : yoe = 100 * C + 4 * Q + min (S / 365) 3 := by omega
  have h4 : yoe / 4 = 25 * C + Q := by omega
  have h100 : yoe / 100 = C := by omega
  refine ⟨by omega, by omega, by omega, by omega, fun hdoy => ?_⟩
  have hS : S = 1460 := by omega
  omega

theorem ofDays_spec (z : Int) : ∃ era yoe doy mp : Int,
    z + 719468 = era * 146097 + (365 * yoe + yoe / 4 - yoe / 100) + doy ∧
      0 ≤ yoe ∧ yoe ≤ 399 ∧ 0 ≤ doy ∧ doy ≤ 365 ∧
      (doy = 365 → (yoe + 1) % 4 = 0 ∧ ((yoe + 1) % 100 ≠ 0 ∨ (yoe + 1) % 400 = 0)) ∧
      mp = (5 * doy + 2) / 153 ∧
      ofDays z = ⟨yoe + era * 400 + (if (if mp < 10 then mp + 3 else mp - 9) ≤ 2 then 1 else 0),
        (if mp < 10 then mp + 3 else mp - 9).toNat, (doy - (153 * mp + 2) / 5 + 1).toNat⟩ := by
  have h0 : 0 ≤ z + 719468 - (z + 719468) / 146097 * 146097 := by omega
  have h1 : z + 719468 - (z + 719468) / 146097 * 146097 ≤ 146096 := by omega
  obtain ⟨hy0, hy399, hstart, hend, hleap⟩ := yearOfEra_spec h0 h1
  exact ⟨_, _, _, _, by omega, hy0, hy399, by omega, by omega, fun h => hleap (by omega), rfl, rfl⟩

theorem ofDays_month_day (z : Int) :
    1 ≤ (ofDays z).month ∧ (ofDays z).month ≤ 12 ∧ 1 ≤ (ofDays z).day ∧
      (ofDays z).day ≤ daysInMonth (ofDays z).year (ofDays z).month := by
  obtain ⟨era, yoe, doy, mp, -, hy0, hy399, hd0, hd365, hleap, hmp, hof⟩ := ofDays_spec z
  rw [hof]
  have hmp0 : 0 ≤ mp := by omega
  have hmp11 : mp ≤ 11 := by omega
  interval_cases mp
  all_goals simp only [daysInMonth, isLeapYear]
  all_goals norm_num
  all_goals omega

theorem toDays_ofDays (z : Int) : (ofDays z).toDays = z := by
  obtain ⟨era, yoe, doy, mp, hz, hy0, hy399, hd0, hd365, -, hmp, hof⟩ := ofDays_spec z
  rw [hof]
  have hmp0 : 0 ≤ mp := by omega
  have hmp11 : mp ≤ 11 := by omega
  have hm0 : 0 ≤ (if mp < 10 then mp + 3 else mp - 9) := by split_ifs <;> omega
  have hd0 : 0 ≤ doy - (153 * mp + 2) / 5 + 1 := by omega
  simp only [toDays, Int.toNat_of_nonneg hm0, Int.toNat_of_nonneg hd0]
  split_ifs <;> omega

theorem isValid_ofDays {z : Int} (hlo : minYear ≤ (ofDays z).year) (hhi : (ofDays z).year ≤ maxYear) :
    isValid (ofDays z).year (ofDays z).month (ofDays z).day = true := by
  obtain ⟨h1, h12, hd1, hdays⟩ := ofDays_month_day z
  simp only [isValid, decide_eq_true_eq]
  exact ⟨hlo, hhi, h1, h12, hd1, hdays⟩

end CivilDate

namespace Timestamp

theorem ofUtc_date_time (t : Timestamp) : ofUtc t.date t.time = t := by
  obtain ⟨s, nanos⟩ := t
  simp only [ofUtc, ofLocal, date, time, CivilDate.toDays_ofDays, ClockTime.secondOfDay,
    ClockTime.ofSecondOfDay, Timestamp.mk.injEq, and_true]
  have hr : (((s % 86400).toNat : Nat) : Int) = s % 86400 :=
    Int.toNat_of_nonneg (Int.emod_nonneg _ (by decide))
  have hlt : s % 86400 < 86400 := Int.emod_lt_of_pos _ (by decide)
  generalize (s % 86400).toNat = r at hr
  push_cast
  omega

/-- The time of day of an instant is a valid time when its nanoseconds reach a second only on the
last second of a minute. -/
theorem time_isValid {t : Timestamp}
    (h : t.nanos < 1000000000 ∨ (t.seconds % 60 = 59 ∧ t.nanos < 2000000000)) :
    t.time.isValid = true := by
  obtain ⟨s, nanos⟩ := t
  simp only [time, ClockTime.ofSecondOfDay, ClockTime.isValid] at h ⊢
  apply decide_eq_true
  have hr : (((s % 86400).toNat : Nat) : Int) = s % 86400 :=
    Int.toNat_of_nonneg (Int.emod_nonneg _ (by decide))
  have hlt : s % 86400 < 86400 := Int.emod_lt_of_pos _ (by decide)
  generalize (s % 86400).toNat = r at hr
  omega

end Timestamp

end EntitySql
