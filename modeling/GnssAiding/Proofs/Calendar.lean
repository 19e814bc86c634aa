/-
The calendar, one day and one second after the other.

`Date.next` is the day after a date: the next of the month, or the first of the next
month, or the first of the next year. The count of days grows by one from each date to the
next (`dayNumber_next`) and tells the date (`ofDayNumber_dayNumber`), so the arithmetic of
the count is that of the calendar, with the lengths of months and the leap days. In the
same way `Moment.next` is the second after a moment, and adding seconds to a moment is
going on second by second (`addSeconds_eq_iterate`).
-/
import GnssAiding.Calendar
import Mathlib.Logic.Function.Iterate
import Mathlib.Tactic.ByContra
import Mathlib.Tactic.IntervalCases

namespace GnssAiding

namespace Date

theorem make?_eq_some_iff {year : Int} {month day : Nat} {d : Date} :
    make? year month day = some d ↔ d.Valid ∧ d = ⟨year, month, day⟩ := by
  simp only [make?, Option.ite_none_right_eq_some, Option.some.injEq]
  exact ⟨fun ⟨hv, h⟩ => ⟨h ▸ hv, h.symm⟩, fun ⟨hv, h⟩ => ⟨h ▸ hv, h.symm⟩⟩

/-- The month has that day. -/
def InMonth (d : Date) : Prop := 1 ≤ d.day ∧ d.day ≤ daysIn d.year d.month

instance (d : Date) : Decidable d.InMonth := inferInstanceAs (Decidable (_ ∧ _))

/-- The day after. -/
def next (d : Date) : Date :=
  if d.day < daysIn d.year d.month then { d with day := d.day + 1 }
  else if d.month < 12 then ⟨d.year, d.month + 1, 1⟩
  else ⟨d.year + 1, 1, 1⟩

theorem isLeap_iff {year : Int} :
    isLeap year = true ↔ year % 4 = 0 ∧ (year % 100 ≠ 0 ∨ year % 400 = 0) := by
  simp only [isLeap, Bool.and_eq_true, Bool.or_eq_true, decide_eq_true_eq]

theorem daysIn_pos_iff {year : Int} {month : Nat} :
    0 < daysIn year month ↔ 1 ≤ month ∧ month ≤ 12 := by
  constructor
  · intro h
    unfold daysIn at h
    split at h
    all_goals first | exact ⟨by decide, by decide⟩ | cases h
  · rintro ⟨h1, h12⟩
    interval_cases month <;> simp only [daysIn] <;> (try split) <;> decide

theorem InMonth.month {d : Date} (h : d.InMonth) : 1 ≤ d.month ∧ d.month ≤ 12 :=
  daysIn_pos_iff.1 (Nat.lt_of_lt_of_le h.1 h.2)

theorem inMonth_next (d : Date) : d.next.InMonth := by
  have hjanuary : 1 ≤ 1 ∧ 1 ≤ 12 := by decide
  unfold next
  split
  · next hday => exact ⟨Nat.le_add_left 1 d.day, hday⟩
  split
  · next hm =>
    exact ⟨Nat.le_refl 1, daysIn_pos_iff.2 ⟨Nat.le_add_left 1 d.month, Nat.succ_le_of_lt hm⟩⟩
  · exact ⟨Nat.le_refl 1, daysIn_pos_iff.2 hjanuary⟩

/-! ## Years that begin in March -/

/-- Days from the start of March of year 0 to the start of March of a year. -/
def marchDays (year : Int) : Int := year * 365 + year / 4 - year / 100 + year / 400

/-- The year that the date is in when years begin in March. -/
def marchYear (d : Date) : Int := if d.month ≤ 2 then d.year - 1 else d.year

/-- How many months after March a month is. -/
def marchMonth (month : Nat) : Int := if month ≤ 2 then month + 9 else month - 3

/-- Days from the start of March to the start of the month that is `m` months after it. -/
def daysBefore (m : Int) : Int := (153 * m + 2) / 5

/-- Days from the start of March to the date. -/
def marchDay (d : Date) : Int := daysBefore (marchMonth d.month) + d.day - 1

theorem dayNumber_eq (d : Date) :
    d.dayNumber = marchDays d.marchYear + d.marchDay - 719468 := by
  unfold dayNumber marchDays marchYear marchDay marchMonth daysBefore
  dsimp only
  omega

theorem marchDays_succ (y : Int) :
    marchDays y = marchDays (y - 1) + if isLeap y then 366 else 365 := by
  simp only [marchDays, isLeap_iff]
  split <;> omega

/-- A month begins where the one before it ends. February is the last month of its year,
so where it ends is a matter of the year. -/
theorem daysBefore_next (year : Int) {month : Nat} (h1 : 1 ≤ month) (h12 : month < 12)
    (h2 : month ≠ 2) :
    daysBefore (marchMonth (month + 1)) = daysBefore (marchMonth month) + daysIn year month := by
  interval_cases month <;> first | rfl | exact absurd rfl h2

/-- **The days are counted one by one**, from each date to the day after it. -/
theorem dayNumber_next {d : Date} (h : d.InMonth) : d.next.dayNumber = d.dayNumber + 1 := by
  obtain ⟨hm1, hm12⟩ := h.month
  obtain ⟨hfirst, hlast⟩ := h
  obtain ⟨year, month, day⟩ := d
  simp only at hm1 hm12 hfirst hlast
  by_cases hday : day < daysIn year month
  · simp only [next, hday, if_true, dayNumber_eq, marchYear, marchDay]
    omega
  have hend : day = daysIn year month := by omega
  subst hend
  simp only [next, Nat.lt_irrefl, if_false, dayNumber_eq, marchDay]
  by_cases hfebruary : month = 2
  · subst hfebruary
    have hleap := marchDays_succ year
    have hfebruary : daysIn year 2 = if isLeap year then 29 else 28 := rfl
    simp [marchYear, marchMonth, daysBefore, hfebruary, hleap]
    split <;> omega
  by_cases hdecember : month = 12
  · subst hdecember
    simp [marchYear, marchMonth, daysBefore, daysIn]
    omega
  have hmonth := daysBefore_next year hm1 (by omega) hfebruary
  have hyear : marchYear ⟨year, month + 1, 1⟩ = marchYear ⟨year, month, daysIn year month⟩ := by
    simp only [marchYear]
    split <;> split <;> omega
  rw [if_pos (by omega)]
  simp only [hyear, hmonth]
  omega

/-! ## The date of a count of days -/

/-- Where the date is in a year that begins in March. -/
structure MarchPlace (d : Date) : Prop where
  month : 0 ≤ marchMonth d.month ∧ marchMonth d.month ≤ 11
  first : 1 ≤ d.day
  day : daysBefore (marchMonth d.month) + d.day ≤ daysBefore (marchMonth d.month + 1)
  last : d.marchDay ≤ 365
  leap : d.marchDay = 365 → isLeap (d.marchYear + 1) = true

theorem InMonth.marchPlace {d : Date} (h : d.InMonth) : d.MarchPlace := by
  obtain ⟨hm1, hm12⟩ := h.month
  obtain ⟨hfirst, hlast⟩ := h
  obtain ⟨year, month, day⟩ := d
  simp only at hm1 hm12 hfirst hlast
  by_cases hfebruary : month = 2
  · subst hfebruary
    have hday : (⟨year, 2, day⟩ : Date).marchDay = 336 + day := by
      simp only [marchDay, marchMonth, daysBefore]
      omega
    have hyear : (⟨year, 2, day⟩ : Date).marchYear + 1 = year := Int.sub_add_cancel year 1
    have hbefore : daysBefore (marchMonth 2) = 337 ∧ daysBefore (marchMonth 2 + 1) = 367 :=
      ⟨rfl, rfl⟩
    simp only [daysIn] at hlast
    constructor
    case month => exact (by decide : 0 ≤ marchMonth 2 ∧ marchMonth 2 ≤ 11)
    case first => exact hfirst
    case leap =>
      rw [hday, hyear]
      intro h365
      by_contra hleap
      rw [if_neg hleap] at hlast
      omega
    all_goals simp only [hday, hbefore]
    all_goals split at hlast <;> omega
  · constructor
    all_goals simp only [marchDay, marchMonth, daysBefore]
    all_goals interval_cases month
    all_goals simp_all [daysIn]
    all_goals omega

theorem InMonth.marchDay_nonneg {d : Date} (h : d.InMonth) : 0 ≤ d.marchDay := by
  have hfirst := h.marchPlace.first
  have hmonth := h.marchPlace.month
  unfold marchDay daysBefore
  omega

/-- The month is found from the days since the start of March. -/
theorem InMonth.marchMonth_eq {d : Date} (h : d.InMonth) :
    (5 * d.marchDay + 2) / 153 = marchMonth d.month := by
  have hday := h.marchPlace.day
  have hfirst := h.marchPlace.first
  unfold marchDay
  unfold daysBefore at hday ⊢
  omega

/-- A day of an era of 400 years, behind so many centuries, spans of four years, years and
days. Only a leap year has its last day, and three centuries end without one. -/
structure InEra (c q r d : Int) : Prop where
  century : 0 ≤ c ∧ c ≤ 3
  span : 0 ≤ q ∧ q ≤ 24
  year : 0 ≤ r ∧ r ≤ 3
  day : 0 ≤ d ∧ d ≤ 365
  leap : d = 365 → r = 3 ∧ (q < 24 ∨ c = 3)

/-- Days from the start of an era. -/
def eraDay (c q r d : Int) : Int := 36524 * c + 1461 * q + 365 * r + d

section InEra

variable {c q r d : Int}

theorem InEra.bounds (h : InEra c q r d) : 0 ≤ eraDay c q r d ∧ eraDay c q r d < 146097 := by
  obtain ⟨hc, hq, hr, hd, hleap⟩ := h
  unfold eraDay
  omega

theorem InEra.yearStart (h : InEra c q r d) :
    365 * (100 * c + 4 * q + r) + (100 * c + 4 * q + r) / 4 - (100 * c + 4 * q + r) / 100 =
      eraDay c q r 0 := by
  obtain ⟨hc, hq, hr, -, -⟩ := h
  have hspans : (100 * c + 4 * q + r) / 4 = 25 * c + q := by omega
  have hcenturies : (100 * c + 4 * q + r) / 100 = c := by omega
  rw [hspans, hcenturies, eraDay]
  omega

/-- The year is found from the days. Four years are taken for 1460 days, so that the next
year seems to begin up to a day early, and the day taken away for that is one that can be
spared. -/
theorem InEra.year_eq (h : InEra c q r d) :
    (eraDay c q r d - eraDay c q r d / 1460 + eraDay c q r d / 36524 -
      eraDay c q r d / 146096) / 365 = 100 * c + 4 * q + r := by
  obtain ⟨hc, hq, hr, hd, hleap⟩ := h
  generalize hn : eraDay c q r d = n
  unfold eraDay at hn
  have hcenturies : n / 36524 - n / 146096 = c := by
    by_cases hlast : n = 146096
    · rw [hlast]
      omega
    · have : n / 146096 = 0 := by omega
      omega
  have hspans : n / 1460 = 25 * c + q + if 1460 ≤ 24 * c + q + 365 * r + d then 1 else 0 := by
    split <;> omega
  have hdays : n - n / 1460 + n / 36524 - n / 146096 =
      (d - if 1460 ≤ 24 * c + q + 365 * r + d then 1 else 0) + 365 * (100 * c + 4 * q + r) := by
    omega
  rw [hdays]
  split <;> omega

theorem marchDays_parts {y era : Int} (hy : y = 400 * era + 100 * c + 4 * q + r)
    (hc : 0 ≤ c ∧ c ≤ 3) (hq : 0 ≤ q ∧ q ≤ 24) (hr : 0 ≤ r ∧ r ≤ 3) :
    marchDays y = 146097 * era + eraDay c q r 0 := by
  have hspans : y / 4 = 100 * era + 25 * c + q := by omega
  have hcenturies : y / 100 = 4 * era + c := by omega
  have heras : y / 400 = era := by omega
  rw [marchDays, hspans, hcenturies, heras, eraDay]
  omega

end InEra

/-- A leap year is the last of four, and the last of a century only at the end of an era. -/
theorem parts_of_isLeap {y : Int} (h : isLeap (y + 1) = true) :
    y % 4 = 3 ∧ (y % 100 / 4 < 24 ∨ y % 400 / 100 = 3) := by
  obtain ⟨hfour, hhundred⟩ := isLeap_iff.1 h
  omega

/-- The day number of a date tells the era and the day of it. -/
theorem InMonth.exists_inEra {d : Date} (h : d.InMonth) :
    ∃ era c q r, d.marchYear = 400 * era + 100 * c + 4 * q + r ∧ InEra c q r d.marchDay ∧
      d.dayNumber + 719468 = 146097 * era + eraDay c q r d.marchDay := by
  have hplace := h.marchPlace
  generalize hy : d.marchYear = y
  have hc : 0 ≤ y % 400 / 100 ∧ y % 400 / 100 ≤ 3 := by omega
  have hq : 0 ≤ y % 100 / 4 ∧ y % 100 / 4 ≤ 24 := by omega
  have hr : 0 ≤ y % 4 ∧ y % 4 ≤ 3 := by omega
  have hparts : y = 400 * (y / 400) + 100 * (y % 400 / 100) + 4 * (y % 100 / 4) + y % 4 := by
    omega
  refine ⟨_, _, _, _, hparts, ⟨hc, hq, hr, ⟨h.marchDay_nonneg, hplace.last⟩, ?_⟩, ?_⟩
  · intro h365
    exact parts_of_isLeap (hy ▸ hplace.leap h365)
  · rw [dayNumber_eq, hy, marchDays_parts hparts hc hq hr, eraDay, eraDay]
    omega

/-- **A date is the date of its day number.** -/
theorem ofDayNumber_dayNumber {d : Date} (h : d.InMonth) : ofDayNumber d.dayNumber = d := by
  obtain ⟨era, c, q, r, hyear, hera, hnumber⟩ := h.exists_inEra
  obtain ⟨hlow, hhigh⟩ := hera.bounds
  have heras : (d.dayNumber + 719468) / 146097 = era := by omega
  have hdays : (d.dayNumber + 719468) % 146097 = eraDay c q r d.marchDay := by omega
  have hofYear : eraDay c q r d.marchDay - eraDay c q r 0 = d.marchDay := by
    unfold eraDay
    omega
  have hday : (d.marchDay - (153 * marchMonth d.month + 2) / 5 + 1).toNat = d.day := by
    unfold marchDay daysBefore
    omega
  have hmonth : (if marchMonth d.month < 10 then marchMonth d.month + 3
      else marchMonth d.month - 9) = d.month := by
    have := h.month
    unfold marchMonth
    split <;> split <;> omega
  have hcalendar : era * 400 + (100 * c + 4 * q + r) + (if (d.month : Int) ≤ 2 then 1 else 0) =
      d.year := by
    unfold marchYear at hyear
    split <;> split at hyear <;> omega
  unfold ofDayNumber
  simp only [heras, hdays, hera.year_eq, hera.yearStart, hofYear, h.marchMonth_eq, hday, hmonth,
    hcalendar, Int.toNat_natCast]

end Date

namespace Moment

/-- The moment is on the calendar and on the clock. -/
structure Real (t : Moment) : Prop where
  date : t.date.InMonth
  hour : t.hour < 24
  minute : t.minute < 60
  second : t.second < 60

/-- The second after. -/
def next (t : Moment) : Moment :=
  if t.second + 1 < 60 then { t with second := t.second + 1 }
  else if t.minute + 1 < 60 then ⟨t.date, t.hour, t.minute + 1, 0⟩
  else if t.hour + 1 < 24 then ⟨t.date, t.hour + 1, 0, 0⟩
  else ⟨t.date.next, 0, 0, 0⟩

section Seconds

variable {t : Moment}

theorem Real.next (h : t.Real) : t.next.Real := by
  obtain ⟨hdate, hhour, hminute, hsecond⟩ := h
  have h24 : 0 < 24 := by decide
  have h60 : 0 < 60 := by decide
  unfold Moment.next
  split
  · next hs => exact ⟨hdate, hhour, hminute, hs⟩
  split
  · next hm => exact ⟨hdate, hhour, hm, h60⟩
  split
  · next hh => exact ⟨hdate, hh, h60, h60⟩
  · exact ⟨Date.inMonth_next t.date, h24, h60, h60⟩

theorem seconds_next (h : t.Real) : t.next.seconds = t.seconds + 1 := by
  obtain ⟨hdate, hhour, hminute, hsecond⟩ := h
  have hday := Date.dayNumber_next hdate
  unfold Moment.next seconds
  split
  · simp only
    omega
  split
  · simp only
    omega
  split
  · simp only
    omega
  · simp only [hday]
    omega

/-- A moment is the moment of its seconds. -/
theorem ofSeconds_seconds (h : t.Real) : ofSeconds t.seconds = t := by
  obtain ⟨hdate, hhour, hminute, hsecond⟩ := h
  obtain ⟨date, hour, minute, second⟩ := t
  simp only at hdate hhour hminute hsecond
  have hday : (⟨date, hour, minute, second⟩ : Moment).seconds / 86400 = date.dayNumber := by
    simp only [seconds]
    omega
  have hofDay : ((⟨date, hour, minute, second⟩ : Moment).seconds % 86400).toNat =
      hour * 3600 + minute * 60 + second := by
    simp only [seconds]
    omega
  have hparts : (hour * 3600 + minute * 60 + second) / 3600 = hour ∧
      (hour * 3600 + minute * 60 + second) / 60 % 60 = minute ∧
      (hour * 3600 + minute * 60 + second) % 60 = second := by omega
  simp only [ofSeconds, hday, hofDay, hparts, Date.ofDayNumber_dayNumber hdate]

theorem Real.iterate (h : t.Real) (n : Nat) : (Moment.next^[n] t).Real := by
  induction n with
  | zero => exact h
  | succ n ih =>
    rw [Function.iterate_succ_apply']
    exact ih.next

theorem seconds_iterate (h : t.Real) (n : Nat) :
    (Moment.next^[n] t).seconds = t.seconds + n := by
  induction n with
  | zero => exact (Int.add_zero _).symm
  | succ n ih =>
    rw [Function.iterate_succ_apply', seconds_next (h.iterate n), ih]
    omega

/-- **Adding seconds is going on second by second**, past the ends of minutes, hours, days,
months and years. -/
theorem addSeconds_eq_iterate (h : t.Real) (n : Nat) : t.addSeconds n = Moment.next^[n] t := by
  rw [addSeconds, ← seconds_iterate h n, ofSeconds_seconds (h.iterate n)]

end Seconds

end Moment

end GnssAiding
