import KafkaTopology.Timestamp
import Mathlib.Init
/-!
# The calendar

A day of an era of four hundred years is a number of centuries, of spans of four years and of years,
and a day of a year that begins in March (`Timestamp.Parts`). In these terms the date of a day is
what `dateOfDays` computes, it is a date of the calendar, and `daysOfDate` leads back to the day
(`Timestamp.daysOfDate_dateOfDays`).
-/
namespace KafkaTopology.Timestamp

/-! ## Eras -/

/-- A day of an era, in parts. Only the last year of a span has a day 365, and the last span of a
century only if the century is the last of the era. -/
structure Parts (century span year day : Int) : Prop where
  century_nonneg : 0 ≤ century
  century_le : century ≤ 3
  span_nonneg : 0 ≤ span
  span_le : span ≤ 24
  year_nonneg : 0 ≤ year
  year_le : year ≤ 3
  day_nonneg : 0 ≤ day
  day_le : day ≤ 365
  leap : day = 365 → year = 3 ∧ (span = 24 → century = 3)

/-- Every day of an era has its parts. -/
theorem exists_parts {n : Int} (hn : 0 ≤ n) (hn' : n < 146097) :
    ∃ century span year day, Parts century span year day ∧
      n = 36524 * century + 1461 * span + 365 * year + day := by
  obtain ⟨century, t, rfl, hcentury, hcentury', ht, ht', hlast⟩ : ∃ century t : Int,
      n = 36524 * century + t ∧ 0 ≤ century ∧ century ≤ 3 ∧ 0 ≤ t ∧ t ≤ 36524 ∧
        (t = 36524 → century = 3) := by
    by_cases h : n = 146096
    · exact ⟨3, 36524, by omega, by omega⟩
    · exact ⟨n / 36524, n % 36524, by omega, by omega⟩
  obtain ⟨span, u, rfl, hspan, hspan', hu, hu', hlong⟩ : ∃ span u : Int,
      t = 1461 * span + u ∧ 0 ≤ span ∧ span ≤ 24 ∧ 0 ≤ u ∧ u ≤ 1460 ∧
        (span = 24 → u = 1460 → century = 3) :=
    ⟨t / 1461, t % 1461, by omega, by omega⟩
  obtain ⟨year, day, rfl, hyear, hyear', hday, hday', hleap⟩ : ∃ year day : Int,
      u = 365 * year + day ∧ 0 ≤ year ∧ year ≤ 3 ∧ 0 ≤ day ∧ day ≤ 365 ∧
        (day = 365 → year = 3) := by
    by_cases h : u = 1460
    · exact ⟨3, 365, by omega, by omega⟩
    · exact ⟨u / 365, u % 365, by omega, by omega⟩
  exact ⟨century, span, year, day, ⟨hcentury, hcentury', hspan, hspan', hyear, hyear', hday, hday',
    fun h => ⟨hleap h, fun h' => hlong h' (by omega)⟩⟩, by omega⟩

variable {century span year day : Int}

/-- The year of a day of an era. -/
theorem Parts.yearOfEra (h : Parts century span year day) {n : Int}
    (hn : n = 36524 * century + 1461 * span + 365 * year + day) :
    (n - n / 1460 + n / 36524 - n / 146096) / 365 = 100 * century + 4 * span + year := by
  obtain ⟨hcentury, hcentury', hspan, hspan', hyear, hyear', hday, hday', hleap⟩ := h
  have hcenturies : n / 36524 - n / 146096 = century := by
    -- The last day of the era is one more than its centuries hold.
    by_cases hlast : n = 146096
    · omega
    · have hrest : 1461 * span + 365 * year + day ≤ 36523 := by omega
      have hcentury : n / 36524 = century := by omega
      have hera : n / 146096 = 0 := by omega
      omega
  have hspans : n / 1460 =
      25 * century + span + (24 * century + span + 365 * year + day) / 1460 := by omega
  omega

/-- The day of the year of a day of an era. -/
theorem Parts.dayOfYear (h : Parts century span year day) {n yearOfEra : Int}
    (hn : n = 36524 * century + 1461 * span + 365 * year + day)
    (hyearOfEra : yearOfEra = 100 * century + 4 * span + year) :
    n - (365 * yearOfEra + yearOfEra / 4 - yearOfEra / 100) = day := by
  obtain ⟨hcentury, hcentury', hspan, hspan', hyear, hyear', -, -, -⟩ := h
  omega

/-! ## Dates -/

/-- The date of a day, in the parts of its era. -/
theorem dateOfDays_eq {days era : Int} (h : Parts century span year day)
    (hdays : days + 719468 = era * 146097 + (36524 * century + 1461 * span + 365 * year + day)) :
    dateOfDays days =
      let monthFromMarch := (5 * day + 2) / 153
      let month := if monthFromMarch < 10 then monthFromMarch + 3 else monthFromMarch - 9
      (100 * century + 4 * span + year + era * 400 + (if month ≤ 2 then 1 else 0), month.toNat,
        (day - (153 * monthFromMarch + 2) / 5 + 1).toNat) := by
  have hera : (days + 719468) / 146097 = era := by
    obtain ⟨hcentury, hcentury', hspan, hspan', hyear, hyear', hday, hday', hleap⟩ := h
    omega
  have hrest : days + 719468 - era * 146097 =
      36524 * century + 1461 * span + 365 * year + day := by omega
  have hyearOfEra := h.yearOfEra hrest
  rw [dateOfDays]
  simp only [hera, hyearOfEra, h.dayOfYear hrest rfl]

/-- A year with a day 365, counted from March, ends with a leap day. -/
theorem Parts.isLeapYear (h : Parts century span year day) (hday : day = 365) (era : Int) :
    isLeapYear (100 * century + 4 * span + year + era * 400 + 1) = true := by
  obtain ⟨rfl, hlast⟩ := h.leap hday
  have hspan := h.span_nonneg
  have hspan' := h.span_le
  have hfour : (100 * century + 4 * span + 3 + era * 400 + 1) % 4 = 0 := by omega
  have hcentury : (100 * century + 4 * span + 3 + era * 400 + 1) % 100 ≠ 0 ∨
      (100 * century + 4 * span + 3 + era * 400 + 1) % 400 = 0 := by omega
  simpa [Timestamp.isLeapYear, hfour] using hcentury

theorem daysInMonth_le (year : Int) (month : Nat) : daysInMonth year month ≤ 31 := by
  rw [daysInMonth]
  repeat' split
  all_goals decide

/-- The months of a year that begins in March, and their days. -/
theorem day_le_daysInMonth {month : Int} (hmonth : month = (5 * day + 2) / 153) (hday : 0 ≤ day)
    (hday' : day ≤ 365) {year : Int} (hleap : day = 365 → isLeapYear year = true) :
    (day - (153 * month + 2) / 5 + 1).toNat ≤
      daysInMonth year (if month < 10 then month + 3 else month - 9).toNat := by
  have hmonths : month = 0 ∨ month = 1 ∨ month = 2 ∨ month = 3 ∨ month = 4 ∨ month = 5 ∨ month = 6 ∨
      month = 7 ∨ month = 8 ∨ month = 9 ∨ month = 10 ∨ month = 11 := by omega
  rcases hmonths with h | h | h | h | h | h | h | h | h | h | h | h <;> rw [h] at hmonth ⊢
  case inr.inr.inr.inr.inr.inr.inr.inr.inr.inr.inr =>
    show _ ≤ if isLeapYear year then 29 else 28
    by_cases hlast : day = 365
    · rw [hleap hlast, if_pos rfl]
      omega
    · split <;> omega
  all_goals simp [daysInMonth]; omega

theorem daysOfDate_eq {era : Int} (h : Parts century span year day) {month : Int}
    (hmonth : month = (5 * day + 2) / 153) :
    daysOfDate (100 * century + 4 * span + year + era * 400 +
        (if (if month < 10 then month + 3 else month - 9) ≤ 2 then 1 else 0))
      (if month < 10 then month + 3 else month - 9).toNat
      (day - (153 * month + 2) / 5 + 1).toNat =
      era * 146097 + (36524 * century + 1461 * span + 365 * year + day) - 719468 := by
  obtain ⟨hcentury, hcentury', hspan, hspan', hyear, hyear', hday, hday', -⟩ := h
  by_cases hlate : month < 10
  · have hyear₁ : ¬month + 3 ≤ 2 := by omega
    have hyear₂ : ¬(month + 3).toNat ≤ 2 := by omega
    have hmonth₂ : 2 < (month + 3).toNat := by omega
    simp only [daysOfDate, if_pos hlate, if_neg hyear₁, if_neg hyear₂, if_pos hmonth₂]
    omega
  · have hyear₁ : month - 9 ≤ 2 := by omega
    have hyear₂ : (month - 9).toNat ≤ 2 := by omega
    have hmonth₂ : ¬2 < (month - 9).toNat := by omega
    simp only [daysOfDate, if_neg hlate, if_pos hyear₁, if_pos hyear₂, if_neg hmonth₂]
    omega

/-- The date of a day is a date of the calendar, and it leads back to the day. -/
theorem daysOfDate_dateOfDays (days : Int) :
    let (year, month, day) := dateOfDays days
    (1 ≤ month ∧ month ≤ 12) ∧ (1 ≤ day ∧ day ≤ daysInMonth year month) ∧
      daysOfDate year month day = days := by
  obtain ⟨century, span, year, day, h, hn⟩ :=
    exists_parts (n := (days + 719468) % 146097) (by omega) (by omega)
  have hdays : days + 719468 = (days + 719468) / 146097 * 146097 +
      (36524 * century + 1461 * span + 365 * year + day) := by omega
  rw [dateOfDays_eq h hdays]
  generalize (days + 719468) / 146097 = era at hdays
  have hday := h.day_nonneg
  have hday' := h.day_le
  refine ⟨?_, ⟨?_, ?_⟩, ?_⟩
  · split <;> omega
  · omega
  · refine day_le_daysInMonth rfl hday hday' fun hlast => ?_
    have hfebruary : (if (5 * day + 2) / 153 < 10 then (5 * day + 2) / 153 + 3
        else (5 * day + 2) / 153 - 9) ≤ 2 := by
      split <;> omega
    rw [if_pos hfebruary]
    exact h.isLeapYear hlast era
  · rw [daysOfDate_eq h rfl]
    omega

end KafkaTopology.Timestamp
