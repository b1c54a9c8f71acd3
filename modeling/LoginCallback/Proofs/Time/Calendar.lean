import LoginCallback.Time.Calendar
import Mathlib.Algebra.Order.Ring.Nat

/-!
# Days and dates

Every day of the calendar has one date, and the date gives the day back: `Date.ofDays` of a day
before `dayCount` is a date of the years 1 to 9999 (`Date.Valid`), and `Date.toDays` returns the
day. The year is found by taking out whole periods of 400, 100, 4 and 1 years (`yearDay`), the month
by walking along the lengths of the months (`monthDay`).
-/

namespace LoginCallback.Time

/-! ## Years -/

/-- The parts of the days of a period of 400 years: its centuries, its periods of four years and its
single years. -/
theorem yearDay_eq (days : Nat) : ∃ n400 n100 n4 n1 day,
    yearDay days = (n400 * 400 + n100 * 100 + n4 * 4 + n1 + 1, day) ∧
      days = n400 * 146097 + n100 * 36524 + n4 * 1461 + n1 * 365 + day ∧
      n100 ≤ 3 ∧ n4 ≤ 24 ∧ n1 ≤ 3 ∧ day ≤ 365 ∧
      (day = 365 → n1 = 3 ∧ (n4 = 24 → n100 = 3)) := by
  have h100 : min (days % 146097 / 36524) 3 ≤ 3 := by omega
  have h1 : min ((days % 146097 - min (days % 146097 / 36524) 3 * 36524) % 1461 / 365) 3 ≤ 3 := by
    omega
  refine ⟨_, _, _, _, _, rfl, ?_, h100, ?_, h1, ?_, ?_⟩ <;> omega

theorem daysBeforeYear_eq {n400 n100 n4 n1 : Nat} (h100 : n100 ≤ 3) (h4 : n4 ≤ 24) (h1 : n1 ≤ 3) :
    daysBeforeYear (n400 * 400 + n100 * 100 + n4 * 4 + n1 + 1) =
      n400 * 146097 + n100 * 36524 + n4 * 1461 + n1 * 365 := by
  simp only [daysBeforeYear, Nat.add_sub_cancel]
  omega

theorem isLeap_eq {n400 n100 n4 n1 : Nat} (h4 : n4 ≤ 24) (h1 : n1 = 3)
    (h : n4 = 24 → n100 = 3) : isLeap (n400 * 400 + n100 * 100 + n4 * 4 + n1 + 1) = true := by
  subst h1
  simp only [isLeap, Bool.and_eq_true, Bool.or_eq_true, beq_iff_eq, bne_iff_ne]
  omega

/-- The number of days of a year. -/
def yearLength (leap : Bool) : Nat := if leap then 366 else 365

theorem yearDay_spec (days : Nat) :
    daysBeforeYear (yearDay days).1 + (yearDay days).2 = days ∧ 1 ≤ (yearDay days).1 ∧
      (yearDay days).2 < yearLength (isLeap (yearDay days).1) := by
  obtain ⟨n400, n100, n4, n1, day, e, hdays, h100, h4, h1, hday, hlast⟩ := yearDay_eq days
  rw [e]
  refine ⟨?_, by simp, ?_⟩
  · rw [daysBeforeYear_eq h100 h4 h1, hdays]
  · dsimp only
    by_cases hd : day = 365
    · rw [isLeap_eq h4 (hlast hd).1 (hlast hd).2, hd]
      decide
    · unfold yearLength
      split_ifs <;> omega

/-! ## Months -/

/-- Walking along the lengths `ns` of the months finds the month that a day falls in. -/
theorem monthDay_spec : ∀ (ns : List Nat) (month day : Nat), day < ns.sum →
    ∃ i, ∃ h : i < ns.length, monthDay month ns day = (month + i, day - (ns.take i).sum + 1) ∧
      (ns.take i).sum ≤ day ∧ day < (ns.take i).sum + ns[i]
  | [], _, day, h => by simp at h
  | n :: ns, month, day, h => by
    rw [List.sum_cons] at h
    by_cases hd : day < n
    · exact ⟨0, by simp, by simp [monthDay, hd], by simp, by simpa using hd⟩
    · obtain ⟨i, hi, e, hle, hlt⟩ := monthDay_spec ns (month + 1) (day - n) (by omega)
      refine ⟨i + 1, by simpa using hi, ?_, ?_, ?_⟩
      · rw [monthDay, if_neg hd, e, List.take_succ_cons, List.sum_cons]
        ext <;> dsimp only <;> omega
      · rw [List.take_succ_cons, List.sum_cons]
        omega
      · rw [List.take_succ_cons, List.sum_cons, List.getElem_cons_succ]
        omega

theorem monthLengths_sum (leap : Bool) : (monthLengths leap).sum = yearLength leap := by
  cases leap <;> rfl

theorem monthLengths_length (leap : Bool) : (monthLengths leap).length = 12 := rfl

theorem daysBeforeMonth_eq (year month : Nat) :
    daysBeforeMonth year month = ((monthLengths (isLeap year)).take (month - 1)).sum := by
  rw [List.sum_eq_foldl]
  rfl

theorem daysInMonth_eq {year i : Nat} (h : i < (monthLengths (isLeap year)).length) :
    daysInMonth year (i + 1) = (monthLengths (isLeap year))[i] := by
  simp [daysInMonth, h]

/-! ## Dates -/

/-- A date, should the calendar go on after its last year. -/
structure Date.Proper (d : Date) : Prop where
  year_pos : 1 ≤ d.year
  month_pos : 1 ≤ d.month
  month_le : d.month ≤ 12
  day_pos : 1 ≤ d.day
  day_le : d.day ≤ daysInMonth d.year d.month

/-- A date that the calendar has. -/
structure Date.Valid (d : Date) : Prop where
  year_pos : 1 ≤ d.year
  year_le : d.year ≤ 9999
  month_pos : 1 ≤ d.month
  month_le : d.month ≤ 12
  day_pos : 1 ≤ d.day
  day_le : d.day ≤ daysInMonth d.year d.month

theorem Date.ofDays_eq (days : Nat) :
    ∃ i, ∃ h : i < (monthLengths (isLeap (yearDay days).1)).length,
    Date.ofDays days = ⟨(yearDay days).1, i + 1,
      (yearDay days).2 - ((monthLengths (isLeap (yearDay days).1)).take i).sum + 1⟩ ∧
    ((monthLengths (isLeap (yearDay days).1)).take i).sum ≤ (yearDay days).2 ∧
    (yearDay days).2 < ((monthLengths (isLeap (yearDay days).1)).take i).sum +
      (monthLengths (isLeap (yearDay days).1))[i] := by
  obtain ⟨-, -, hlt⟩ := yearDay_spec days
  rw [← monthLengths_sum] at hlt
  obtain ⟨i, hi, e, hle, hlt⟩ := monthDay_spec _ 1 _ hlt
  refine ⟨i, hi, ?_, hle, hlt⟩
  simp only [Date.ofDays, e, Nat.add_comm 1 i]

/-- The date of a day gives the day back. -/
theorem Date.toDays_ofDays (days : Nat) : (Date.ofDays days).toDays = days := by
  obtain ⟨i, hi, e, hle, -⟩ := Date.ofDays_eq days
  obtain ⟨hyear, -, -⟩ := yearDay_spec days
  rw [e, Date.toDays]
  simp only [daysBeforeMonth_eq, Nat.add_sub_cancel]
  omega

theorem yearDay_le {days : Nat} (h : days < dayCount) : (yearDay days).1 ≤ 9999 := by
  obtain ⟨n400, n100, n4, n1, day, e, hdays, h100, h4, h1, -, -⟩ := yearDay_eq days
  rw [e]
  unfold dayCount at h
  dsimp only
  omega

theorem Date.ofDays_proper (days : Nat) : (Date.ofDays days).Proper := by
  obtain ⟨i, hi, e, hle, hlt⟩ := Date.ofDays_eq days
  obtain ⟨-, hpos, -⟩ := yearDay_spec days
  rw [← daysInMonth_eq hi] at hlt
  rw [monthLengths_length] at hi
  rw [e]
  constructor <;> dsimp only <;> omega

theorem Date.ofDays_valid {days : Nat} (h : days < dayCount) : (Date.ofDays days).Valid := by
  obtain ⟨hyear, hmonth, hmonth', hday, hday'⟩ := Date.ofDays_proper days
  have hlast : (Date.ofDays days).year ≤ 9999 := by
    obtain ⟨i, -, e, -, -⟩ := Date.ofDays_eq days
    rw [e]
    exact yearDay_le h
  exact ⟨hyear, hlast, hmonth, hmonth', hday, hday'⟩

/-- The last day of the calendar. -/
example : Date.ofDays (dayCount - 1) = ⟨9999, 12, 31⟩ := by decide

end LoginCallback.Time
