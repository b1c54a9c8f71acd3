import LoginCallback.Proofs.Time.Calendar
import Mathlib.Order.Monotone.Basic
import Mathlib.Logic.Function.Iterate

/-!
# Counting days

The date of a day is computed by division, in whole periods of years. It is the date that counting
leads to: `Date.next` goes on by one day, to the next day of the month, the first of the next month
or the first day of the next year, and `Date.ofDays_eq_next` says that the date of a day is reached
by so many steps from the first day of the calendar. Months, leap days and years therefore end where
they should.

Going on adds one to the number of the day (`Date.Proper.toDays_next`), and two dates are never the
same day (`Date.Proper.eq_of_toDays`).
-/

namespace LoginCallback.Time

/-! ## Years and months -/

theorem daysBeforeYear_succ {year : Nat} (h : 1 ≤ year) :
    daysBeforeYear (year + 1) = daysBeforeYear year + yearLength (isLeap year) := by
  obtain ⟨n, rfl⟩ : ∃ n, year = n + 1 := ⟨year - 1, by omega⟩
  have hle := Nat.div_le_self n 100
  have hstep : ∀ k, (n + 1) / k = n / k + if (n + 1) % k = 0 then 1 else 0 := fun k => by
    rw [Nat.succ_div]
    simp only [Nat.dvd_iff_mod_eq_zero]
  have h100 : (n + 1) % 100 = 0 → (n + 1) % 4 = 0 := by omega
  have h400 : (n + 1) % 400 = 0 → (n + 1) % 100 = 0 := by omega
  simp only [daysBeforeYear, yearLength, isLeap, Nat.add_sub_cancel, hstep, Bool.and_eq_true,
    Bool.or_eq_true, beq_iff_eq, bne_iff_ne]
  by_cases hc : (n + 1) % 100 = 0
  · by_cases hq : (n + 1) % 400 = 0 <;> simp [h100 hc, hc, hq] <;> omega
  · have hq : (n + 1) % 400 ≠ 0 := mt h400 hc
    by_cases hf : (n + 1) % 4 = 0 <;> simp [hf, hc, hq] <;> omega

theorem daysBeforeYear_mono : Monotone daysBeforeYear := by
  refine monotone_nat_of_le_succ fun year => ?_
  cases year with
  | zero => exact Nat.le_refl 0
  | succ n =>
    rw [daysBeforeYear_succ (Nat.le_add_left 1 n)]
    exact Nat.le_add_right _ _

theorem daysBeforeMonth_succ {year month : Nat} (h : 1 ≤ month) :
    daysBeforeMonth year (month + 1) = daysBeforeMonth year month + daysInMonth year month := by
  obtain ⟨i, rfl⟩ : ∃ i, month = i + 1 := ⟨month - 1, by omega⟩
  simp only [daysBeforeMonth_eq, Nat.add_sub_cancel]
  by_cases hi : i < (monthLengths (isLeap year)).length
  · rw [daysInMonth_eq hi, List.take_succ_eq_append_getElem hi, List.sum_append, List.sum_singleton]
  · have hlen := Nat.not_lt.1 hi
    simp [List.take_of_length_le, Nat.le_succ_of_le hlen, hlen, daysInMonth]

theorem daysBeforeMonth_mono (year : Nat) : Monotone (daysBeforeMonth year) := by
  refine monotone_nat_of_le_succ fun month => ?_
  cases month with
  | zero => exact Nat.le_refl _
  | succ n =>
    rw [daysBeforeMonth_succ (Nat.le_add_left 1 n)]
    exact Nat.le_add_right _ _

/-- The months make up the year. -/
theorem daysBeforeMonth_thirteen (year : Nat) :
    daysBeforeMonth year 13 = yearLength (isLeap year) := by
  rw [daysBeforeMonth_eq, List.take_of_length_le (Nat.le_of_eq (monthLengths_length _)),
    monthLengths_sum]

/-! ## One date for each number -/

/-- There is only one place in a rising sequence where a number lies between two neighbours. -/
theorem eq_of_between {f : Nat → Nat} (hf : Monotone f) {a b n : Nat} (ha : f a ≤ n)
    (ha' : n < f (a + 1)) (hb : f b ≤ n) (hb' : n < f (b + 1)) : a = b := by
  rcases Nat.lt_trichotomy a b with h | h | h
  · exact absurd (Nat.lt_of_lt_of_le ha' (Nat.le_trans (hf h) hb)) (Nat.lt_irrefl n)
  · exact h
  · exact absurd (Nat.lt_of_lt_of_le hb' (Nat.le_trans (hf h) ha)) (Nat.lt_irrefl n)

/-- The day of the year, counted from 0. -/
def Date.dayOfYear (d : Date) : Nat := daysBeforeMonth d.year d.month + d.day - 1

namespace Date.Proper

variable {d d' : Date}

theorem toDays_eq (h : d.Proper) : d.toDays = daysBeforeYear d.year + d.dayOfYear := by
  have := h.day_pos
  unfold toDays dayOfYear
  omega

theorem in_month (h : d.Proper) : daysBeforeMonth d.year d.month ≤ d.dayOfYear ∧
    d.dayOfYear < daysBeforeMonth d.year (d.month + 1) := by
  have := h.day_pos
  have := h.day_le
  rw [daysBeforeMonth_succ h.month_pos]
  unfold dayOfYear
  omega

theorem in_year (h : d.Proper) : daysBeforeYear d.year ≤ d.toDays ∧
    d.toDays < daysBeforeYear (d.year + 1) := by
  have hmonth := h.in_month.2
  have hyear : daysBeforeMonth d.year (d.month + 1) ≤ yearLength (isLeap d.year) := by
    rw [← daysBeforeMonth_thirteen]
    exact daysBeforeMonth_mono d.year (Nat.succ_le_succ h.month_le)
  rw [daysBeforeYear_succ h.year_pos, h.toDays_eq]
  omega

/-- A number of days is that of one date only. -/
theorem eq_of_toDays (h : d.Proper) (h' : d'.Proper) (e : d.toDays = d'.toDays) : d = d' := by
  obtain ⟨year, month, day⟩ := d
  obtain ⟨year', month', day'⟩ := d'
  have hyear := h'.in_year
  rw [← e] at hyear
  obtain rfl : year = year' :=
    eq_of_between daysBeforeYear_mono h.in_year.1 h.in_year.2 hyear.1 hyear.2
  have hday : Date.dayOfYear ⟨year, month, day⟩ = Date.dayOfYear ⟨year, month', day'⟩ := by
    rw [h.toDays_eq, h'.toDays_eq] at e
    exact Nat.add_left_cancel e
  have hmonth := h'.in_month
  rw [← hday] at hmonth
  obtain rfl : month = month' :=
    eq_of_between (daysBeforeMonth_mono year) h.in_month.1 h.in_month.2 hmonth.1 hmonth.2
  have hpos : 1 ≤ day := h.day_pos
  have hpos' : 1 ≤ day' := h'.day_pos
  simp only [Date.dayOfYear] at hday
  obtain rfl : day = day' := by omega
  rfl

end Date.Proper

/-! ## Going on -/

/-- The first day of the calendar. -/
def Date.first : Date := ⟨1, 1, 1⟩

/-- The day after a date. -/
def Date.next (d : Date) : Date :=
  if d.day < daysInMonth d.year d.month then ⟨d.year, d.month, d.day + 1⟩
  else if d.month < 12 then ⟨d.year, d.month + 1, 1⟩
  else ⟨d.year + 1, 1, 1⟩

theorem daysInMonth_pos {year month : Nat} (h : 1 ≤ month) (h' : month ≤ 12) :
    1 ≤ daysInMonth year month := by
  have hlong : ∀ leap, ∀ n ∈ monthLengths leap, 1 ≤ n := by decide
  obtain ⟨i, rfl⟩ : ∃ i, month = i + 1 := ⟨month - 1, by omega⟩
  have hi : i < (monthLengths (isLeap year)).length := by
    rw [monthLengths_length]
    omega
  rw [daysInMonth_eq hi]
  exact hlong _ _ (List.getElem_mem hi)

theorem Date.Proper.next {d : Date} (h : d.Proper) : d.next.Proper := by
  obtain ⟨hyear, hmonth, hmonth', hday, hday'⟩ := h
  unfold Date.next
  split_ifs with hin hbefore
  · exact ⟨hyear, hmonth, hmonth', Nat.le_add_left 1 _, hin⟩
  · exact ⟨hyear, Nat.le_add_left 1 _, hbefore, Nat.le_refl 1,
      daysInMonth_pos (Nat.le_add_left 1 _) hbefore⟩
  · exact ⟨Nat.le_add_left 1 _, Nat.le_refl 1, Nat.le_add_left 1 11, Nat.le_refl 1,
      daysInMonth_pos (Nat.le_refl 1) (Nat.le_add_left 1 11)⟩

/-- The day after is one day later. -/
theorem Date.Proper.toDays_next {d : Date} (h : d.Proper) : d.next.toDays = d.toDays + 1 := by
  have hday := h.day_pos
  have hday' := h.day_le
  unfold Date.next toDays
  split_ifs with hin hbefore
  · dsimp only
    omega
  · dsimp only
    rw [daysBeforeMonth_succ h.month_pos]
    omega
  · have hlast : d.month = 12 := Nat.le_antisymm h.month_le (Nat.not_lt.1 hbefore)
    have hlength : daysBeforeMonth d.year (d.month + 1) =
        daysBeforeMonth d.year d.month + daysInMonth d.year d.month :=
      daysBeforeMonth_succ h.month_pos
    have hfirst : daysBeforeMonth (d.year + 1) 1 = 0 := rfl
    rw [hlast] at hlength hin hday' ⊢
    rw [daysBeforeMonth_thirteen] at hlength
    dsimp only
    rw [daysBeforeYear_succ h.year_pos, hfirst]
    omega

/-- The date of a day is reached by going on from the first day of the calendar. -/
theorem Date.ofDays_eq_next (days : Nat) : Date.ofDays days = Date.next^[days] Date.first := by
  induction days with
  | zero => rfl
  | succ days ih =>
    have h := Date.ofDays_proper days
    rw [Function.iterate_succ_apply', ← ih]
    refine (Date.ofDays_proper (days + 1)).eq_of_toDays h.next ?_
    rw [h.toDays_next, Date.toDays_ofDays, Date.toDays_ofDays]

/-- The last year of a century has no leap day unless the century is divisible by four. -/
example : (Date.mk 1900 2 28).next = ⟨1900, 3, 1⟩ ∧ (Date.mk 2000 2 28).next = ⟨2000, 2, 29⟩ := by
  decide

end LoginCallback.Time
