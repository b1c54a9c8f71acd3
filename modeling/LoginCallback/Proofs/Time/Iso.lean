import LoginCallback.Proofs.Time.Counting
import LoginCallback.Time.Iso

/-!
# Reading written moments

A moment of universal time is read back from its text: `Moment.read_toText`. The text consists of
numbers of a fixed number of digits, and `takeDigits_padded` reads one of them; the date and the
clock time are then read piece by piece. What stands in the text, `Moment.isWritten_toText` says
without the computation of dates: the day that counting leads to, and the clock time of that day.
-/

namespace LoginCallback.Decimal

/-! ## Digits -/

theorem isDigit_digitChar : ∀ n < 10, isDigit (digitChar n) = true := by decide

theorem charValue_digitChar : ∀ n < 10, charValue (digitChar n) = n := by decide

@[simp] theorem length_padded : ∀ width n : Nat, (padded width n).length = width
  | 0, _ => rfl
  | width + 1, n => by simp [padded, length_padded width]

theorem all_isDigit_padded : ∀ width n : Nat, (padded width n).all isDigit = true
  | 0, _ => rfl
  | width + 1, n => by
    simp [padded, List.all_append, all_isDigit_padded width, isDigit_digitChar _ (Nat.mod_lt n _)]

theorem ofDigits_concat (cs : List Char) (c : Char) :
    ofDigits (cs ++ [c]) = ofDigits cs * 10 + charValue c := by
  simp [ofDigits]

theorem ofDigits_padded : ∀ width n : Nat, ofDigits (padded width n) = n % 10 ^ width
  | 0, n => by simp [padded, ofDigits, Nat.mod_one]
  | width + 1, n => by
    rw [padded, ofDigits_concat, ofDigits_padded width,
      charValue_digitChar _ (Nat.mod_lt n (by simp)), Nat.pow_succ, Nat.mul_comm (10 ^ width) 10,
      Nat.mod_mul]
    omega

/-- A padded number starts with a digit. -/
theorem padded_succ (width n : Nat) :
    padded (width + 1) n = digitChar (n / 10 ^ width % 10) :: padded width n := by
  induction width generalizing n with
  | zero => simp [padded]
  | succ width ih =>
    rw [padded, ih (n / 10), padded, List.cons_append, Nat.div_div_eq_div_mul, Nat.pow_succ']

end LoginCallback.Decimal

namespace LoginCallback.Time

open LoginCallback.Decimal

theorem takeDigits_padded {width n : Nat} (h : n < 10 ^ width) (rest : List Char) :
    takeDigits width (padded width n ++ rest) = some (n, rest) := by
  simp [takeDigits, all_isDigit_padded, ofDigits_padded, Nat.mod_eq_of_lt h]

theorem padded_two (n : Nat) : padded 2 n = [digitChar (n / 10 % 10), digitChar (n % 10)] := rfl

theorem takeDigits_two {n : Nat} (h : n < 100) (rest : List Char) :
    takeDigits 2 (digitChar (n / 10 % 10) :: digitChar (n % 10) :: rest) = some (n, rest) := by
  show takeDigits 2 (padded 2 n ++ rest) = some (n, rest)
  exact takeDigits_padded h rest

/-! ## The date -/

/-- A date as it is written. -/
def Date.text (d : Date) : List Char :=
  padded 4 d.year ++ '-' :: padded 2 d.month ++ '-' :: padded 2 d.day

theorem Date.length_text (d : Date) : d.text.length = 10 := by simp [Date.text]

theorem Date.Valid.year_lt {d : Date} (h : d.Valid) : d.year < 10 ^ 4 :=
  Nat.lt_succ_of_le h.year_le

theorem Date.Valid.month_lt {d : Date} (h : d.Valid) : d.month < 100 :=
  Nat.lt_of_le_of_lt h.month_le (by decide)

theorem daysInMonth_le (year month : Nat) : daysInMonth year month ≤ 31 := by
  have h : ∀ n ∈ monthLengths (isLeap year), n ≤ 31 := by cases isLeap year <;> decide
  rw [daysInMonth, List.getD_eq_getElem?_getD]
  cases e : (monthLengths (isLeap year))[month - 1]? with
  | none => simp
  | some n => exact h n (List.mem_of_getElem? e)

theorem Date.Valid.day_lt {d : Date} (h : d.Valid) : d.day < 100 :=
  Nat.lt_of_le_of_lt (Nat.le_trans h.day_le (daysInMonth_le _ _)) (by decide)

theorem digitChar_ne_w : ∀ n < 10, digitChar n ≠ 'W' := by decide

theorem readDate?_text {d : Date} (h : d.Valid) : readDate? d.text = some d := by
  have hw : digitChar (d.month / 10 % 10) ≠ 'W' := digitChar_ne_w _ (Nat.mod_lt _ (by decide))
  have hyear := takeDigits_padded h.year_lt ('-' :: (padded 2 d.month ++ '-' :: padded 2 d.day))
  have hmonth := takeDigits_two h.month_lt ('-' :: padded 2 d.day)
  have hday := takeDigits_two h.day_lt []
  simp only [padded_two, List.cons_append, List.nil_append] at hyear hmonth
  simp only [readDate?, Date.text, padded_two, List.append_assoc, List.cons_append, List.nil_append,
    hyear, Option.bind_eq_bind, Option.bind_some, List.head?_cons, beq_self_eq_true, if_true,
    List.drop_succ_cons, List.drop_zero]
  split
  · next e => exact absurd (List.cons.inj e).1 hw
  · simp only [hmonth, hday, Bool.not_true, Bool.false_eq_true, if_false, Option.bind_some]
    rfl

/-- The date takes up the first ten characters. -/
theorem dateLength?_text (d : Date) (rest : List Char) :
    dateLength? (d.text ++ 'T' :: rest) = some 10 := by
  have hw : digitChar (d.month / 10 % 10) ≠ 'W' := digitChar_ne_w _ (Nat.mod_lt _ (by decide))
  simp only [Date.text, padded_two, padded_succ 3, padded_succ 2]
  simp [dateLength?, hw]

/-! ## The clock time -/

/-- A clock time as it is written. -/
def ClockTime.text (t : ClockTime) : List Char :=
  padded 2 t.hour ++ ':' :: padded 2 t.minute ++ ':' :: padded 2 t.second ++ writeFraction t.micro

/-- A clock time of a day. -/
structure ClockTime.Valid (t : ClockTime) : Prop where
  hour_lt : t.hour < 24
  minute_lt : t.minute < 60
  second_lt : t.second < 60
  micro_lt : t.micro < 1000000

theorem readFraction?_padded {n : Nat} (h : n < 1000000) (after : List Char) :
    ∃ left, readFraction? (padded 6 n) after = some (n, left) := by
  have htake : (padded 6 n).take 6 = padded 6 n := List.take_of_length_le (by simp)
  have hne : padded 6 n ≠ [] := List.ne_nil_of_length_pos (by simp)
  have hscale : ofDigits (padded 6 n) * Nat.pow 10 (6 - (padded 6 n).length) = n := by
    rw [ofDigits_padded, length_padded, Nat.mod_eq_of_lt (by simpa using h)]
    exact Nat.mul_one n
  rw [readFraction?, htake, if_neg (by simpa using hne), if_pos (all_isDigit_padded 6 n)]
  simp only [hscale]
  exact ⟨_, rfl⟩

theorem readClock?_text {t : ClockTime} (h : t.Valid) (after : List Char) :
    ∃ left, readClock? t.text after = some (t, left) := by
  obtain ⟨hour, minute, second, micro⟩ := t
  obtain ⟨hh, hm, hs, hf⟩ := h
  have hhour := takeDigits_two (Nat.lt_trans hh (by decide : 24 < 100))
  have hminute := takeDigits_two (Nat.lt_trans hm (by decide : 60 < 100))
  have hsecond := takeDigits_two (Nat.lt_trans hs (by decide : 60 < 100))
  dsimp only at hhour hminute hsecond
  by_cases h0 : micro = 0
  · simp [readClock?, ClockTime.text, writeFraction, h0, padded_two, hhour, hminute, hsecond,
      Decidable.em]
  · obtain ⟨left, hfraction⟩ := readFraction?_padded hf after
    have hne : padded 6 micro ≠ [] := List.ne_nil_of_length_pos (by simp)
    exact ⟨left, by simp [readClock?, ClockTime.text, writeFraction, h0, padded_two, hhour, hminute,
      hsecond, hne, hfraction]⟩

theorem isZoneMark_of_isDigit {c : Char} (h : isDigit c = true) : isZoneMark c = false := by
  have h0 : '0' ≤ c := by simp only [isDigit, decide_eq_true_eq] at h; exact h.1
  have hne : ∀ mark : Char, mark < '0' → c ≠ mark := fun mark hm e =>
    absurd (e ▸ h0) (Char.not_le.mpr hm)
  have hz : c ≠ 'Z' := by rintro rfl; revert h; decide
  simp [isZoneMark, hne '+' (by decide), hne '-' (by decide), hz]

theorem not_isZoneMark_padded {width n : Nat} {c : Char} (h : c ∈ padded width n) :
    isZoneMark c = false :=
  isZoneMark_of_isDigit (List.all_eq_true.1 (all_isDigit_padded width n) c h)

theorem not_isZoneMark_text {t : ClockTime} {c : Char} (h : c ∈ t.text) : isZoneMark c = false := by
  have hfraction : c ∈ writeFraction t.micro → isZoneMark c = false := by
    unfold writeFraction
    split_ifs
    · simp
    · intro h
      rcases List.mem_cons.1 h with rfl | h
      · rfl
      · exact not_isZoneMark_padded h
  simp only [ClockTime.text, List.mem_append, List.mem_cons] at h
  rcases h with ((h | rfl | h) | rfl | h) | h
  · exact not_isZoneMark_padded h
  · rfl
  · exact not_isZoneMark_padded h
  · rfl
  · exact not_isZoneMark_padded h
  · exact hfraction h

theorem writeOffset_zero : writeOffset 0 = ['+', '0', '0', ':', '0', '0'] := by decide

/-- A clock time of universal time. -/
theorem readTime?_text {t : ClockTime} (h : t.Valid) :
    readTime? (t.text ++ writeOffset 0) = some (t, some 0) := by
  have hzone : readClock? ['0', '0', ':', '0', '0'] [] = some (⟨0, 0, 0, 0⟩, false) := rfl
  have htake : (t.text ++ writeOffset 0).takeWhile (!isZoneMark ·) = t.text := by
    rw [List.takeWhile_append_of_pos fun c hc => by simp [not_isZoneMark_text hc], writeOffset_zero]
    simp [isZoneMark]
  have hdrop : (t.text ++ writeOffset 0).dropWhile (!isZoneMark ·) = writeOffset 0 := by
    rw [List.dropWhile_append_of_pos fun c hc => by simp [not_isZoneMark_text hc], writeOffset_zero]
    simp [isZoneMark]
  obtain ⟨left, hclock⟩ := readClock?_text h (writeOffset 0)
  rw [writeOffset_zero] at hclock
  simp only [readTime?, htake, hdrop]
  rw [writeOffset_zero]
  simp [hclock, hzone, ClockTime.micros]

/-! ## Moments -/

/-- A moment of the calendar, in universal time: what a clock shows. -/
structure Moment.Universal (m : Moment) : Prop where
  offset_eq : m.offset = some 0
  ticks_nonneg : 0 ≤ m.ticks
  ticks_lt : m.ticks < Moment.endTicks

/-- The time of day of a moment. -/
def Moment.clock (m : Moment) : ClockTime :=
  let (hour, minute, second, micro) := clockFields m.timeOfDay
  ⟨hour, minute, second, micro⟩

theorem Moment.timeOfDay_lt (m : Moment) : m.timeOfDay < microsPerDay := by
  have h : (0 : Int) < microsPerDay := by decide
  have := Int.emod_nonneg m.ticks (Int.ne_of_gt h)
  have := Int.emod_lt_of_pos m.ticks h
  unfold timeOfDay
  omega

theorem Moment.clock_valid (m : Moment) : m.clock.Valid := by
  have h := m.timeOfDay_lt
  constructor <;> simp only [clock, clockFields, microsPerSecond, microsPerDay] at h ⊢ <;> omega

theorem Moment.micros_clock (m : Moment) : m.clock.micros = m.timeOfDay := by
  simp only [ClockTime.micros, clock, clockFields, microsPerSecond]
  omega

theorem Moment.write_universal {m : Moment} (h : m.Universal) :
    m.write = m.date.text ++ 'T' :: (m.clock.text ++ writeOffset 0) := by
  simp [write, Date.text, ClockTime.text, clock, h.offset_eq]

theorem Moment.date_valid {m : Moment} (h : m.Universal) : m.date.Valid := by
  have := h.ticks_nonneg
  have hlt := h.ticks_lt
  apply Date.ofDays_valid
  simp only [endTicks, microsPerDay, microsPerSecond, dayCount] at hlt ⊢
  omega

/-- Date and time of day give the moment back. -/
theorem Moment.ticks_eq {m : Moment} (h : m.Universal) :
    (m.date.toDays * microsPerDay + m.clock.micros : Int) = m.ticks := by
  have := h.ticks_nonneg
  rw [micros_clock, date, Date.toDays_ofDays, timeOfDay]
  simp only [microsPerDay, microsPerSecond]
  omega

/-- The text of a moment of universal time: the date, counted from the first day of the calendar,
and the clock time, which has a fraction unless it is a whole second. -/
def Moment.IsWritten (m : Moment) (text : String) : Prop :=
  ∃ (days : Nat) (t : ClockTime), t.Valid ∧ m.ticks = (days * microsPerDay + t.micros : Nat) ∧
    text.toList = (Date.next^[days] Date.first).text ++
      'T' :: (t.text ++ ['+', '0', '0', ':', '0', '0'])

theorem Moment.isWritten_toText {m : Moment} (h : m.Universal) : m.IsWritten m.toText := by
  refine ⟨m.date.toDays, m.clock, m.clock_valid, ?_, ?_⟩
  · rw [← ticks_eq h]
    rfl
  · rw [toText, String.toList_ofList, write_universal h, writeOffset_zero, ← Date.ofDays_eq_next,
      date, Date.toDays_ofDays]

/-- A number has no point. -/
theorem dot_notMem_padded (width n : Nat) : '.' ∉ padded width n := fun h =>
  absurd (List.all_eq_true.1 (all_isDigit_padded width n) _ h) (by decide)

theorem Date.dot_notMem_text (d : Date) : '.' ∉ d.text := by
  simp [Date.text, dot_notMem_padded]

theorem ClockTime.dot_mem_text_iff (t : ClockTime) : '.' ∈ t.text ↔ t.micro ≠ 0 := by
  by_cases h : t.micro = 0 <;> simp [ClockTime.text, writeFraction, dot_notMem_padded, h]

/-- The fraction is left out for a whole second, and for nothing else. -/
theorem Moment.IsWritten.dot_mem_iff {m : Moment} {text : String} (h : m.IsWritten text) :
    '.' ∈ text.toList ↔ m.ticks % microsPerSecond ≠ 0 := by
  obtain ⟨days, t, ht, hticks, htext⟩ := h
  have hlt := ht.micro_lt
  have hmicro : m.ticks % microsPerSecond = t.micro := by
    rw [hticks]
    simp only [ClockTime.micros, microsPerDay, microsPerSecond]
    omega
  rw [htext, hmicro]
  simp [Date.dot_notMem_text, ClockTime.dot_mem_text_iff]

theorem Moment.isEmpty_toText (m : Moment) : m.toText.isEmpty = false := by
  have h : m.write ≠ [] := by simp [write, padded_succ 3]
  simp [toText, h]

/-- A moment of universal time is read back from its text. -/
theorem Moment.read_toText {m : Moment} (h : m.Universal) : Moment.read m.toText = .ok m := by
  have hdate := m.date_valid h
  have hclock := m.clock_valid
  have hlength := dateLength?_text m.date (m.clock.text ++ writeOffset 0)
  have htake : (m.date.text ++ 'T' :: (m.clock.text ++ writeOffset 0)).take 10 = m.date.text :=
    List.take_left' m.date.length_text
  have hdrop : (m.date.text ++ 'T' :: (m.clock.text ++ writeOffset 0)).drop 10 =
      'T' :: (m.clock.text ++ writeOffset 0) := List.drop_left' m.date.length_text
  have hlong : ¬ (m.date.text ++ 'T' :: (m.clock.text ++ writeOffset 0)).length < 7 := by
    rw [List.length_append, Date.length_text]
    omega
  have hday : ¬ (0 : Int).natAbs ≥ microsPerDay := by decide
  obtain ⟨hy, hy', hmo, hmo', hd, hd'⟩ := hdate
  obtain ⟨hh, hm, hs, -⟩ := hclock
  simp only [read, toText, String.toList_ofList, write_universal h, hlong, if_false, hlength, htake,
    hdrop, Option.bind_eq_bind, Option.bind_some, Option.pure_def, readDate?_text (m.date_valid h),
    readTime?_text m.clock_valid, hday, Nat.not_lt.2 hy, Nat.not_lt.2 hy', Nat.not_lt.2 hmo,
    Nat.not_lt.2 hmo', Nat.not_lt.2 hd, Nat.not_lt.2 hd', decide_false, Bool.or_false,
    Bool.false_eq_true, gt_iff_lt, Nat.not_lt.2 (Nat.le_of_lt_succ hh),
    Nat.not_lt.2 (Nat.le_of_lt_succ hm), Nat.not_lt.2 (Nat.le_of_lt_succ hs), ticks_eq h]
  rw [← h.offset_eq]
  rfl

/-- The last microsecond of a leap day, and the midnight after it. -/
example : (Moment.mk 63844847999999999 (some 0)).toText = "2024-02-29T23:59:59.999999+00:00" ∧
    (Moment.mk 63844848000000000 (some 0)).toText = "2024-03-01T00:00:00+00:00" := by
  decide

end LoginCallback.Time
