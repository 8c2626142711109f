import Mathlib.Algebra.Group.Nat.Defs
import Mathlib.Data.List.Basic
import BoundSql.Calendar.Writer
import BoundSql.Number.Digits

/-!
# The form of dates and times

What a text looks like that writes a date, a time of day or both, said without the writer. Numbers
have a fixed count of digits, only a year may have more: outside the years from 0 to 9999 it has a
sign and, beyond four digits, no leading zero. A fraction of a second is left out or has three, six or
nine digits, as few as are enough, and a leap second is second 60.

Main statements: `Date.form_text`, `Time.form_text`, `DateTime.form_text` and
`DateTime.utcForm_utcText`: the writer writes this form.
-/

namespace BoundSql

namespace Calendar

/-! ## Numerals -/

/-- So many digits that write a number. -/
structure Numeral (width n : Nat) (digits : List Char) : Prop where
  isDigit : ∀ c ∈ digits, c.isDigit = true
  length_eq : digits.length = width
  value : Number.ofDigits digits = n

/-- A number is padded with zeros, so that only digits are written. -/
theorem isDigit_padded (width n : Nat) : ∀ c ∈ (padded width n).toList, c.isDigit = true := by
  intro c hc
  rw [padded, String.toList_ofList, List.mem_append] at hc
  rcases hc with hc | hc
  · rw [List.eq_of_mem_replicate hc]
    rfl
  · exact Nat.isDigit_of_mem_toDigits (by decide) (by decide) hc

/-- Leading zeros do not change the number that is read. -/
theorem ofDigits_padded (width n : Nat) : Number.ofDigits (padded width n).toList = n := by
  have hfold (cs : List Char) : Number.ofDigits cs = Nat.ofDigitChars 10 cs 0 :=
    Nat.ofDigitChars_eq_foldl.symm
  rw [hfold, padded, String.toList_ofList, Nat.ofDigitChars_append, Nat.ofDigitChars_replicate_zero,
    Nat.mul_zero, Nat.ofDigitChars_ten_toDigits]

/-- A number has the least width or, if that is not enough, the digits that it needs. -/
theorem length_padded (width n : Nat) :
    (padded width n).toList.length = max width (Nat.toDigits 10 n).length := by
  simp only [padded, String.toList_ofList, List.length_append, List.length_replicate]
  omega

/-- A number that fits its width fills it exactly. -/
theorem numeral_padded {width n : Nat} (hwidth : 0 < width) (hn : n < 10 ^ width) :
    Numeral width n (padded width n).toList where
  isDigit := isDigit_padded width n
  length_eq := by
    have hlength : (Nat.toDigits 10 n).length ≤ width :=
      (Nat.length_toDigits_le_iff (by decide) hwidth).2 hn
    rw [length_padded, Nat.max_eq_left hlength]
  value := ofDigits_padded width n

/-- A number that is too long for the least width is written without leading zeros. -/
theorem exists_numeral_padded {least : Nat} (hleast : 0 < least) (n : Nat) :
    ∃ width, Numeral width n (padded least n).toList ∧ least ≤ width ∧
      (width = least ∨ 10 ^ (width - 1) ≤ n) := by
  by_cases hn : n < 10 ^ least
  · exact ⟨least, numeral_padded hleast hn, Nat.le_refl _, .inl rfl⟩
  · -- the number does not fit, so that nothing is padded and the first digit counts
    have hlong : least < (Nat.toDigits 10 n).length := by
      rwa [← Nat.not_le, Nat.length_toDigits_le_iff (by decide) hleast]
    have hfirst : 10 ^ ((Nat.toDigits 10 n).length - 1) ≤ n := by
      rw [← Nat.not_lt, ← Nat.length_toDigits_le_iff (by decide) (by omega)]
      omega
    refine ⟨_, ⟨isDigit_padded least n, ?_, ofDigits_padded least n⟩, Nat.le_of_lt hlong, .inr hfirst⟩
    rw [length_padded, Nat.max_eq_right (Nat.le_of_lt hlong)]

/-! ## Years and fractions -/

/-- The digits of a year, with its sign outside the years from 0 to 9999. -/
inductive YearForm : Int → List Char → Prop where
  | plain {n : Nat} {digits : List Char} (h : Numeral 4 n digits) (hn : n ≤ 9999) : YearForm n digits
  | late {width n : Nat} {digits : List Char} (h : Numeral width n digits) (hwidth : 4 ≤ width)
      (shortest : width = 4 ∨ 10 ^ (width - 1) ≤ n) (hn : 9999 < n) : YearForm n ('+' :: digits)
  | early {width n : Nat} {digits : List Char} (h : Numeral width n digits) (hwidth : 4 ≤ width)
      (shortest : width = 4 ∨ 10 ^ (width - 1) ≤ n) (hn : 0 < n) : YearForm (-n) ('-' :: digits)

/-- A fraction of a second in nanoseconds, with its point. -/
inductive FractionForm : Nat → List Char → Prop where
  | absent : FractionForm 0 []
  | millis {n : Nat} {digits : List Char} (h : Numeral 3 n digits) (hn : 0 < n) :
      FractionForm (n * 1000000) ('.' :: digits)
  | micros {n : Nat} {digits : List Char} (h : Numeral 6 n digits) (hn : n % 1000 ≠ 0) :
      FractionForm (n * 1000) ('.' :: digits)
  | nanos {n : Nat} {digits : List Char} (h : Numeral 9 n digits) (hn : n % 1000 ≠ 0) :
      FractionForm n ('.' :: digits)

/-- Every year is written in the form of years. -/
theorem yearForm_yearText (y : Int) : YearForm y (yearText y).toList := by
  unfold yearText
  split
  · -- a year of four digits, without a sign
    rename_i h
    simp only [Bool.and_eq_true, decide_eq_true_eq] at h
    have hform : YearForm y.toNat (padded 4 y.toNat).toList :=
      .plain (numeral_padded (by decide) (by omega)) (by omega)
    rwa [Int.toNat_of_nonneg h.1] at hform
  · rename_i h
    simp only [Bool.and_eq_true, decide_eq_true_eq, not_and] at h
    -- any other year has a sign, and at least four digits
    obtain ⟨width, hnumeral, hwidth, hshortest⟩ :=
      exists_numeral_padded (show 0 < 4 by decide) y.natAbs
    rw [String.toList_append]
    by_cases hneg : y < 0
    · have hy : y = -(y.natAbs : Int) := by omega
      have hform := YearForm.early hnumeral hwidth hshortest (by omega)
      rw [if_pos hneg]
      rwa [← hy] at hform
    · have hy : y = (y.natAbs : Int) := by omega
      have hform := YearForm.late hnumeral hwidth hshortest (by omega)
      rw [if_neg hneg]
      rwa [← hy] at hform

/-- Every part of a second is written in the form of fractions. -/
theorem fractionForm_fractionText {nano : Nat} (h : nano < nanosPerSecond) :
    FractionForm nano (fractionText nano).toList := by
  rw [nanosPerSecond] at h
  have hpoint (digits : String) : ("." ++ digits).toList = '.' :: digits.toList := by simp
  unfold fractionText
  split
  · rename_i hzero
    rw [hzero]
    -- no nanoseconds: the fraction is left out
    exact .absent
  split
  · -- whole milliseconds have three digits
    rename_i hmillis
    have hform := FractionForm.millis (numeral_padded (by decide)
      (show nano / 1000000 < 10 ^ 3 by omega)) (by omega)
    rw [Nat.div_mul_cancel (Nat.dvd_of_mod_eq_zero hmillis)] at hform
    rwa [hpoint]
  split
  · -- whole microseconds have six
    rename_i hmicros
    have hform := FractionForm.micros (numeral_padded (by decide)
      (show nano / 1000 < 10 ^ 6 by omega)) (by omega)
    rw [Nat.div_mul_cancel (Nat.dvd_of_mod_eq_zero hmicros)] at hform
    rwa [hpoint]
  · -- anything finer has all nine
    rename_i hnanos
    rw [hpoint]
    exact .nanos (numeral_padded (by decide) (by omega)) hnanos

end Calendar

open Calendar

/-! ## Dates and times -/

/-- Year, month and day with hyphens between them. -/
def Date.Form (d : Date) (cs : List Char) : Prop :=
  ∃ year month day, YearForm d.year year ∧ Numeral 2 d.month month ∧ Numeral 2 d.day day ∧
    cs = year ++ '-' :: (month ++ '-' :: day)

/-- Hour, minute and second with colons between them, and the fraction of the second. -/
def Time.Form (t : Time) (cs : List Char) : Prop :=
  ∃ hour minute second fraction, Numeral 2 t.hour hour ∧ Numeral 2 t.minute minute ∧
    Numeral 2 (t.second + t.nano / nanosPerSecond) second ∧
    FractionForm (t.nano % nanosPerSecond) fraction ∧
    cs = hour ++ ':' :: (minute ++ ':' :: (second ++ fraction))

/-- Date and time with a space between them. -/
def DateTime.Form (t : DateTime) (cs : List Char) : Prop :=
  ∃ date time, t.date.Form date ∧ t.time.Form time ∧ cs = date ++ ' ' :: time

/-- Date and time with a `T` between them, and the offset of UTC. -/
def DateTime.UtcForm (t : DateTime) (cs : List Char) : Prop :=
  ∃ date time, t.date.Form date ∧ t.time.Form time ∧ cs = date ++ 'T' :: (time ++ "+00:00".toList)

/-- A month has two digits at most, and so has a day. -/
theorem Date.bounds (d : Date) : 1 ≤ d.month ∧ d.month ≤ 12 ∧ 1 ≤ d.day ∧ d.day ≤ 31 := by
  have h := d.valid
  simp only [isDate, Bool.and_eq_true, decide_eq_true_eq] at h
  obtain ⟨⟨⟨-, -⟩, hday⟩, hlast⟩ := h
  -- no month has more than 31 days, whatever the year
  unfold daysInMonth at hlast
  split at hlast
  all_goals try omega
  split at hlast <;> omega

/-- The calendar goes from the year -262143 to the year 262142. -/
theorem Date.year_bounds (d : Date) : -262143 ≤ d.year ∧ d.year ≤ 262142 := by
  have h := d.valid
  simp only [isDate, Bool.and_eq_true, decide_eq_true_eq] at h
  exact h.1.1

/-- Only the last second of a minute may be a leap second. -/
theorem Time.bounds (t : Time) : t.hour < 24 ∧ t.minute < 60 ∧ t.second < 60 ∧
    (t.nano < nanosPerSecond ∨ t.second = 59 ∧ t.nano < 2 * nanosPerSecond) := by
  have h := t.valid
  simp only [isTime, Bool.and_eq_true, Bool.or_eq_true, decide_eq_true_eq, beq_iff_eq] at h
  exact ⟨h.1.1.1, h.1.1.2, h.1.2, h.2⟩

/-- A date is written in its form. -/
theorem Date.form_text (d : Date) : d.Form d.text.toList := by
  obtain ⟨-, hmonth, -, hday⟩ := d.bounds
  refine ⟨_, _, _, yearForm_yearText d.year, numeral_padded (by decide) (by omega),
    numeral_padded (by decide) (by omega), ?_⟩
  simp [text]

/-- A time of day is written in its form, a leap second as second 60. -/
theorem Time.form_text (t : Time) : t.Form t.text.toList := by
  obtain ⟨hhour, hminute, hsecond, hnano⟩ := t.bounds
  have hlast : t.second + t.nano / nanosPerSecond < 10 ^ 2 := by
    rw [nanosPerSecond] at hnano ⊢
    omega
  refine ⟨_, _, _, _, numeral_padded (by decide) (by omega), numeral_padded (by decide) (by omega),
    numeral_padded (by decide) hlast, fractionForm_fractionText (Nat.mod_lt _ (by decide)), ?_⟩
  simp [text]

/-- Date and time are written in their form. -/
theorem DateTime.form_text (t : DateTime) : t.Form t.text.toList :=
  ⟨_, _, t.date.form_text, t.time.form_text, by simp [text]⟩

/-- A time in UTC is written in the form of timestamps. -/
theorem DateTime.utcForm_utcText (t : DateTime) : t.UtcForm t.utcText.toList :=
  ⟨_, _, t.date.form_text, t.time.form_text, by simp [utcText]⟩

end BoundSql
