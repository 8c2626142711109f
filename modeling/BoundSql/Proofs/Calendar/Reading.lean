import Mathlib.Data.String.Basic
import BoundSql.Calendar.Reader
import BoundSql.Proofs.Calendar.Form

/-!
# Reading dates and times back

The readers take the digits of one number after another from the front. A number of fixed width ends
with its last digit, whatever follows; a signed year and a fraction end where no digit follows.

Main statements: `Date.parse_of_form`, `DateTime.parse_of_form` and `DateTime.parseUtc_of_utcForm`: a
text of the form is read as what it writes. Timestamps need a year of four digits; with a sign in front
of it they are refused (`DateTime.parseUtc_of_signed`).
-/

namespace BoundSql

namespace Calendar

/-! ## Numbers -/

/-- A number with places has a first digit. -/
theorem Numeral.exists_cons {width n : Nat} {digits : List Char} (h : Numeral width n digits)
    (hwidth : 0 < width) : ∃ c rest, digits = c :: rest ∧ c.isDigit = true := by
  cases digits with
  | nil =>
    have hlength := h.length_eq
    simp at hlength
    omega
  | cons c rest => exact ⟨c, rest, rfl, h.isDigit c (.head _)⟩

/-- The digits at the front are those of the number and those that follow it. -/
theorem Numeral.leadingDigits_append {width n : Nat} {digits : List Char}
    (h : Numeral width n digits) (rest : List Char) :
    leadingDigits (digits ++ rest) = digits ++ leadingDigits rest :=
  List.takeWhile_append_of_pos h.isDigit

/-- Where no digit follows, the digits at the front are those of the number. -/
theorem Numeral.leadingDigits_append_end {width n : Nat} {digits : List Char}
    (h : Numeral width n digits) {rest : List Char} (hrest : leadingDigits rest = []) :
    leadingDigits (digits ++ rest) = digits := by
  rw [h.leadingDigits_append, hrest, List.append_nil]

/-- A number that fills its places needs no end. -/
theorem someDigits_append {width n : Nat} {digits : List Char} (h : Numeral width n digits)
    (hwidth : 0 < width) (rest : List Char) :
    someDigits width (digits ++ rest) = .ok (n, rest) := by
  obtain ⟨c, others, rfl, -⟩ := h.exists_cons hwidth
  have htake : (leadingDigits (c :: others ++ rest)).take width = c :: others := by
    rw [h.leadingDigits_append, ← h.length_eq, List.take_left]
  rw [List.cons_append, someDigits, ← List.cons_append, htake, h.value, List.drop_left]
  · rfl
  · nofun

/-- A number of any width ends before the first character that is no digit. -/
theorem allDigits_append {width n : Nat} {digits : List Char} (h : Numeral width n digits)
    (hwidth : 0 < width) {rest : List Char} (hrest : leadingDigits rest = []) :
    allDigits (digits ++ rest) = .ok (n, rest) := by
  obtain ⟨c, others, rfl, -⟩ := h.exists_cons hwidth
  rw [List.cons_append, allDigits, ← List.cons_append, h.leadingDigits_append_end hrest, h.value,
    List.drop_left]
  · rfl
  · nofun

/-- Digits behind a point are read as nanoseconds: those left out count as zeros. -/
theorem nanoseconds_append {width n : Nat} {digits : List Char} (h : Numeral width n digits)
    (hwidth : 0 < width) (hnine : width ≤ 9) {rest : List Char} (hrest : leadingDigits rest = []) :
    nanoseconds (digits ++ rest) = .ok (n * 10 ^ (9 - width), rest) := by
  obtain ⟨c, others, rfl, -⟩ := h.exists_cons hwidth
  have htake : (c :: others).take 9 = c :: others :=
    List.take_of_length_le (h.length_eq ▸ hnine)
  rw [List.cons_append, nanoseconds, ← List.cons_append, h.leadingDigits_append_end hrest, htake,
    h.value, List.drop_left, h.length_eq]
  · rfl
  · nofun

/-- So many digits are read one after another, each a place below the last. -/
theorem fixedDigits_append (digits rest : List Char) (hdigits : ∀ c ∈ digits, c.isDigit = true)
    (n : Nat) :
    fixedDigits digits.length n (digits ++ rest) =
      .ok (digits.foldl (fun n c => 10 * n + (c.toNat - 48)) n, rest) := by
  induction digits generalizing n with
  | nil => rfl
  | cons c digits ih =>
    rw [List.length_cons, List.cons_append, fixedDigits, if_pos (hdigits c (.head _)),
      ih fun d hd => hdigits d (.tail _ hd)]
    rfl

/-- A number of fixed width is read whatever follows. -/
theorem Numeral.fixedDigits_append {width n : Nat} {digits : List Char} (h : Numeral width n digits)
    (rest : List Char) : fixedDigits width 0 (digits ++ rest) = .ok (n, rest) := by
  have hread := Calendar.fixedDigits_append digits rest h.isDigit 0
  rwa [h.length_eq, show digits.foldl _ 0 = n from h.value] at hread

/-- No digit is white space, so that none is passed over. -/
theorem not_isWhiteSpace_of_isDigit {c : Char} (h : c.isDigit = true) :
    Text.isWhiteSpace c = false := by
  simp only [Char.isDigit, Bool.and_eq_true, decide_eq_true_eq, ge_iff_le, UInt32.le_iff_toNat_le] at h
  have hlower : 48 ≤ c.toNat := h.1
  have hupper : c.toNat ≤ 57 := h.2
  simp [Text.isWhiteSpace]
  omega

theorem trimStart_cons {c : Char} (h : Text.isWhiteSpace c = false) (rest : List Char) :
    Text.trimStart (c :: rest) = c :: rest :=
  List.dropWhile_cons_of_neg (by simp [h])

theorem Numeral.trimStart_append {width n : Nat} {digits : List Char} (h : Numeral width n digits)
    (hwidth : 0 < width) (rest : List Char) :
    Text.trimStart (digits ++ rest) = digits ++ rest := by
  obtain ⟨c, others, rfl, hc⟩ := h.exists_cons hwidth
  exact trimStart_cons (not_isWhiteSpace_of_isDigit hc) _

/-- A number within its bounds passes. -/
theorem within_of_bounds {α : Type} [LE α] [DecidableLE α] {low high n : α} (hlow : low ≤ n)
    (hhigh : n ≤ high) : within low high n = .ok n :=
  if_pos ⟨hlow, hhigh⟩

/-- A field of two digits is read whatever follows. -/
theorem field_append {low high n : Nat} {digits : List Char} (h : Numeral 2 n digits)
    (hlow : low ≤ n) (hhigh : n ≤ high) (rest : List Char) :
    field low high (digits ++ rest) = .ok (n, rest) := by
  rw [field, h.trimStart_append (by decide), someDigits_append h (by decide)]
  simp only [bind, Except.bind, within_of_bounds hlow hhigh, pure, Except.pure]

/-! ## Years and fractions -/

/-- A year is read up to a hyphen. -/
theorem year_append {y : Int} {cs : List Char} (h : YearForm y cs) (hlow : -0x80000000 ≤ y)
    (hhigh : y ≤ 0x7fffffff) (rest : List Char) :
    year (cs ++ '-' :: rest) = .ok (y, '-' :: rest) := by
  have hend : leadingDigits ('-' :: rest) = [] := rfl
  have hplus : Text.isWhiteSpace '+' = false := by decide
  have hminus : Text.isWhiteSpace '-' = false := by decide
  unfold year
  cases h with
  | plain h _ =>
    rw [h.trimStart_append (by decide)]
    have hread := someDigits_append h (by decide) ('-' :: rest)
    obtain ⟨c, others, rfl, hc⟩ := h.exists_cons (by decide)
    -- A digit is no sign, so that four digits are read.
    split
    · rename_i hcons
      cases hcons
      cases hc
    · rename_i hcons
      cases hcons
      cases hc
    · rw [hread]
      simp only [Except.map, bind, Except.bind, within_of_bounds hlow hhigh, pure, Except.pure]
  | late h hwidth _ _ =>
    -- a plus sign is followed by any count of digits
    rw [List.cons_append, trimStart_cons hplus]
    simp only [allDigits_append h (by omega) hend, Except.map, bind, Except.bind,
      within_of_bounds hlow hhigh, pure, Except.pure]
  | early h hwidth _ _ =>
    -- and so is a minus sign, behind which the number is negated
    rw [List.cons_append, trimStart_cons hminus]
    simp only [allDigits_append h (by omega) hend, Except.map, bind, Except.bind,
      within_of_bounds hlow hhigh, pure, Except.pure]

/-- A fraction is read up to a character that could not go on with it. -/
theorem fraction_append {nano : Nat} {cs : List Char} (h : FractionForm nano cs) {rest : List Char}
    (hrest : leadingDigits rest = []) (hpoint : rest.head? ≠ some '.') :
    fraction (cs ++ rest) = .ok (nano, rest) := by
  cases h with
  | absent =>
    rw [List.nil_append, fraction.eq_def]
    -- no fraction: what stands there is no point
    split
    · exact absurd rfl hpoint
    · rfl
  | millis h _ => exact nanoseconds_append h (by decide) (by decide) hrest
  | micros h _ => exact nanoseconds_append h (by decide) (by decide) hrest
  | nanos h _ =>
    have hread := nanoseconds_append h (by decide) (by decide) hrest
    rwa [Nat.sub_self, Nat.pow_zero, Nat.mul_one] at hread

/-- A leap second is read as a part of second 59. -/
theorem timeOf?_of_time (t : Time) :
    timeOf? t.hour t.minute (t.second + t.nano / nanosPerSecond) (t.nano % nanosPerSecond) =
      some t := by
  obtain ⟨-, -, hsecond, hnano⟩ := t.bounds
  have hself : Time.of? t.hour t.minute t.second t.nano = some t := dif_pos t.valid
  unfold timeOf?
  rcases hnano with hnano | ⟨hlast, hnano⟩
  · rw [Nat.div_eq_of_lt hnano, Nat.mod_eq_of_lt hnano, Nat.add_zero, if_neg (by omega), hself]
  · -- second 59 may run on into a leap second, which is written as second 60
    by_cases hleap : t.nano < nanosPerSecond
    · rw [Nat.div_eq_of_lt hleap, Nat.mod_eq_of_lt hleap, Nat.add_zero, if_neg (by omega), hself]
    · have hwhole : t.nano / nanosPerSecond = 1 := by
        rw [nanosPerSecond] at hnano hleap ⊢
        omega
      have hrest : nanosPerSecond + t.nano % nanosPerSecond = t.nano := by
        rw [nanosPerSecond] at hnano hleap ⊢
        omega
      rw [hwhole, hlast, if_pos rfl, hrest, ← hlast, hself]

/-! ## Dates and times with marks between numbers -/

/-- The fields of a date are read up to the end of the day. -/
theorem dateFields_append {d : Date} {cs : List Char} (h : d.Form cs) (rest : List Char) :
    dateFields (cs ++ rest) = .ok ((d.year, d.month, d.day), rest) := by
  obtain ⟨year, month, day, hyear, hmonth, hday, rfl⟩ := h
  obtain ⟨hm, hm', hd, hd'⟩ := d.bounds
  obtain ⟨hy, hy'⟩ := d.year_bounds
  simp only [dateFields, List.append_assoc, List.cons_append,
    year_append hyear (by omega) (by omega), field_append hmonth hm hm', field_append hday hd hd',
    mark, bind, Except.bind, pure, Except.pure, if_true]

/-- The fields of a time are read up to the end of the text. -/
theorem timeFields_of_form {t : Time} {cs : List Char} (h : t.Form cs) :
    timeFields cs =
      .ok ((t.hour, t.minute, t.second + t.nano / nanosPerSecond, t.nano % nanosPerSecond), []) := by
  obtain ⟨hour, minute, second, fraction, hhour, hminute, hsecond, hfraction, rfl⟩ := h
  obtain ⟨hh, hm, hs, hnano⟩ := t.bounds
  have hlast : t.second + t.nano / nanosPerSecond ≤ 60 := by
    rw [nanosPerSecond] at hnano ⊢
    omega
  have hread := fraction_append hfraction (show leadingDigits [] = [] from rfl) (by simp)
  rw [List.append_nil] at hread
  simp only [timeFields, field_append hhour (Nat.zero_le _) (show _ ≤ 23 by omega),
    field_append hminute (Nat.zero_le _) (show _ ≤ 59 by omega),
    field_append hsecond (Nat.zero_le _) hlast, hread, mark, bind, Except.bind, pure, Except.pure,
    if_true]

/-! ## Timestamps -/

/-- A year of four digits is written by them alone, and any other year begins with its sign. -/
theorem YearForm.numeral_or_signed {y : Int} {cs : List Char} (h : YearForm y cs) :
    (0 ≤ y ∧ y ≤ 9999 ∧ ∃ n : Nat, y = n ∧ Numeral 4 n cs) ∨
      (¬ (0 ≤ y ∧ y ≤ 9999) ∧ ∃ sign digits, cs = sign :: digits ∧ sign.isDigit = false) := by
  cases h with
  | plain h hn => exact .inl ⟨by omega, by omega, _, rfl, h⟩
  | late _ _ _ hn => exact .inr ⟨by omega, '+', _, rfl, rfl⟩
  | early _ _ _ hn => exact .inr ⟨by omega, '-', _, rfl, rfl⟩

/-- Every year has four characters at least. -/
theorem YearForm.four_le_length {y : Int} {cs : List Char} (h : YearForm y cs) : 4 ≤ cs.length := by
  cases h with
  | plain h _ => exact h.length_eq.ge
  | late h hwidth _ _ | early h hwidth _ _ =>
    have hlength := h.length_eq
    rw [List.length_cons]
    omega

/-- A text has at least as many bytes as characters. -/
theorem length_toList_le_utf8ByteSize (s : String) : s.toList.length ≤ s.utf8ByteSize := by
  rw [← String.utf8Len_toList]
  induction s.toList with
  | nil => rfl
  | cons c cs ih =>
    have hsize : 0 < c.utf8Size := c.utf8Size_pos
    rw [List.length_cons, String.utf8Len_cons]
    omega

theorem offset_of_utc : offset "+00:00".toList = .ok (0, []) := by
  decide

/-- In UTC nothing is taken off. -/
theorem minusMinutes?_zero (t : DateTime) : t.minusMinutes? 0 = some t := by
  obtain ⟨hhour, hminute, -, -⟩ := t.time.bounds
  have htotal : ((t.time.hour * 60 + t.time.minute : Nat) : Int) - 0 =
      (t.time.hour * 60 + t.time.minute : Nat) := by omega
  have hday : ((t.time.hour * 60 + t.time.minute : Nat) : Int) % 1440 =
      (t.time.hour * 60 + t.time.minute : Nat) := by omega
  have hhours : (t.time.hour * 60 + t.time.minute) / 60 = t.time.hour := by omega
  have hminutes : (t.time.hour * 60 + t.time.minute) % 60 = t.time.minute := by omega
  have hself : Time.of? t.time.hour t.time.minute t.time.second t.time.nano = some t.time :=
    dif_pos t.time.valid
  -- With no minutes taken off, the day stays the same.
  have hbefore : ¬ ((t.time.hour * 60 + t.time.minute : Nat) : Int) < 0 := by omega
  have hafter : ¬ (1440 : Int) ≤ (t.time.hour * 60 + t.time.minute : Nat) := by omega
  simp only [DateTime.minusMinutes?, htotal, hday, Int.toNat_natCast, hhours, hminutes, hself,
    Option.bind_eq_bind, Option.bind_some, if_neg hbefore, if_neg hafter]
  rfl

end Calendar

open Calendar

/-- A date is found again by its year, month and day. -/
theorem Date.of?_self (d : Date) : Date.of? d.year d.month d.day = some d :=
  dif_pos d.valid

/-- A text in the form of a date is read as that date. -/
theorem Date.parse_of_form {d : Date} {s : String} (h : d.Form s.toList) : Date.parse s = .ok d := by
  have hread := dateFields_append h []
  rw [List.append_nil] at hread
  simp only [parse, hread, finished, inRange, d.of?_self, bind, Except.bind]

/-- A text in the form of a date and time is read as both. -/
theorem DateTime.parse_of_form {t : DateTime} {s : String} (h : t.Form s.toList) :
    DateTime.parse s = .ok t := by
  obtain ⟨date, time, hdate, htime, hs⟩ := h
  -- the space between date and time is passed over
  have hspace : Text.trimStart (' ' :: time) = time := by
    obtain ⟨hour, minute, second, fraction, hhour, -, -, -, rfl⟩ := htime
    exact hhour.trimStart_append (by decide) _
  simp only [parse, hs, dateFields_append hdate, hspace, timeFields_of_form htime, finished, inRange,
    t.date.of?_self, timeOf?_of_time, bind, Except.bind, pure, Except.pure]

/-- A timestamp has as many bytes as the reader asks for at least. -/
theorem DateTime.UtcForm.size {t : DateTime} {s : String} (h : t.UtcForm s.toList) :
    ¬ s.utf8ByteSize < 19 := by
  obtain ⟨_, _, ⟨year, month, day, hyear, hmonth, hday, rfl⟩,
    ⟨hour, minute, second, fraction, hhour, hminute, hsecond, -, rfl⟩, hs⟩ := h
  have hbytes := length_toList_le_utf8ByteSize s
  have hyear := hyear.four_le_length
  have hmonth := hmonth.length_eq
  have hday := hday.length_eq
  have hhour := hhour.length_eq
  have hminute := hminute.length_eq
  have hsecond := hsecond.length_eq
  simp only [hs, List.length_append, List.length_cons] at hbytes
  omega

/-- A timestamp is read back in the years from 0 to 9999. -/
theorem DateTime.parseUtc_of_utcForm {t : DateTime} {s : String} (h : t.UtcForm s.toList)
    (hyear : 0 ≤ t.date.year ∧ t.date.year ≤ 9999) : DateTime.parseUtc s = .ok t := by
  have hsize := h.size
  obtain ⟨_, _, ⟨year, month, day, hform, hmonth, hday, rfl⟩,
    ⟨hour, minute, second, fraction, hhour, hminute, hsecond, hfraction, rfl⟩, hs⟩ := h
  obtain ⟨n, hn, hyear⟩ : ∃ n : Nat, t.date.year = n ∧ Numeral 4 n year := by
    rcases hform.numeral_or_signed with ⟨-, -, hnumeral⟩ | ⟨hsigned, -⟩
    · exact hnumeral
    · exact absurd hyear hsigned
  -- The fraction ends at the offset, which begins with its sign.
  have hread := fraction_append hfraction (show leadingDigits "+00:00".toList = [] by decide)
    (by decide)
  have hdate := t.date.of?_self
  rw [hn] at hdate
  simp only [parseUtc, if_neg hsize, hs, List.append_assoc, List.cons_append,
    hyear.fixedDigits_append, hmonth.fixedDigits_append, hday.fixedDigits_append,
    hhour.fixedDigits_append, hminute.fixedDigits_append, hsecond.fixedDigits_append, fixedMark,
    hread, offset_of_utc, finished, inRange, hdate, timeOf?_of_time, minusMinutes?_zero,
    within_of_bounds (show (-1439 : Int) ≤ 0 by decide) (show (0 : Int) ≤ 1439 by decide),
    bind, Except.bind, beq_self_eq_true, Bool.true_or, if_true]

/-- A timestamp of any other year is refused at its sign, where a digit has to stand. -/
theorem DateTime.parseUtc_of_signed {t : DateTime} {s : String} (h : t.UtcForm s.toList)
    (hyear : ¬ (0 ≤ t.date.year ∧ t.date.year ≤ 9999)) :
    DateTime.parseUtc s = .error .invalid := by
  have hsize := h.size
  obtain ⟨_, time, ⟨year, month, day, hform, -, -, rfl⟩, -, hs⟩ := h
  rcases hform.numeral_or_signed with ⟨hlow, hhigh, -⟩ | ⟨-, sign, digits, rfl, hsign⟩
  · exact absurd ⟨hlow, hhigh⟩ hyear
  · simp only [parseUtc, if_neg hsize, hs, List.cons_append, fixedDigits, hsign, Bool.false_eq_true,
      if_false, bind, Except.bind]

end BoundSql
