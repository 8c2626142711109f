import BoundSql.Proofs.Calendar.Reading
import BoundSql.Proofs.Content.Storage

/-!
# Dates that are stored

Dates, dates with a time and timestamps are stored as text. The writer and the reader of dates and of
dates with a time agree on every year: it has a sign where it has not four digits. Timestamps are
written with the same years, but read with years of four digits only.

Main statements: `dates_survive_storage` and `timestamps_survive_within_four_digits`.
-/

namespace BoundSql.FieldType

/-- Text that a reader of stored text takes is kept, as text stays itself in a cell. -/
theorem keeps_text {t : FieldType} {s : String} {x : t.Carrier} (h : decode t (.text s) = .ok x) :
    t.Keeps (.text s) x :=
  .of_direct (Engine.Cell.value_ofValue (.text s)) h

theorem readFromText_text {α : Type} {expected : String} {parse : String → Except ReadFault α}
    {s : String} {a : α} (h : parse s = .ok a) : readFromText expected parse (.text s) = .ok a := by
  rw [readFromText, h]
  rfl

/-- Every date and every date with a time, leap seconds included, is written in its form, and that is
read back as it was, from the value and from the cell. -/
theorem dates_survive_storage :
    (∀ d : Date, ∃ s, encode? .date d = some (.text s) ∧ d.Form s.toList ∧
      FieldType.date.Keeps (.text s) d) ∧
    (∀ t : DateTime, ∃ s, encode? .dateTime t = some (.text s) ∧ t.Form s.toList ∧
      FieldType.dateTime.Keeps (.text s) t) := by
  constructor
  · intro d
    have hread : decode .date (.text d.text) = .ok d :=
      readFromText_text (Date.parse_of_form d.form_text)
    exact ⟨d.text, rfl, d.form_text, keeps_text hread⟩
  · intro t
    have hread : decode .dateTime (.text t.text) = .ok t :=
      readFromText_text (DateTime.parse_of_form t.form_text)
    exact ⟨t.text, rfl, t.form_text, keeps_text hread⟩

/-- A leap second before our era. -/
example : DateTime.text ⟨⟨-1, 12, 31, by decide⟩, ⟨23, 59, 59, 1500000000, by decide⟩⟩ =
    "-0001-12-31 23:59:60.500" := by decide

/-- A timestamp is written in its form. It is read back as it was, from the value and from the cell,
exactly if its year is one of those from 0 to 9999; any other year has a sign, where the reader wants
a digit. -/
theorem timestamps_survive_within_four_digits (t : DateTime) :
    ∃ s, encode? .timestamp t = some (.text s) ∧ t.UtcForm s.toList ∧
      (FieldType.timestamp.Keeps (.text s) t ↔ 0 ≤ t.date.year ∧ t.date.year ≤ 9999) ∧
      (decode .timestamp (.text s) = .error (.calendar .invalid) ↔
        ¬ (0 ≤ t.date.year ∧ t.date.year ≤ 9999)) := by
  refine ⟨t.utcText, rfl, t.utcForm_utcText, ?_⟩
  by_cases hyear : 0 ≤ t.date.year ∧ t.date.year ≤ 9999
  · have hread : decode .timestamp (.text t.utcText) = .ok t :=
      readFromText_text (DateTime.parseUtc_of_utcForm t.utcForm_utcText hyear)
    have hnot : decode .timestamp (.text t.utcText) ≠ .error (.calendar .invalid) := by
      rw [hread]
      exact nofun
    exact ⟨iff_of_true (keeps_text hread) hyear, iff_of_false hnot (not_not_intro hyear)⟩
  · have hread : decode .timestamp (.text t.utcText) = .error (.calendar .invalid) := by
      show (DateTime.parseUtc t.utcText).mapError Mismatch.calendar = _
      rw [DateTime.parseUtc_of_signed t.utcForm_utcText hyear]
      rfl
    have hnot : ¬ FieldType.timestamp.Keeps (.text t.utcText) t :=
      fun h => nomatch hread.symm.trans h.direct
    exact ⟨iff_of_false hnot hyear, iff_of_true hread hyear⟩

/-- The first instant after the years of four digits. -/
def yearTenThousand : DateTime := ⟨⟨10000, 1, 1, by decide⟩, .midnight⟩

theorem late_timestamp_is_not_read_back :
    encode? .timestamp yearTenThousand = some (.text "+10000-01-01T00:00:00+00:00") ∧
      decode .timestamp (.text "+10000-01-01T00:00:00+00:00") = .error (.calendar .invalid) ∧
      ¬ ∀ t : DateTime, ∃ v, encode? .timestamp t = some v ∧ decode .timestamp v = .ok t := by
  have hread : decode .timestamp (.text "+10000-01-01T00:00:00+00:00") =
      .error (.calendar .invalid) := by rfl
  have hwritten : encode? .timestamp yearTenThousand =
      some (.text "+10000-01-01T00:00:00+00:00") := by decide
  refine ⟨hwritten, hread, fun h => ?_⟩
  obtain ⟨v, hv, hdecode⟩ := h yearTenThousand
  cases hwritten.symm.trans hv
  cases hread.symm.trans hdecode

end BoundSql.FieldType
