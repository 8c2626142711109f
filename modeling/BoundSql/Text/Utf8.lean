/-!
# Text as bytes

Text is stored as its UTF-8 bytes. Not every list of bytes is text: `ofUtf8?` reads back exactly
what `utf8` wrote. A text can be cut where a character begins and at its end, and nowhere else;
`backOff` finds the last such position that is not behind a given one.
-/

namespace BoundSql.Text

/-- The UTF-8 bytes of a text. -/
def utf8 (s : String) : List UInt8 :=
  s.toUTF8.data.toList

/-- The text that bytes write in UTF-8, if they do. -/
def ofUtf8? (bytes : List UInt8) : Option String :=
  String.fromUTF8? ⟨bytes.toArray⟩

@[simp]
theorem ofUtf8?_utf8 (s : String) : ofUtf8? (utf8 s) = some s := by
  have whole : (⟨(utf8 s).toArray⟩ : ByteArray) = s.toByteArray := by
    simp [utf8]
  rw [ofUtf8?, whole, String.fromUTF8?, dif_pos s.isValidUTF8]
  rfl

/-! ## Boundaries -/

/-- Whether a text can be cut at a position: at its end, or in front of the first byte of a
character. -/
def isBoundary (s : String) (position : Nat) : Bool :=
  match (utf8 s)[position]? with
  | none => position == s.utf8ByteSize
  | some byte => byte.IsUTF8FirstByte

theorem isBoundary_iff_isValid (s : String) (position : Nat) :
    isBoundary s position = true ↔ (⟨position⟩ : String.Pos.Raw).IsValid s := by
  rw [String.Pos.Raw.isValid_iff_isUTF8FirstByte, isBoundary]
  have hlength : (utf8 s).length = s.utf8ByteSize := rfl
  by_cases hinside : position < s.utf8ByteSize
  · have hbyte : (utf8 s)[position]? = some (s.getUTF8Byte ⟨position⟩ hinside) :=
      List.getElem?_eq_getElem (hlength ▸ hinside)
    have hend : (⟨position⟩ : String.Pos.Raw) ≠ s.rawEndPos :=
      fun h => absurd (congrArg String.Pos.Raw.byteIdx h) (Nat.ne_of_lt hinside)
    simp only [hbyte, decide_eq_true_eq, hend, false_or]
    exact ⟨fun h => ⟨hinside, h⟩, fun ⟨_, h⟩ => h⟩
  · have hbyte : (utf8 s)[position]? = none :=
      List.getElem?_eq_none (hlength ▸ Nat.le_of_not_lt hinside)
    simp only [hbyte, beq_iff_eq]
    constructor
    · intro h
      exact .inl (congrArg String.Pos.Raw.mk h)
    · rintro (h | ⟨h, -⟩)
      · exact congrArg String.Pos.Raw.byteIdx h
      · exact absurd h hinside

/-- The last position from `position` down where a text can be cut. At the front it always can. -/
def backOff (s : String) : (position : Nat) → Nat
  | 0 => 0
  | n + 1 => if isBoundary s (n + 1) then n + 1 else backOff s n

/-- Backing off stops where the text can be cut. -/
theorem isBoundary_backOff (s : String) (position : Nat) :
    isBoundary s (backOff s position) = true := by
  induction position with
  | zero => exact (isBoundary_iff_isValid s 0).2 String.Pos.Raw.isValid_zero
  | succ n ih =>
    rw [backOff]
    split
    · assumption
    · exact ih

/-- The text in front of a position where it can be cut. -/
def upTo (s : String) (position : Nat) (h : isBoundary s position = true) : String :=
  String.fromUTF8 (s.toUTF8.extract 0 position)
    ((isBoundary_iff_isValid s position).1 h).isValidUTF8_extract_zero

end BoundSql.Text
