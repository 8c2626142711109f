import Mathlib.Data.List.Infix
import BoundSql.Database

/-!
# Statements in the log

A statement is logged whole if it has at most the bound of bytes, and else it is cut. The cut backs
off over the bytes of the statement from the bound to the last place between two characters: less
than one character is lost below the bound, and what is left is the longest text of whole characters
at the front that keeps to it.

Main statement: `logged_statement_is_cut_between_characters`. It rests on `isBoundary_iff`, by which
the places where a text can be cut are the ends of the texts at its front, and on `le_backOff`, by
which no such place is passed over.
-/

namespace BoundSql

namespace Text

/-! ## Cutting -/

/-- A text can be cut at the end of each text at its front, and nowhere else. -/
theorem isBoundary_iff {s : String} {position : Nat} :
    isBoundary s position = true ↔
      ∃ front rest, s = front ++ rest ∧ position = front.utf8ByteSize := by
  rw [isBoundary_iff_isValid, String.Pos.Raw.isValid_iff_exists_append]
  constructor
  · rintro ⟨front, rest, hs, hposition⟩
    exact ⟨front, rest, hs, congrArg String.Pos.Raw.byteIdx hposition⟩
  · rintro ⟨front, rest, hs, hposition⟩
    exact ⟨front, rest, hs, congrArg String.Pos.Raw.mk hposition⟩

/-- What stands in front of the end of a text at the front is that text. -/
theorem upTo_eq {s front rest : String} {position : Nat} (hs : s = front ++ rest)
    (hposition : position = front.utf8ByteSize) (h : isBoundary s position = true) :
    upTo s position h = front := by
  rw [← String.toByteArray_inj]
  show s.toByteArray.extract 0 position = front.toByteArray
  rw [hs, String.toByteArray_append]
  exact ByteArray.extract_append_eq_left hposition

/-! ## Backing off -/

theorem backOff_le (s : String) (position : Nat) : backOff s position ≤ position := by
  induction position with
  | zero => exact Nat.le_refl 0
  | succ n ih =>
    rw [backOff]
    split
    · exact Nat.le_refl _
    · exact Nat.le_succ_of_le ih

/-- No place where the text can be cut is passed over. -/
theorem le_backOff {s : String} {place position : Nat} (h : isBoundary s place = true)
    (hle : place ≤ position) : place ≤ backOff s position := by
  induction position with
  | zero => exact hle
  | succ n ih =>
    rw [backOff]
    split
    · exact hle
    · -- The text cannot be cut at the position, so the place is before it.
      rename_i hinside
      rcases Nat.eq_or_lt_of_le hle with rfl | hlt
      · exact absurd h hinside
      · exact ih (Nat.le_of_lt_succ hlt)

/-- Below a position that is not behind the end, fewer bytes are passed over than the character has
that lies there. -/
theorem le_backOff_add_three {s : String} {position : Nat} (h : position < s.utf8ByteSize) :
    position ≤ backOff s position + 3 := by
  obtain ⟨front, rest, hs, hcut⟩ := isBoundary_iff.1 (isBoundary_backOff s position)
  have hle := backOff_le s position
  cases hrest : rest.toList with
  | nil =>
    -- Then the cut is at the end, which is behind the position.
    rw [String.toList_eq_nil_iff] at hrest
    rw [hrest, String.append_empty] at hs
    rw [hs, ← hcut] at h
    omega
  | cons c more =>
    have hrest : rest = String.singleton c ++ String.ofList more := by
      rw [← String.toList_inj, hrest]
      simp
    -- The text can be cut again behind the character that follows the cut.
    have hnext : isBoundary s (backOff s position + c.utf8Size) = true := by
      refine isBoundary_iff.2 ⟨front ++ String.singleton c, String.ofList more, ?_, ?_⟩
      · rw [hs, hrest, String.append_assoc]
      · rw [String.utf8ByteSize_append, String.utf8ByteSize_singleton, hcut]
    have hsize := c.utf8Size_pos
    have hfour := c.utf8Size_le_four
    by_contra hfar
    have hbefore : backOff s position + c.utf8Size ≤ position := by omega
    have hcut := le_backOff hnext hbefore
    omega

/-! ## The longest front -/

/-- `p` is the longest text of whole characters at the front of `s` that has at most `max` bytes. -/
structure LongestWithin (max : Nat) (s p : String) : Prop where
  front : p.toList <+: s.toList
  within : p.utf8ByteSize ≤ max
  longest : ∀ q : String, q.toList <+: s.toList → q.utf8ByteSize ≤ max → q.toList <+: p.toList

theorem isBoundary_of_front {s q : String} (h : q.toList <+: s.toList) :
    isBoundary s q.utf8ByteSize = true := by
  obtain ⟨rest, hrest⟩ := h
  refine isBoundary_iff.2 ⟨q, String.ofList rest, ?_, rfl⟩
  rw [← String.toList_inj, ← hrest]
  simp

/-- A text at the front of another one that is not longer is all of it. -/
theorem eq_of_front {p q : String} (h : p.toList <+: q.toList)
    (hsize : q.utf8ByteSize ≤ p.utf8ByteSize) : p = q := by
  obtain ⟨rest, hrest⟩ := h
  have hq : q = p ++ String.ofList rest := by
    rw [← String.toList_inj, ← hrest]
    simp
  rw [hq, String.utf8ByteSize_append] at hsize
  have hnone : (String.ofList rest).utf8ByteSize = 0 := by omega
  rw [String.utf8ByteSize_eq_zero_iff] at hnone
  rw [hq, hnone, String.append_empty]

end Text

/-- The statement that an event shows. -/
def Event.sql? (e : Event) : Option String :=
  Pairs.find? "sql" e.fields

namespace Database

open Text

/-- The statement is cut where backing off stops, and the longest front is left. -/
theorem cutWithin_spec (max : Nat) (sql : String) :
    (cutWithin max sql).utf8ByteSize = backOff sql max ∧
      LongestWithin max sql (cutWithin max sql) := by
  have hboundary := isBoundary_backOff sql max
  obtain ⟨front, rest, hs, hcut⟩ := isBoundary_iff.1 hboundary
  have hfront : cutWithin max sql = front := upTo_eq hs hcut hboundary
  have hprefix : front.toList <+: sql.toList := ⟨rest.toList, by rw [hs, String.toList_append]⟩
  rw [hfront]
  refine ⟨hcut.symm, hprefix, hcut ▸ backOff_le sql max, ?_⟩
  intro q hq hsize
  have hle : q.utf8ByteSize ≤ front.utf8ByteSize :=
    hcut ▸ le_backOff (isBoundary_of_front hq) hsize
  -- Of two texts at the front, one is at the front of the other.
  rcases List.prefix_or_prefix_of_prefix hq hprefix with hshorter | hlonger
  · exact hshorter
  · rw [eq_of_front hlonger hle]

theorem shorten_of_le {o : LogOptions} {max : Nat} (h : o.maxLength = some max) {sql : String}
    (hsize : sql.utf8ByteSize ≤ max) : o.shorten sql = sql := by
  rw [LogOptions.shorten, h]
  exact if_pos hsize

theorem shorten_of_lt {o : LogOptions} {max : Nat} (h : o.maxLength = some max) {sql : String}
    (hsize : max < sql.utf8ByteSize) : o.shorten sql = cutWithin max sql ++ "..." := by
  rw [LogOptions.shorten, h]
  exact if_neg (Nat.not_le_of_lt hsize)

variable {σ : Type}

/-- A logging layer shows every statement that is run. It shows it whole if there is no bound, or
if it has at most the bound of bytes. Any other statement is cut where backing off from the bound
stops: between two characters, at most at the bound and at most three bytes below it. What is shown
in front of the dots is the longest text of whole characters at the front that has at most the bound
of bytes. -/
theorem logged_statement_is_cut_between_characters (o : LogOptions) (db : Database σ)
    (method : Method) (sql : String) (params : Params) (state : σ) :
    ∃ text,
      ((db.logged o).answer (.run method sql params) state).events.head?.bind Event.sql? =
        some text ∧
      (o.maxLength = none → text = sql) ∧
      ∀ max, o.maxLength = some max →
        (sql.utf8ByteSize ≤ max → text = sql) ∧
        (max < sql.utf8ByteSize →
          isBoundary sql (backOff sql max) = true ∧
          backOff sql max ≤ max ∧ max ≤ backOff sql max + 3 ∧
          ∃ p, text = p ++ "..." ∧ p.utf8ByteSize = backOff sql max ∧ LongestWithin max sql p) := by
  refine ⟨o.shorten sql, rfl, ?_, ?_⟩
  · intro h
    rw [LogOptions.shorten, h]
  · intro max h
    refine ⟨shorten_of_le h, ?_⟩
    intro hsize
    obtain ⟨hcut, hlongest⟩ := cutWithin_spec max sql
    exact ⟨isBoundary_backOff sql max, backOff_le sql max, le_backOff_add_three hsize,
      cutWithin max sql, shorten_of_lt h hsize, hcut, hlongest⟩

/-- A bound inside the first character, one inside a later one, and one between two characters. -/
example : [1, 3, 6].map (fun max => LogOptions.shorten ⟨.debug, some max⟩ "é😀x") =
    ["...", "é...", "é😀..."] := by
  decide +kernel

end Database

end BoundSql
