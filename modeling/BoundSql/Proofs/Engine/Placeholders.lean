import Mathlib.Data.List.TakeWhile
import BoundSql.Proofs.Engine.Binding
import BoundSql.Proofs.Engine.Lexing
import BoundSql.Text.Join

/-!
# Placeholders in a text

Which parameters a statement has is decided by its text alone. They are found by cutting it into
tokens, and pieces with a separator between them can be cut one after another: what is found in one
piece comes before what is found in the next. The name of a parameter ends where the characters of a
name end. So of a placeholder for a column of some table, `:t.x`, only `:t` is found.

Main statements: `Reads.space`, `Reads.comma` and `Reads.join` for pieces in a row, `Reads.column`
and `Reads.placeholder` for what they are made of, and `Connection.takes_of_declares` for what an
engine does with bindings that are named after columns.
-/

namespace BoundSql.Engine.Token

/-! ## Parameters -/

/-- The texts of the parameters among tokens, in order. -/
def parameters (ts : List Token) : List String :=
  (ts.filter fun t => t.lexeme == .parameter).map (·.text)

/-- The parameters found in a statement, if all of its text is made of tokens. -/
def found? (sql : String) : Option (List String) :=
  (ofText? sql).map parameters

/-- The parameters found in text with or without a gap in front. -/
def foundFrom (cs : List Char) : Option (List String) :=
  (tokensFrom (cs.drop (gapLength cs))).map parameters

/-- A statement is read from its beginning, up to the first null character if there is one. -/
theorem found?_eq (sql : String) :
    found? sql = foundFrom (sql.toList.takeWhile (· != '\x00')) :=
  rfl

theorem parameters_cons (t : Token) (ts : List Token) :
    parameters (t :: ts) = (if t.lexeme = .parameter then [t.text] else []) ++ parameters ts := by
  by_cases h : t.lexeme = .parameter <;> simp [parameters, h]

/-- Nothing is found in no text. -/
theorem foundFrom_nil : foundFrom [] = some [] := by
  simp [foundFrom, tokensFrom, parameters]

/-! ## Single tokens -/

/-- A lexeme is read first, whatever gap follows it. -/
theorem foundFrom_lexeme {lexeme : Lexeme} {c : Char} (cs : List Char) {rest : List Char}
    (hsolid : Solid (c :: (cs ++ rest))) (hc : c ≠ ';')
    (h : lexeme? c (cs ++ rest) = some (lexeme, cs.length)) :
    foundFrom (c :: (cs ++ rest)) =
      (foundFrom rest).map
        ((if lexeme = .parameter then [String.ofList (c :: cs)] else []) ++ ·) := by
  have hc' : (c == ';') = false := by simpa using hc
  rw [foundFrom, hsolid.gapLength, List.drop_zero, tokensFrom]
  simp only [hc', h, Bool.false_eq_true, if_false, List.drop_left, List.take_left]
  rw [foundFrom, Option.map_map, Option.map_map]
  congr 1
  funext ts
  exact parameters_cons _ ts

/-- A lexeme that is no parameter makes no difference. -/
theorem foundFrom_other {lexeme : Lexeme} {c : Char} (cs : List Char) {rest : List Char}
    (hsolid : Solid (c :: (cs ++ rest))) (hc : c ≠ ';')
    (h : lexeme? c (cs ++ rest) = some (lexeme, cs.length)) (hlexeme : lexeme ≠ .parameter) :
    foundFrom (c :: (cs ++ rest)) = foundFrom rest := by
  rw [foundFrom_lexeme cs hsolid hc h, if_neg hlexeme]
  simp

/-- A space lengthens the gap behind it, unless that begins with a vertical tab: a vertical tab is
white space only behind other white space. -/
theorem gapLength_space {cs : List Char} (h : cs.head? ≠ some '\x0b') :
    gapLength (' ' :: cs) = gapLength cs + 1 := by
  have hspace : gap? ' ' cs = some (cs.takeWhile isSpace).length := rfl
  cases cs with
  | nil => simp [gapLength, hspace]
  | cons c more =>
    have hc : c ≠ '\x0b' := by simpa using h
    rw [gapLength.eq_2 ' ', hspace]
    cases hblank : isSpace c with
    | false => simp [hblank, Nat.add_comm]
    -- White space in a row is one gap, so both gaps end at the same character.
    | true =>
      have hgap : gap? c more = some (more.takeWhile isSpace).length := by
        simp [gap?, hblank, hc]
      simp [hblank, gapLength.eq_2 c, hgap]
      omega

/-- A space in front makes no difference. -/
theorem foundFrom_space {cs : List Char} (h : cs.head? ≠ some '\x0b') :
    foundFrom (' ' :: cs) = foundFrom cs := by
  rw [foundFrom, gapLength_space h, List.drop_succ_cons]
  rfl

/-- An identifier makes no difference. -/
theorem foundFrom_identifier {s : String} (hs : isIdentifier s = true) {rest : List Char}
    (hrest : EndsName rest) : foundFrom (s.toList ++ rest) = foundFrom rest := by
  obtain ⟨c, cs, hl, hc, hchars⟩ := exists_of_isIdentifier hs
  have hlexeme := lexeme?_name hc (fun d hd => hchars d (List.mem_cons_of_mem _ hd)) hrest
  rw [hl]
  exact foundFrom_other cs (solid_of_isIdentifierStart hc _)
    (ne_of_isIdentifierStart hc (d := ';') rfl) hlexeme (by decide)

/-- The placeholder of an identifier is found. -/
theorem foundFrom_parameter {s : String} (hs : isIdentifier s = true) {rest : List Char}
    (hrest : EndsName rest) :
    foundFrom (':' :: (s.toList ++ rest)) = (foundFrom rest).map (placeholder s :: ·) := by
  obtain ⟨c, cs, hl, -, hchars⟩ := exists_of_isIdentifier hs
  have hsolid : Solid (':' :: (c :: cs ++ rest)) :=
    ⟨':', _, rfl, rfl, by decide, by decide, by decide⟩
  rw [hl, foundFrom_lexeme (c :: cs) hsolid (by decide) (lexeme?_parameter hchars hrest),
    if_pos rfl, ofList_placeholder hl]
  rfl

/-- A separating mark makes no difference. -/
theorem foundFrom_mark {c : Char} (h : c ∈ ['(', ')', ',', '*']) (rest : List Char) :
    foundFrom (c :: rest) = foundFrom rest := by
  simp only [List.mem_cons, List.not_mem_nil, or_false] at h
  rcases h with rfl | rfl | rfl | rfl <;>
    exact foundFrom_other [] ⟨_, _, rfl, rfl, by decide, by decide, by decide⟩ (by decide) rfl
      (by decide)

/-- A point in front of an identifier makes no difference: it begins no number. -/
theorem foundFrom_point {c : Char} (hc : isIdentifierStart c = true) (cs : List Char) :
    foundFrom ('.' :: c :: cs) = foundFrom (c :: cs) := by
  have hdigit : c.isDigit = false := by
    have hnumber := startsNumber_of_isIdentifierStart hc cs
    simp only [startsNumber, Bool.or_eq_false_iff] at hnumber
    exact hnumber.1
  have hlexeme : lexeme? '.' ([] ++ (c :: cs)) = some (.mark, 0) := by
    simp [lexeme?, startsNumber, hdigit, isNameChar, wideMarks]
  exact foundFrom_other [] ⟨'.', _, rfl, rfl, by decide, by decide, by decide⟩ (by decide) hlexeme
    (by decide)

/-! ## Columns -/

/-- A column: a name, or the names of its schema and its table before it, with points between
them. -/
inductive IsColumnName : String → Prop where
  | plain {s : String} (h : isIdentifier s = true) : IsColumnName s
  | qualified {s column : String} (h : isIdentifier s = true) (rest : IsColumnName column) :
    IsColumnName (s ++ "." ++ column)

/-- What is found of the placeholder of a name: all up to the first character that is none of a
name. -/
def seen (name : String) : String :=
  placeholder (String.ofList (name.toList.takeWhile isNameChar))

/-- All of an identifier is characters of a name. -/
theorem takeWhile_isIdentifier {s : String} (hs : isIdentifier s = true) :
    s.toList.takeWhile isNameChar = s.toList := by
  obtain ⟨c, cs, hl, -, hchars⟩ := exists_of_isIdentifier hs
  rw [hl, List.takeWhile_eq_self_iff]
  exact hchars

/-- All of the placeholder of an identifier is found. -/
theorem seen_plain {s : String} (hs : isIdentifier s = true) : seen s = placeholder s := by
  rw [seen, takeWhile_isIdentifier hs, String.ofList_toList]

/-- Of a column with its table, the table is found. -/
theorem seen_qualified {s : String} (hs : isIdentifier s = true) (column : String) :
    seen (s ++ "." ++ column) = placeholder s := by
  obtain ⟨c, cs, hl, -, hchars⟩ := exists_of_isIdentifier hs
  have hpoint : isNameChar '.' = false := by decide
  have hfront : (s ++ "." ++ column).toList.takeWhile isNameChar = s.toList := by
    rw [String.append_assoc, String.toList_append, List.takeWhile_append_of_pos (hl ▸ hchars)]
    simp [hpoint]
  rw [seen, hfront, String.ofList_toList]

namespace IsColumnName

/-- A number behind a column belongs to its last name. -/
theorem append {column : String} (h : IsColumnName column) {t : String}
    (ht : ∀ d ∈ t.toList, isNameChar d = true) : IsColumnName (column ++ t) := by
  induction h with
  | @plain s hs =>
    refine .plain ?_
    obtain ⟨c, cs, hl, hc, hchars⟩ := exists_of_isIdentifier hs
    simp only [isIdentifier, isNameFrom, String.toList_append, hl, List.cons_append, hc,
      Bool.true_and, List.all_eq_true, List.mem_append]
    rintro d (hd | hd)
    · exact hchars d (List.mem_cons_of_mem _ hd)
    · exact ht d hd
  | @qualified s column hs _ ih =>
    rw [String.append_assoc]
    exact .qualified hs ih

/-- The placeholder of a column is found as it is exactly if there is no point in the column. -/
theorem seen_eq_iff {column : String} (h : IsColumnName column) :
    seen column = placeholder column ↔ '.' ∉ column.toList := by
  cases h with
  | plain hs =>
    refine iff_of_true (seen_plain hs) ?_
    obtain ⟨c, cs, hl, -, hchars⟩ := exists_of_isIdentifier hs
    intro hmem
    exact absurd (hchars '.' (hl ▸ hmem)) (by decide)
  | @qualified s column hs _ =>
    refine iff_of_false ?_ (by simp)
    rw [seen_qualified hs, placeholder_inj]
    intro h
    have hlength := congrArg String.length h
    have hpoint : ".".length = 1 := rfl
    rw [String.length_append, String.length_append] at hlength
    omega

/-- What is found of a placeholder has no point in it. -/
theorem point_not_mem_seen (name : String) : '.' ∉ (seen name).toList := by
  intro hmem
  simp only [seen, placeholder, String.toList_append, String.toList_ofList, List.mem_append] at hmem
  -- the marker is no point, and no character of a name is one
  rcases hmem with hmem | hmem
  · exact absurd hmem (by decide)
  · exact absurd (List.mem_takeWhile_imp hmem) (by decide)

/-- A column begins as its first name does. -/
theorem exists_cons {column : String} (h : IsColumnName column) :
    ∃ c cs, column.toList = c :: cs ∧ isIdentifierStart c = true := by
  cases h with
  | plain hs =>
    obtain ⟨c, cs, hl, hc, -⟩ := exists_of_isIdentifier hs
    exact ⟨c, cs, hl, hc⟩
  | @qualified s column hs _ =>
    obtain ⟨c, cs, hl, hc, -⟩ := exists_of_isIdentifier hs
    exact ⟨c, cs ++ '.' :: column.toList, by simp [hl], hc⟩

/-- A column has characters of names and points alone. -/
theorem chars {column : String} (h : IsColumnName column) :
    ∀ d ∈ column.toList, isNameChar d = true ∨ d = '.' := by
  induction h with
  | plain hs =>
    obtain ⟨c, cs, hl, -, hchars⟩ := exists_of_isIdentifier hs
    exact fun d hd => .inl (hchars d (hl ▸ hd))
  | qualified hs _ ih =>
    obtain ⟨c, cs, hl, -, hchars⟩ := exists_of_isIdentifier hs
    intro d hd
    simp only [String.toList_append, List.mem_append] at hd
    rcases hd with (hd | hd) | hd
    · exact .inl (hchars d (hl ▸ hd))
    · exact .inr (by simpa using hd)
    · exact ih d hd

end IsColumnName

/-- There are no parameters in a column. -/
theorem foundFrom_column {column : String} (h : IsColumnName column) {rest : List Char}
    (hrest : EndsName rest) : foundFrom (column.toList ++ rest) = foundFrom rest := by
  induction h with
  | plain hs => exact foundFrom_identifier hs hrest
  | @qualified s column hs hcolumn ih =>
    -- The first name ends at its point, and the point is no parameter; the induction is on the
    -- names that follow.
    obtain ⟨c, cs, hl, hc⟩ := hcolumn.exists_cons
    have hpoint : EndsName ('.' :: (c :: cs ++ rest)) := endsName_cons (by decide) _
    have htext : (s ++ "." ++ column).toList ++ rest = s.toList ++ '.' :: (c :: cs ++ rest) := by
      simp [hl]
    rw [htext, foundFrom_identifier hs hpoint, List.cons_append, foundFrom_point hc,
      ← List.cons_append, ← hl, ih]

/-- One parameter is found in the placeholder of a column, and it ends at the first point. -/
theorem foundFrom_placeholder {column : String} (h : IsColumnName column) {rest : List Char}
    (hrest : EndsName rest) :
    foundFrom ((placeholder column).toList ++ rest) = (foundFrom rest).map (seen column :: ·) := by
  cases h with
  | plain hs =>
    have htext : (placeholder column).toList ++ rest = ':' :: (column.toList ++ rest) := by
      simp [placeholder]
    rw [htext, foundFrom_parameter hs hrest, seen_plain hs]
  | @qualified s column hs hcolumn =>
    -- behind the first point the rest is a column like any other
    obtain ⟨c, cs, hl, hc⟩ := hcolumn.exists_cons
    have hpoint : EndsName ('.' :: (c :: cs ++ rest)) := endsName_cons (by decide) _
    have htext : (placeholder (s ++ "." ++ column)).toList ++ rest =
        ':' :: (s.toList ++ '.' :: (c :: cs ++ rest)) := by
      simp [placeholder, hl]
    rw [htext, foundFrom_parameter hs hpoint, List.cons_append, foundFrom_point hc,
      ← List.cons_append, ← hl, foundFrom_column hcolumn hrest, seen_qualified hs]

/-! ## Pieces -/

/-- The text begins with a space or a mark that stands between pieces, or not at all. -/
def Separates (cs : List Char) : Prop :=
  ∀ c ∈ cs.head?, c ∈ [' ', ')', ',']

theorem separates_nil : Separates [] :=
  nofun

theorem separates_cons {c : Char} (h : c ∈ [' ', ')', ',']) (cs : List Char) :
    Separates (c :: cs) := by
  rintro d ⟨⟩
  exact h

/-- A separator ends a name. -/
theorem Separates.endsName {cs : List Char} (h : Separates cs) : EndsName cs :=
  fun c hc => List.mem_append_left ['.'] (h c hc)

/-- Either nothing follows or one of three separators. -/
theorem Separates.cases {cs : List Char} (h : Separates cs) :
    cs = [] ∨ ∃ more, cs = ' ' :: more ∨ cs = ')' :: more ∨ cs = ',' :: more := by
  cases cs with
  | nil => exact .inl rfl
  | cons c more =>
    have hc := h c rfl
    simp only [List.mem_cons, List.not_mem_nil, or_false] at hc
    rcases hc with rfl | rfl | rfl
    · exact .inr ⟨more, .inl rfl⟩
    · exact .inr ⟨more, .inr (.inl rfl)⟩
    · exact .inr ⟨more, .inr (.inr rfl)⟩

/-- A mark that compares is read as it is: no separator makes another mark of it. -/
theorem exists_of_comparisonMark {s : String} (h : s ∈ comparisonMarks) {rest : List Char}
    (hrest : Separates rest) :
    ∃ c cs, s.toList = c :: cs ∧ Solid (c :: (cs ++ rest)) ∧ c ≠ ';' ∧
      lexeme? c (cs ++ rest) = some (.mark, cs.length) := by
  simp only [comparisonMarks, List.mem_cons, List.not_mem_nil, or_false] at h
  rcases h with rfl | rfl | rfl | rfl | rfl | rfl <;>
    refine ⟨_, _, rfl, ⟨_, _, rfl, rfl, by decide, by decide, by decide⟩, by decide, ?_⟩ <;>
    -- a longer mark would need another mark behind it, and none is a separator
    rcases hrest.cases with rfl | ⟨more, rfl | rfl | rfl⟩ <;> rfl

/-- A piece of a statement is read on its own: if a separator follows, the parameters of the piece
are found first, and then those behind it. -/
structure Reads (piece : String) (params : List String) : Prop where
  opens : ∃ c cs, piece.toList = c :: cs ∧ c ≠ '\x0b'
  nullFree : '\x00' ∉ piece.toList
  found : ∀ rest, Separates rest →
    foundFrom (piece.toList ++ rest) = (foundFrom rest).map (params ++ ·)

namespace Reads

variable {a b : String} {ps qs : List String}

/-- What begins with a piece begins no gap that a space would join. -/
theorem head?_ne (h : Reads a ps) (rest : List Char) :
    (a.toList ++ rest).head? ≠ some '\x0b' := by
  obtain ⟨c, cs, hl, hc⟩ := h.opens
  simpa [hl] using hc

/-- What is read of a piece alone. -/
theorem found?_eq (h : Reads a ps) : found? a = some ps := by
  have hnull : a.toList.takeWhile (· != '\x00') = a.toList := by
    rw [List.takeWhile_eq_self_iff]
    intro c hc
    have hne : c ≠ '\x00' := fun heq => h.nullFree (heq ▸ hc)
    simpa using hne
  have hfound := h.found [] separates_nil
  rw [List.append_nil, foundFrom_nil] at hfound
  rw [Token.found?_eq, hnull, hfound]
  simp

/-- What is read of a statement that begins with a piece, up to the null character that may end
it. -/
theorem found?_append (h : Reads a ps) {rest : String} (hrest : Separates rest.toList) :
    found? (a ++ rest) = (found? rest).map (ps ++ ·) := by
  have hkept : ∀ c ∈ a.toList, (c != '\x00') = true := by
    intro c hc
    have hne : c ≠ '\x00' := fun heq => h.nullFree (heq ▸ hc)
    simpa using hne
  -- cutting the rest at a null character leaves a separator in front
  have hseparates : Separates (rest.toList.takeWhile (· != '\x00')) := by
    cases hl : rest.toList with
    | nil => exact separates_nil
    | cons c cs =>
      have hc := hrest c (by rw [hl]; rfl)
      have hnull : c ≠ '\x00' := by
        rintro rfl
        exact absurd hc (by decide)
      rw [List.takeWhile_cons, if_pos (by simpa using hnull)]
      exact separates_cons hc _
  rw [Token.found?_eq, String.toList_append, List.takeWhile_append_of_pos hkept,
    h.found _ hseparates]
  rfl

/-! ### Composition -/

/-- A piece opens as before when something follows it. -/
theorem opens_append (h : Reads a ps) (rest : String) :
    ∃ c cs, (a ++ rest).toList = c :: cs ∧ c ≠ '\x0b' := by
  obtain ⟨c, cs, hl, hc⟩ := h.opens
  exact ⟨c, cs ++ rest.toList, by simp [hl], hc⟩

/-- Two pieces with a space between them. -/
theorem space (ha : Reads a ps) (hb : Reads b qs) : Reads (a ++ " " ++ b) (ps ++ qs) where
  opens := by
    rw [String.append_assoc]
    exact ha.opens_append _
  nullFree := by simp [ha.nullFree, hb.nullFree]
  found rest hrest := by
    have htext : (a ++ " " ++ b).toList ++ rest = a.toList ++ ' ' :: (b.toList ++ rest) := by simp
    -- the first piece ends at the space, and the space goes to the second
    rw [htext, ha.found _ (separates_cons (by decide) _), foundFrom_space (hb.head?_ne rest),
      hb.found rest hrest, Option.map_map]
    simp [Function.comp_def]

/-- A piece with a mark that separates behind it. -/
theorem before {c : Char} (hc : c ∈ [')', ',']) (h : Reads a ps) :
    Reads (a ++ String.singleton c) ps where
  opens := h.opens_append _
  nullFree := by
    have hnull : c ≠ '\x00' := by
      rintro rfl
      exact absurd hc (by decide)
    simp [h.nullFree, hnull.symm]
  found rest hrest := by
    have hseparates : c ∈ [' ', ')', ','] := List.mem_cons_of_mem _ hc
    have hmark : c ∈ ['(', ')', ',', '*'] := List.mem_cons_of_mem _ (List.mem_append_left ['*'] hc)
    have htext : (a ++ String.singleton c).toList ++ rest = a.toList ++ c :: rest := by simp
    -- the piece ends at the mark, and the mark itself is no parameter
    rw [htext, h.found _ (separates_cons hseparates _), foundFrom_mark hmark]

/-- A piece in front of a closing parenthesis. -/
theorem closed (h : Reads a ps) : Reads (a ++ ")") ps :=
  h.before (c := ')') (by decide)

/-- Two pieces with a comma between them. -/
theorem comma (ha : Reads a ps) (hb : Reads b qs) : Reads (a ++ ", " ++ b) (ps ++ qs) := by
  have hboth := (ha.before (c := ',') (by decide)).space hb
  have hcomma : a ++ String.singleton ',' ++ " " = a ++ ", " := String.append_assoc
  rwa [hcomma] at hboth

/-- A piece behind an opening parenthesis. -/
theorem opened (h : Reads a ps) : Reads ("(" ++ a) ps where
  opens := ⟨'(', a.toList, by simp, by decide⟩
  nullFree := by simp [h.nullFree]
  found rest hrest := by
    have htext : ("(" ++ a).toList ++ rest = '(' :: (a.toList ++ rest) := by simp
    rw [htext, foundFrom_mark (by decide), h.found rest hrest]

/-- Pieces joined by a separator are read one after another, if two of them are. -/
theorem join {α : Type} {separator : String} {f : α → String} {g : α → List String}
    (between : ∀ {a b : String} {ps qs : List String}, Reads a ps → Reads b qs →
      Reads (a ++ separator ++ b) (ps ++ qs))
    {xs : List α} (hne : xs ≠ []) (h : ∀ x ∈ xs, Reads (f x) (g x)) :
    Reads (Text.join separator (xs.map f)) (xs.flatMap g) := by
  induction xs with
  | nil => exact absurd rfl hne
  | cons x rest ih =>
    obtain ⟨hfirst, hothers⟩ := List.forall_mem_cons.1 h
    cases rest with
    | nil => simpa using hfirst
    | cons y more =>
      rw [List.map_cons, List.map_cons, Text.join_cons_cons, List.flatMap_cons]
      -- the first piece is put in front of the others joined, which the hypothesis reads
      exact between hfirst (ih (List.cons_ne_nil y more) hothers)

/-! ### Parts of pieces -/

/-- A column has no parameters. -/
theorem column {s : String} (h : IsColumnName s) : Reads s [] where
  opens := by
    obtain ⟨c, cs, hl, hc⟩ := h.exists_cons
    exact ⟨c, cs, hl, ne_of_isIdentifierStart hc rfl⟩
  nullFree hmem := by
    rcases h.chars _ hmem with hname | hpoint
    · exact absurd hname (by decide)
    · exact absurd hpoint (by decide)
  found rest hrest := by
    rw [foundFrom_column h hrest.endsName]
    simp

/-- A keyword has no parameters. -/
theorem word {s : String} (h : isIdentifier s = true) : Reads s [] :=
  column (.plain h)

/-- The placeholder of a column is one parameter. -/
theorem placeholder {s : String} (h : IsColumnName s) :
    Reads (BoundSql.placeholder s) [seen s] where
  opens := ⟨':', s.toList, by simp [BoundSql.placeholder], by decide⟩
  nullFree := by
    have hcolumn := (column h).nullFree
    simp [BoundSql.placeholder, hcolumn]
  found rest hrest := by
    rw [foundFrom_placeholder h hrest.endsName]
    rfl

/-- A mark that compares has no parameters. -/
theorem comparisonMark {s : String} (h : s ∈ comparisonMarks) : Reads s [] where
  opens := by
    simp only [comparisonMarks, List.mem_cons, List.not_mem_nil, or_false] at h
    rcases h with rfl | rfl | rfl | rfl | rfl | rfl <;> exact ⟨_, _, rfl, by decide⟩
  nullFree := by
    revert h s
    decide
  found rest hrest := by
    have hmark : foundFrom (s.toList ++ rest) = foundFrom rest := by
      obtain ⟨c, cs, hl, hsolid, hc, hlexeme⟩ := exists_of_comparisonMark h hrest
      rw [hl]
      exact foundFrom_other cs hsolid hc hlexeme (by decide)
    rw [hmark]
    simp

/-- The star for all columns has no parameters. -/
theorem star : Reads "*" [] where
  opens := ⟨'*', [], rfl, by decide⟩
  nullFree := by decide
  found rest _ := by
    rw [show "*".toList = ['*'] from rfl, List.singleton_append, foundFrom_mark (by decide)]
    simp

end Reads

end BoundSql.Engine.Token

/-! ## Engines -/

namespace BoundSql.Engine

open Parameters Token

/-- The parameters of a prepared statement are those found in its text, each of them once. -/
structure Parameters.Declares (names : Parameters) (found : List String) : Prop where
  distinct : names.Distinct
  mem_iff : ∀ name?, name? ∈ names ↔ ∃ text ∈ found, name? = some text

variable {σ : Type}

/-- How an engine takes bindings under the names of columns. -/
structure Connection.Takes (c : Connection σ) (method : Method) (sql : String) (p : Params)
    (state : σ) (statement : Statement σ) (columns : List String) : Prop where
  /-- A column has its own parameter exactly if there is no point in its name; the binding of any
  other is passed over. -/
  declared : ∀ name ∈ columns, some (placeholder name) ∈ statement.parameters ↔ '.' ∉ name.toList
  /-- The statement runs exactly if all that is seen of the placeholders is bound. -/
  runs : (∃ values, c.runs method sql p state = [values]) ↔
    ∀ name ∈ columns, seen name ∈ p.placeholders
  /-- When it runs, each parameter has received the value under its name. -/
  receives : ∀ values, c.runs method sql p state = [values] →
    List.Forall₂ (Receives p) statement.parameters values ∧
      c.database.answer (.run method sql p) state = statement.reply values state method
  /-- Otherwise something is reported that is seen of a placeholder and that nothing is bound to,
  and nothing runs. -/
  refused : (¬ ∀ name ∈ columns, seen name ∈ p.placeholders) →
    c.runs method sql p state = [] ∧
      ∃ name ∈ columns, seen name ∉ p.placeholders ∧
        c.database.answer (.run method sql p) state =
          ⟨.error (.database (.invalidParameterName (seen name))), state, []⟩

/-- The parameter of a name is bound exactly if the name is among the placeholders of the bindings.
-/
theorem Parameters.isBound_iff {p : Params} {name : String} :
    IsBound p (some name) ↔ name ∈ p.placeholders := by
  rw [Params.placeholders_eq_names, IsBound, Pairs.names, List.mem_map]
  constructor
  · rintro ⟨value, _, ⟨⟩, hmem⟩
    exact ⟨_, hmem, rfl⟩
  · rintro ⟨⟨_, value⟩, hmem, rfl⟩
    exact ⟨value, _, rfl, hmem⟩

/-- All parameters are bound exactly if all that is found of the placeholders is bound. -/
theorem Parameters.complete_iff {names : Parameters} {columns : List String}
    (h : names.Declares (columns.map seen)) (p : Params) :
    names.Complete p ↔ ∀ name ∈ columns, seen name ∈ p.placeholders := by
  constructor
  · intro hcomplete name hname
    exact isBound_iff.1 (hcomplete _ ((h.mem_iff _).2 ⟨_, List.mem_map_of_mem hname, rfl⟩))
  · intro hbound name? hmem
    obtain ⟨_, htext, rfl⟩ := (h.mem_iff name?).1 hmem
    obtain ⟨name, hname, rfl⟩ := List.mem_map.1 htext
    exact isBound_iff.2 (hbound name hname)

/-- The placeholder of a column is a parameter exactly if there is no point in the column. -/
theorem Parameters.Declares.placeholder_mem_iff {names : Parameters} {columns : List String}
    (h : names.Declares (columns.map seen)) {name : String} (hname : name ∈ columns)
    (hcolumn : IsColumnName name) : some (placeholder name) ∈ names ↔ '.' ∉ name.toList := by
  rw [h.mem_iff, ← hcolumn.seen_eq_iff]
  constructor
  · -- Nothing that is seen has a point, so only the placeholder itself can have been seen.
    rintro ⟨_, htext, hsame⟩
    obtain ⟨other, -, rfl⟩ := List.mem_map.1 htext
    have hpoint := IsColumnName.point_not_mem_seen other
    rw [← Option.some.inj hsame] at hpoint
    rw [hcolumn.seen_eq_iff]
    simpa [placeholder] using hpoint
  · -- without a point the placeholder is found as it is
    intro hseen
    exact ⟨_, List.mem_map_of_mem hname, by rw [hseen]⟩

/-- An engine whose parameters are those found in a text takes bindings accordingly. -/
theorem Connection.takes_of_declares {c : Connection σ} {sql : String} {state : σ}
    {statement : Statement σ} {columns : List String}
    (hcolumns : ∀ name ∈ columns, IsColumnName name)
    (hprepare : c.prepare sql state = .ok statement)
    (h : statement.parameters.Declares (columns.map seen)) (method : Method) (p : Params) :
    c.Takes method sql p state statement columns := by
  have hdeclared : ∀ name ∈ columns,
      some (placeholder name) ∈ statement.parameters ↔ '.' ∉ name.toList :=
    fun name hname => h.placeholder_mem_iff hname (hcolumns name hname)
  rcases assign_spec h.distinct p with ⟨values, hvalues, hassign⟩ | ⟨text, htext, hassign⟩
  · -- every parameter has received a value
    have hcomplete := (complete_iff h p).1 (.of_receives hvalues)
    have hruns := Connection.runs_of_ok hprepare hassign method
    refine ⟨hdeclared, iff_of_true ⟨values, hruns⟩ hcomplete, ?_, fun hnot => absurd hcomplete hnot⟩
    intro others hothers
    cases hruns.symm.trans hothers
    exact ⟨hvalues, Connection.answer_of_ok hprepare hassign method⟩
  · -- the lowest parameter without a value is one that was found of a placeholder
    have hincomplete : ¬ ∀ name ∈ columns, seen name ∈ p.placeholders :=
      fun hbound => htext.not_complete ((complete_iff h p).2 hbound)
    have hruns := Connection.runs_of_error hprepare hassign method
    refine ⟨hdeclared, iff_of_false ?_ hincomplete, ?_, fun _ => ⟨hruns, ?_⟩⟩
    · rintro ⟨values, hvalues⟩
      cases hruns.symm.trans hvalues
    · intro values hvalues
      cases hruns.symm.trans hvalues
    · obtain ⟨front, name?, back, hnames, -, hunbound, rfl⟩ := htext
      have hmem : name? ∈ statement.parameters := by
        rw [hnames]
        simp
      obtain ⟨_, hseen, rfl⟩ := (h.mem_iff name?).1 hmem
      obtain ⟨name, hname, rfl⟩ := List.mem_map.1 hseen
      rw [isBound_iff] at hunbound
      exact ⟨name, hname, hunbound, Connection.answer_of_error hprepare hassign method⟩

/-- If there is no point in any column, the statement runs and no binding is passed over. -/
theorem Connection.Takes.all_of_plain {c : Connection σ} {method : Method} {sql : String}
    {p : Params} {state : σ} {statement : Statement σ} {columns : List String}
    (h : c.Takes method sql p state statement columns)
    (hcolumns : ∀ name ∈ columns, IsColumnName name)
    (hparams : p.placeholders = columns.map placeholder)
    (hplain : ∀ name ∈ columns, '.' ∉ name.toList) :
    (∃ values, c.runs method sql p state = [values]) ∧
      ∀ text ∈ p.placeholders, some text ∈ statement.parameters := by
  constructor
  · refine h.runs.2 ?_
    intro name hname
    rw [(hcolumns name hname).seen_eq_iff.2 (hplain name hname), hparams]
    exact List.mem_map_of_mem hname
  · intro text htext
    rw [hparams] at htext
    obtain ⟨name, hname, rfl⟩ := List.mem_map.1 htext
    exact (h.declared name hname).2 (hplain name hname)

end BoundSql.Engine
