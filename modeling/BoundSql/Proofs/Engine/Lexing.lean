import BoundSql.Engine.Token
import BoundSql.Params

/-!
# Lexing

How written tokens are read back. A token is read back on its own: what stands behind it only has
to end it. Names and words of operators end with a space, and what closes a condition ends with a
space, with a closing parenthesis or with the text.

Main statements: `tokensFrom_name`, `tokensFrom_parameter`, `tokensFrom_open`, `tokensFrom_close`.
-/

namespace BoundSql.Engine.Token

/-! ## Names -/

/-- A letter or an underscore. -/
def isNameStart (c : Char) : Bool :=
  c.isAlpha || c == '_'

/-- A name: one of the characters that may begin it, and characters of a name behind it. -/
def isNameFrom (start : Char → Bool) (s : String) : Bool :=
  match s.toList with
  | [] => false
  | c :: cs => start c && cs.all isNameChar

/-- A plain name begins with a letter or an underscore. -/
def isPlainName (s : String) : Bool :=
  isNameFrom isNameStart s

/-- If the characters that may begin a name are characters of a name, all of the name is. -/
theorem exists_of_isNameFrom {start : Char → Bool}
    (hstart : ∀ c, start c = true → isNameChar c = true) {s : String}
    (h : isNameFrom start s = true) :
    ∃ c cs, s.toList = c :: cs ∧ start c = true ∧ ∀ d ∈ c :: cs, isNameChar d = true := by
  unfold isNameFrom at h
  split at h
  · cases h
  · rename_i c cs hs
    simp only [Bool.and_eq_true, List.all_eq_true] at h
    exact ⟨c, cs, hs, h.1, List.forall_mem_cons.2 ⟨hstart c h.1, h.2⟩⟩

/-- What begins a name lies between `A` and `z`, which is enough to tell it from digits and marks.
-/
theorem isNameStart_bounds {c : Char} (h : isNameStart c = true) :
    65 ≤ c.toNat ∧ c.toNat ≤ 122 := by
  unfold isNameStart Char.isAlpha Char.isUpper Char.isLower at h
  simp only [Bool.or_eq_true, Bool.and_eq_true, decide_eq_true_eq, beq_iff_eq, ge_iff_le,
    UInt32.le_iff_toNat_le] at h
  rcases h with (h | h) | rfl
  · -- a capital letter
    have h₁ : 65 ≤ c.toNat := h.1
    have h₂ : c.toNat ≤ 90 := h.2
    omega
  · -- a small letter
    have h₁ : 97 ≤ c.toNat := h.1
    have h₂ : c.toNat ≤ 122 := h.2
    omega
  · decide

theorem isNameChar_of_isNameStart {c : Char} (h : isNameStart c = true) : isNameChar c = true := by
  simp only [isNameStart, isNameChar, Char.isAlphanum, Bool.or_eq_true] at h ⊢
  rcases h with h | h
  · exact .inl (.inl (.inl (.inl h)))
  · exact .inl (.inl (.inr h))

/-- A plain name has a first character, and all its characters are characters of a name. -/
theorem exists_of_isPlainName {s : String} (h : isPlainName s = true) :
    ∃ c cs, s.toList = c :: cs ∧ isNameStart c = true ∧ ∀ d ∈ c :: cs, isNameChar d = true :=
  exists_of_isNameFrom (fun _ => isNameChar_of_isNameStart) h

/-! ## Identifiers -/

/-- A character that begins an identifier: a letter, an underscore, or a character beyond ASCII. A
byte order mark begins none, as it is passed over where a token may begin. -/
def isIdentifierStart (c : Char) : Bool :=
  isNameStart c || (128 ≤ c.toNat && c != '\ufeff')

/-- An identifier begins with such a character. -/
def isIdentifier (s : String) : Bool :=
  isNameFrom isIdentifierStart s

theorem isIdentifierStart_of_isNameStart {c : Char} (h : isNameStart c = true) :
    isIdentifierStart c = true := by
  rw [isIdentifierStart, h, Bool.true_or]

/-- What begins an identifier is a letter or an underscore of ASCII, or lies beyond ASCII. -/
theorem isIdentifierStart_bounds {c : Char} (h : isIdentifierStart c = true) :
    65 ≤ c.toNat ∧ c.toNat ≤ 122 ∨ 128 ≤ c.toNat := by
  simp only [isIdentifierStart, Bool.or_eq_true, Bool.and_eq_true, decide_eq_true_eq] at h
  rcases h with h | h
  · exact .inl (isNameStart_bounds h)
  · exact .inr h.1

theorem ne_of_isIdentifierStart {c d : Char} (h : isIdentifierStart c = true)
    (hd : isIdentifierStart d = false) : c ≠ d := by
  rintro rfl
  rw [h] at hd
  cases hd

theorem isNameChar_of_isIdentifierStart {c : Char} (h : isIdentifierStart c = true) :
    isNameChar c = true := by
  simp only [isIdentifierStart, Bool.or_eq_true, Bool.and_eq_true] at h
  rcases h with h | h
  · exact isNameChar_of_isNameStart h
  · rw [isNameChar, h.1, Bool.or_true]

/-- An identifier has a first character, and all its characters are characters of a name. -/
theorem exists_of_isIdentifier {s : String} (h : isIdentifier s = true) :
    ∃ c cs, s.toList = c :: cs ∧ isIdentifierStart c = true ∧
      ∀ d ∈ c :: cs, isNameChar d = true :=
  exists_of_isNameFrom (fun _ => isNameChar_of_isIdentifierStart) h

/-- No number begins with what begins an identifier: that is neither a digit nor a point. -/
theorem startsNumber_of_isIdentifierStart {c : Char} (h : isIdentifierStart c = true)
    (cs : List Char) : startsNumber c cs = false := by
  have hdigit : c.isDigit = false := by
    simp only [Char.isDigit, Bool.and_eq_false_iff, decide_eq_false_iff_not, ge_iff_le,
      UInt32.le_iff_toNat_le]
    right
    have := isIdentifierStart_bounds h
    show ¬ c.toNat ≤ 57
    omega
  simp [startsNumber, hdigit, ne_of_isIdentifierStart h (d := '.') rfl]

/-! ## Gaps -/

/-- The text begins with a character that is neither white space nor may begin a comment. -/
def Solid (cs : List Char) : Prop :=
  ∃ c rest, cs = c :: rest ∧ isSpace c = false ∧ c ≠ '\ufeff' ∧ c ≠ '-' ∧ c ≠ '/'

/-- Ahead of such a text there is no gap. -/
theorem Solid.gapLength {cs : List Char} (h : Solid cs) : gapLength cs = 0 := by
  obtain ⟨c, rest, rfl, hspace, hmark, hminus, hslash⟩ := h
  have hgap : gap? c rest = none := by
    simp [gap?, hspace, hmark, hminus, hslash]
  rw [Token.gapLength, hgap]

/-- One space ahead of such a text is the whole gap. -/
theorem Solid.gapLength_space {cs : List Char} (h : Solid cs) :
    Token.gapLength (' ' :: cs) = 1 := by
  have hzero := h.gapLength
  obtain ⟨c, rest, rfl, hspace, -⟩ := h
  have hgap : gap? ' ' (c :: rest) = some 0 := by
    have hs : isSpace ' ' = true := by decide
    simp [gap?, hs, hspace]
  rw [Token.gapLength, hgap]
  simpa using hzero

/-- An identifier is such a text, whatever follows its first character. -/
theorem solid_of_isIdentifierStart {c : Char} (h : isIdentifierStart c = true)
    (rest : List Char) : Solid (c :: rest) := by
  refine ⟨c, rest, rfl, ?_, ne_of_isIdentifierStart h rfl, ne_of_isIdentifierStart h rfl,
    ne_of_isIdentifierStart h rfl⟩
  have hbounds := isIdentifierStart_bounds h
  have hne : c ≠ ' ' := ne_of_isIdentifierStart h rfl
  simp only [isSpace, Bool.or_eq_false_iff, beq_eq_false_iff_ne, Bool.and_eq_false_iff,
    decide_eq_false_iff_not]
  exact ⟨hne, .inr (by omega)⟩

theorem solid_of_isNameStart {c : Char} (h : isNameStart c = true) (rest : List Char) :
    Solid (c :: rest) :=
  solid_of_isIdentifierStart (isIdentifierStart_of_isNameStart h) rest

/-- What stands behind a condition: a space with more behind it, or at once a closing parenthesis
or the end of the text. -/
def Closes (gap next : List Char) : Prop :=
  gap = [' '] ∧ Solid next ∨ gap = [] ∧ (next = [] ∨ ∃ more, next = ')' :: more)

/-- The gap behind a condition ends where the rest begins. -/
theorem Closes.gapLength {gap next : List Char} (h : Closes gap next) :
    Token.gapLength (gap ++ next) = gap.length := by
  rcases h with ⟨rfl, h⟩ | ⟨rfl, rfl | ⟨more, rfl⟩⟩
  · -- a space and more behind it
    exact h.gapLength_space
  · -- the end of the text
    rw [List.nil_append, Token.gapLength]
    rfl
  · -- a closing parenthesis
    have hsolid : Solid (')' :: more) := ⟨')', more, rfl, rfl, by decide, by decide, by decide⟩
    exact hsolid.gapLength

/-- Nothing more belongs to a name in front of it: it begins with a space, with a mark that no name
has, or not at all. -/
def EndsName (cs : List Char) : Prop :=
  ∀ c ∈ cs.head?, c ∈ [' ', ')', ',', '.']

theorem endsName_nil : EndsName [] :=
  nofun

theorem endsName_cons {c : Char} (h : c ∈ [' ', ')', ',', '.']) (cs : List Char) :
    EndsName (c :: cs) := by
  rintro d ⟨⟩
  exact h

theorem EndsName.not_isNameChar {cs : List Char} (h : EndsName cs) {c : Char} (hc : c ∈ cs.head?) :
    isNameChar c = false := by
  have hmark := h c hc
  simp only [List.mem_cons, List.not_mem_nil, or_false] at hmark
  rcases hmark with rfl | rfl | rfl | rfl <;> rfl

/-- Behind a condition a name is at its end. -/
theorem Closes.endsName {gap next : List Char} (h : Closes gap next) : EndsName (gap ++ next) := by
  rcases h with ⟨rfl, -⟩ | ⟨rfl, rfl | ⟨more, rfl⟩⟩
  · exact endsName_cons (by decide) next
  · exact endsName_nil
  · exact endsName_cons (by decide) more

/-! ## Single tokens -/

/-- A lexeme with a gap behind it is read as one token. -/
theorem tokensFrom_token {lexeme : Lexeme} {c : Char} (cs gap : List Char) {next : List Char}
    (hc : c ≠ ';') (h : lexeme? c (cs ++ (gap ++ next)) = some (lexeme, cs.length))
    (hgap : gapLength (gap ++ next) = gap.length) :
    tokensFrom (c :: (cs ++ (gap ++ next))) =
      (tokensFrom next).map (⟨lexeme, String.ofList (c :: cs), String.ofList gap⟩ :: ·) := by
  have hc' : (c == ';') = false := by simpa using hc
  rw [tokensFrom]
  simp only [hc', h, Bool.false_eq_true, if_false, List.drop_left, List.take_left, hgap]

/-- A name is as long as its characters when nothing more belongs to it. -/
theorem nameLength_append {cs : List Char} (h : ∀ d ∈ cs, isNameChar d = true)
    {rest : List Char} (hrest : EndsName rest) : nameLength (cs ++ rest) = cs.length := by
  have hnone : rest.takeWhile isNameChar = [] := by
    cases rest with
    | nil => rfl
    | cons c more =>
      rw [List.takeWhile_cons_of_neg]
      simp [hrest.not_isNameChar (c := c) rfl]
  rw [nameLength, List.takeWhile_append_of_pos h, hnone, List.append_nil]

/-- An identifier at its end is read as one word. -/
theorem lexeme?_name {c : Char} {cs : List Char} (hc : isIdentifierStart c = true)
    (hcs : ∀ d ∈ cs, isNameChar d = true) {rest : List Char} (hrest : EndsName rest) :
    lexeme? c (cs ++ rest) = some (.word, cs.length) := by
  have hne : ∀ d : Char, isIdentifierStart d = false → (c == d) = false := by
    intro d hd
    simpa using ne_of_isIdentifierStart hc hd
  -- A name may begin like a blob, but no quote follows.
  have hblob : ∀ more, cs ++ rest ≠ '\x27' :: more := by
    intro more hmore
    cases cs with
    | nil =>
      have hquote := hrest '\x27' (by rw [← List.nil_append rest, hmore]; rfl)
      exact absurd hquote (by decide)
    | cons d ds =>
      have hd := hcs d (by simp)
      simp only [List.cons_append, List.cons.injEq] at hmore
      rw [hmore.1] at hd
      exact absurd hd (by decide)
  -- The first character is none of the marks that begin another token.
  unfold lexeme?
  simp only [hne '?' rfl, hne ':' rfl, hne '@' rfl, hne '$' rfl, hne '#' rfl, hne '\x27' rfl,
    hne '"' rfl, hne '\x60' rfl, hne '[' rfl, startsNumber_of_isIdentifierStart hc,
    isNameChar_of_isIdentifierStart hc, nameLength_append hcs hrest, Bool.or_false,
    Bool.false_eq_true, if_false, if_true]
  split
  · rfl
  · rfl

/-- A plain name with a space behind it is read as a word. -/
theorem tokensFrom_name {s : String} (hs : isPlainName s = true) {next : List Char}
    (hnext : Solid next) :
    tokensFrom (s.toList ++ ' ' :: next) = (tokensFrom next).map (⟨.word, s, " "⟩ :: ·) := by
  obtain ⟨c, cs, hl, hc, hchars⟩ := exists_of_isPlainName hs
  have htext : String.ofList (c :: cs) = s := by rw [← hl, String.ofList_toList]
  have hstart := isIdentifierStart_of_isNameStart hc
  have hends : EndsName (' ' :: next) := endsName_cons (by decide) next
  have hlexeme := lexeme?_name hstart (fun d hd => hchars d (List.mem_cons_of_mem _ hd)) hends
  have htoken := tokensFrom_token cs [' '] (ne_of_isIdentifierStart hstart (d := ';') rfl) hlexeme
    hnext.gapLength_space
  rw [htext] at htoken
  rw [hl]
  exact htoken

/-- One more character of a name makes a parameter one character longer. -/
theorem parameterLength_cons {c : Char} (hc : isNameChar c = true) (named : Bool)
    (rest : List Char) :
    parameterLength named (c :: rest) = (parameterLength true rest).map (· + 1) := by
  have hcolon : c ≠ ':' := by
    rintro rfl
    exact absurd hc (by decide)
  rw [parameterLength]
  · rw [if_pos hc]
  · intro more hc'
    exact absurd hc' hcolon

/-- A parameter is as long as the characters of its name. -/
theorem parameterLength_append {cs : List Char} (h : ∀ d ∈ cs, isNameChar d = true)
    {rest : List Char} (hrest : EndsName rest) :
    parameterLength true (cs ++ rest) = some cs.length := by
  induction cs with
  | nil =>
    cases rest with
    | nil => rfl
    | cons c more =>
      have hname := hrest.not_isNameChar (c := c) rfl
      -- No suffix in parentheses and no second colon goes on with the name.
      have hopen : c ≠ '(' := by
        rintro rfl
        exact absurd (hrest '(' rfl) (by decide)
      have hcolon : c ≠ ':' := by
        rintro rfl
        exact absurd (hrest ':' rfl) (by decide)
      rw [List.nil_append, parameterLength]
      · simp [hname, hopen]
      · intro _ h
        exact absurd h hcolon
  | cons d ds ih =>
    have hd := h d (by simp)
    rw [List.cons_append, parameterLength_cons hd, ih fun e he => h e (List.mem_cons_of_mem _ he)]
    rfl

/-- A colon and characters of a name are read as a parameter. -/
theorem lexeme?_parameter {c : Char} {cs : List Char} (h : ∀ d ∈ c :: cs, isNameChar d = true)
    {rest : List Char} (hrest : EndsName rest) :
    lexeme? ':' (c :: cs ++ rest) = some (.parameter, (c :: cs).length) := by
  have hlength : parameterLength false (c :: cs ++ rest) = some (c :: cs).length := by
    rw [List.cons_append, parameterLength_cons (h c (by simp)),
      parameterLength_append (fun d hd => h d (List.mem_cons_of_mem _ hd)) hrest]
    rfl
  simpa [lexeme?] using hlength

theorem ofList_placeholder {name : String} {cs : List Char} (h : name.toList = cs) :
    String.ofList (':' :: cs) = placeholder name := by
  rw [← String.toList_inj]
  simp [placeholder, h]

/-- The placeholder of a name is read as a parameter. -/
theorem tokensFrom_parameter {name : String} (hne : name ≠ "")
    (hname : ∀ d ∈ name.toList, isNameChar d = true) {gap : String} {next : List Char}
    (h : Closes gap.toList next) :
    tokensFrom (':' :: name.toList ++ (gap.toList ++ next)) =
      (tokensFrom next).map (⟨.parameter, placeholder name, gap⟩ :: ·) := by
  cases hl : name.toList with
  -- a colon alone is no parameter
  | nil =>
    rw [String.toList_eq_nil_iff] at hl
    exact absurd hl hne
  | cons c cs =>
    rw [hl] at hname
    have htoken := tokensFrom_token (c :: cs) gap.toList (by decide)
      (lexeme?_parameter hname h.endsName) h.gapLength
    rw [ofList_placeholder hl, String.ofList_toList] at htoken
    exact htoken

/-- The operators of comparisons that are marks. -/
def comparisonMarks : List String :=
  ["=", "!=", ">", ">=", "<", "<="]

/-- Such an operator with a space behind it is read as a mark. -/
theorem tokensFrom_comparisonMark {s : String} (hs : s ∈ comparisonMarks) {next : List Char}
    (hnext : Solid next) :
    tokensFrom (s.toList ++ ' ' :: next) = (tokensFrom next).map (⟨.mark, s, " "⟩ :: ·) := by
  simp only [comparisonMarks, List.mem_cons, List.not_mem_nil, or_false] at hs
  rcases hs with rfl | rfl | rfl | rfl | rfl | rfl
  · exact tokensFrom_token [] [' '] (by decide) rfl hnext.gapLength_space
  · exact tokensFrom_token ['='] [' '] (by decide) rfl hnext.gapLength_space
  · exact tokensFrom_token [] [' '] (by decide) rfl hnext.gapLength_space
  · exact tokensFrom_token ['='] [' '] (by decide) rfl hnext.gapLength_space
  · exact tokensFrom_token [] [' '] (by decide) rfl hnext.gapLength_space
  · exact tokensFrom_token ['='] [' '] (by decide) rfl hnext.gapLength_space

/-- An opening parenthesis is read as a mark. -/
theorem tokensFrom_open {next : List Char} (hnext : Solid next) :
    tokensFrom ('(' :: next) = (tokensFrom next).map (⟨.mark, "(", ""⟩ :: ·) :=
  tokensFrom_token [] [] (by decide) rfl hnext.gapLength

/-- A closing parenthesis is read as a mark. -/
theorem tokensFrom_close {gap : String} {next : List Char} (h : Closes gap.toList next) :
    tokensFrom (')' :: (gap.toList ++ next)) =
      (tokensFrom next).map (⟨.mark, ")", gap⟩ :: ·) := by
  have hlexeme : lexeme? ')' ([] ++ (gap.toList ++ next)) = some (.mark, 0) := rfl
  have htoken := tokensFrom_token [] gap.toList (by decide) hlexeme h.gapLength
  rw [String.ofList_toList] at htoken
  exact htoken

end BoundSql.Engine.Token
