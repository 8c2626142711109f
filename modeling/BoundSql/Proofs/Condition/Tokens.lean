import Mathlib.Data.List.TakeWhile
import BoundSql.Proofs.Condition.Bound
import BoundSql.Proofs.Engine.Lexing

/-!
# The tokens of conditions

A condition is plain if its columns are plain names and its operators are the usual ones. The text
of a plain condition with names is cut into tokens one comparison after another, so that the tokens
can be read off the condition.

Main statement: `ofText?_text`, from `tokensFrom_text`, which says the same of a condition with
something behind it.
-/

namespace BoundSql

open Engine

/-! ## Plain conditions -/

namespace Condition

/-- The operators of the comparisons with a name of their own. -/
def operators : List String :=
  "LIKE" :: Token.comparisonMarks

/-- A plain name that is not read as a connective. -/
def IsPlainColumn (column : String) : Prop :=
  Token.isPlainName column = true ∧
    column.map Char.toUpper ≠ "AND" ∧ column.map Char.toUpper ≠ "OR"

/-- Every column is a plain name, every operator is one of the usual, and no group is empty. -/
def Plain (c : Condition) : Prop :=
  c.Every fun column operator => IsPlainColumn column ∧ operator ∈ operators

/-- Every condition of a list is plain. -/
def PlainEach (cs : List Condition) : Prop :=
  EveryEach (fun column operator => IsPlainColumn column ∧ operator ∈ operators) cs

/-- A plain name is not blank. -/
theorem isBlank_of_isPlainName {s : String} (h : Token.isPlainName s = true) :
    Text.isBlank s = false := by
  obtain ⟨c, cs, hs, hc, -⟩ := Token.exists_of_isPlainName h
  have hbounds := Token.isNameStart_bounds hc
  have hspace : Text.isWhiteSpace c = false := by
    simp only [Text.isWhiteSpace, Bool.or_eq_false_iff, Bool.and_eq_false_iff,
      decide_eq_false_iff_not, beq_eq_false_iff_ne]
    omega
  exact Text.not_isBlank_iff.2 ⟨c, by simp [hs], hspace⟩

/-- A plain condition can be compiled. -/
theorem Plain.complete {c : Condition} (h : c.Plain) : c.Complete := by
  refine Every.imp ?_ h
  rintro column operator ⟨⟨hname, -⟩, hoperator⟩
  refine ⟨isBlank_of_isPlainName hname, ?_⟩
  revert operator
  decide

end Condition

/-! ## Tokens -/

namespace BoundCondition

/-- The token of an operator. -/
def operatorToken (operator : String) : Token :=
  if operator = "LIKE" then ⟨.word, operator, " "⟩ else ⟨.mark, operator, " "⟩

mutual

/-- The tokens of a condition, of which the last one has a gap behind it. -/
def tokens (gap : String) : BoundCondition → List Token
  | .compare column operator _ name =>
    [⟨.word, column, " "⟩, operatorToken operator, ⟨.parameter, placeholder name, gap⟩]
  | .group connective members =>
    ⟨.mark, "(", ""⟩ :: (tokensEach connective members ++ [⟨.mark, ")", gap⟩])

/-- The tokens of conditions with a connective between them. -/
def tokensEach (connective : Connective) : List BoundCondition → List Token
  | [] => []
  | [c] => c.tokens ""
  | c :: next :: rest =>
    c.tokens " " ++ ⟨.word, connective.keyword, " "⟩ :: tokensEach connective (next :: rest)

end

/-- Digits are characters of a name. -/
theorem isNameChar_of_mem_number {n : Nat} {d : Char} (hd : d ∈ (toString n).toList) :
    Token.isNameChar d = true := by
  rw [Nat.toString_eq_repr, Nat.toList_repr] at hd
  have hdigit := Nat.isDigit_of_mem_toDigits (by decide) (by decide) hd
  simp [Token.isNameChar, Char.isAlphanum, hdigit]

/-- The name of a comparison with a plain column is made of characters of a name. -/
theorem name_chars {column name : String} (hcolumn : Condition.IsPlainColumn column)
    (hname : name = column ∨ ∃ n, name = Params.suffixed column n) :
    name ≠ "" ∧ ∀ d ∈ name.toList, Token.isNameChar d = true := by
  obtain ⟨c, cs, hs, -, hchars⟩ := Token.exists_of_isPlainName hcolumn.1
  have hne : column ≠ "" := by
    rintro rfl
    cases hs
  rw [← hs] at hchars
  rcases hname with rfl | ⟨n, rfl⟩
  · exact ⟨hne, hchars⟩
  · -- The number behind the column is made of digits.
    constructor
    · simp [Params.suffixed, hne]
    · intro d hd
      rw [Params.suffixed, String.toList_append, List.mem_append] at hd
      rcases hd with hd | hd
      · exact hchars d hd
      · exact isNameChar_of_mem_number hd

/-- The text of a plain condition begins with a name or with a parenthesis. -/
theorem solid_text (c : BoundCondition) (hplain : c.condition.Plain) (rest : List Char) :
    Token.Solid (c.text.toList ++ rest) := by
  cases c with
  | compare column operator value name =>
    have hcolumn : Condition.IsPlainColumn column := hplain.1
    obtain ⟨c, cs, hs, hc, -⟩ := Token.exists_of_isPlainName hcolumn.1
    simp only [text, String.toList_append, hs, List.cons_append]
    exact Token.solid_of_isNameStart hc _
  | group connective members =>
    simp only [text, String.toList_append, List.append_assoc]
    exact ⟨'(', _, rfl, rfl, by decide, by decide, by decide⟩

/-- The operator of a plain comparison is read as its token. -/
theorem tokensFrom_operator {operator : String} (h : operator ∈ Condition.operators)
    {next : List Char} (hnext : Token.Solid next) :
    Token.tokensFrom (operator.toList ++ ' ' :: next) =
      (Token.tokensFrom next).map (operatorToken operator :: ·) := by
  rcases List.mem_cons.1 h with rfl | h
  · exact Token.tokensFrom_name (by decide) hnext
  · have hlike : operator ≠ "LIKE" := by
      rintro rfl
      exact absurd h (by decide)
    rw [Token.tokensFrom_comparisonMark h hnext, operatorToken, if_neg hlike]

/-- An operator begins with a letter or a mark. -/
theorem solid_operator {operator : String} (h : operator ∈ Condition.operators) (rest : List Char) :
    Token.Solid (operator.toList ++ rest) := by
  simp only [Condition.operators, Token.comparisonMarks, List.mem_cons, List.not_mem_nil,
    or_false] at h
  rcases h with rfl | rfl | rfl | rfl | rfl | rfl | rfl <;>
    exact ⟨_, _, rfl, rfl, by decide, by decide, by decide⟩

/-! ## Lexing -/

/-- A comparison is cut into its column, its operator and its placeholder. -/
theorem tokensFrom_compare {column operator name : String}
    (hcolumn : Condition.IsPlainColumn column) (hoperator : operator ∈ Condition.operators)
    (hname : name = column ∨ ∃ n, name = Params.suffixed column n) (value : Value) {gap : String}
    {next : List Char} (h : Token.Closes gap.toList next) :
    Token.tokensFrom ((compare column operator value name).text.toList ++ (gap.toList ++ next)) =
      (Token.tokensFrom next).map ((compare column operator value name).tokens gap ++ ·) := by
  obtain ⟨hne, hchars⟩ := name_chars hcolumn hname
  have hsolid : Token.Solid (':' :: name.toList ++ (gap.toList ++ next)) :=
    ⟨':', _, rfl, rfl, by decide, by decide, by decide⟩
  have htext : (compare column operator value name).text.toList ++ (gap.toList ++ next) =
      column.toList ++ ' ' :: (operator.toList ++ ' ' ::
        (':' :: name.toList ++ (gap.toList ++ next))) := by
    simp [text, placeholder]
  rw [htext, Token.tokensFrom_name hcolumn.1 (solid_operator hoperator _),
    tokensFrom_operator hoperator hsolid, Token.tokensFrom_parameter hne hchars h]
  simp [tokens, Function.comp_def]

/-- A connective between two conditions is read as a word. -/
theorem tokensFrom_connective (connective : Connective) {next : List Char}
    (hnext : Token.Solid next) :
    Token.tokensFrom (connective.keyword.toList ++ ' ' :: next) =
      (Token.tokensFrom next).map (⟨.word, connective.keyword, " "⟩ :: ·) :=
  Token.tokensFrom_name (by cases connective <;> decide) hnext

/-- The texts of the members of a group with the connective between them. -/
def joined (connective : Connective) (members : List BoundCondition) : String :=
  Text.join (" " ++ connective.keyword ++ " ") (texts members)

/-- So does the text of members joined. -/
theorem solid_joined (connective : Connective) {members : List BoundCondition}
    (hne : members ≠ []) (hplain : Condition.PlainEach (conditions members)) (rest : List Char) :
    Token.Solid ((joined connective members).toList ++ rest) := by
  match members with
  | [] => exact absurd rfl hne
  | [first] => exact solid_text first hplain.1 rest
  | first :: second :: more =>
    simp only [joined, texts, Text.join_cons_cons, String.toList_append, List.append_assoc]
    exact solid_text first hplain.1 _

/-- A group with conditions has members. -/
theorem members_ne_nil {members : List BoundCondition} (h : conditions members ≠ []) :
    members ≠ [] := by
  rintro rfl
  exact h rfl

mutual

/-- The text of a condition is cut into its tokens, if something that closes it stands behind. -/
theorem tokensFrom_text (c : BoundCondition) (hplain : c.condition.Plain)
    (hnamed : c.NamedByColumn) {gap : String} {next : List Char}
    (h : Token.Closes gap.toList next) :
    Token.tokensFrom (c.text.toList ++ (gap.toList ++ next)) =
      (Token.tokensFrom next).map (c.tokens gap ++ ·) := by
  match c with
  | .compare column operator value name => exact tokensFrom_compare hplain.1 hplain.2 hnamed value h
  | .group connective members =>
    have hne := members_ne_nil hplain.1
    -- the closing parenthesis belongs to what stands behind the last member
    have hmembers := tokensFrom_joined connective members hne hplain.2 hnamed (gap.toList ++ next)
    have htext : (group connective members).text.toList ++ (gap.toList ++ next) =
        '(' :: ((joined connective members).toList ++ ')' :: (gap.toList ++ next)) := by
      simp [text, joined]
    rw [htext, Token.tokensFrom_open (solid_joined connective hne hplain.2 _), hmembers,
      Token.tokensFrom_close h]
    simp [tokens, Function.comp_def]

/-- The same for the members of a group and the closing parenthesis behind them. -/
theorem tokensFrom_joined (connective : Connective) (members : List BoundCondition)
    (hne : members ≠ []) (hplain : Condition.PlainEach (conditions members))
    (hnamed : NamedByColumnEach members) (next : List Char) :
    Token.tokensFrom ((joined connective members).toList ++ ')' :: next) =
      (Token.tokensFrom (')' :: next)).map (tokensEach connective members ++ ·) := by
  match members with
  | [] => exact absurd rfl hne
  | [last] =>
    -- The last member is closed by the parenthesis, any other by the space behind it.
    have hcloses : Token.Closes "".toList (')' :: next) := .inr ⟨rfl, .inr ⟨next, rfl⟩⟩
    exact tokensFrom_text last hplain.1 hnamed.1 hcloses
  | first :: second :: more =>
    -- The connective stands between the first member and the others, which are cut as a group of
    -- their own.
    have hothers := tokensFrom_joined connective (second :: more) (by simp) hplain.2 hnamed.2 next
    have hsolid := solid_joined connective (by simp) hplain.2 (')' :: next)
    have hkeyword : Token.Solid (connective.keyword.toList ++ ' ' ::
        ((joined connective (second :: more)).toList ++ ')' :: next)) := by
      cases connective <;> exact Token.solid_of_isNameStart (by decide) _
    have hcloses : Token.Closes " ".toList (connective.keyword.toList ++ ' ' ::
        ((joined connective (second :: more)).toList ++ ')' :: next)) := .inl ⟨rfl, hkeyword⟩
    have htext : (joined connective (first :: second :: more)).toList ++ ')' :: next =
        first.text.toList ++ (" ".toList ++ (connective.keyword.toList ++ ' ' ::
          ((joined connective (second :: more)).toList ++ ')' :: next))) := by
      simp [joined, texts, Text.join_cons_cons]
    rw [htext, tokensFrom_text first hplain.1 hnamed.1 hcloses,
      tokensFrom_connective connective hsolid, hothers]
    simp [tokensEach, Function.comp_def]

end

/-- A text without a null character, which would end a statement. -/
def NullFree (s : String) : Prop :=
  '\x00' ∉ s.toList

instance (s : String) : Decidable (NullFree s) :=
  inferInstanceAs (Decidable (¬ _))

theorem NullFree.append {s t : String} (hs : NullFree s) (ht : NullFree t) :
    NullFree (s ++ t) := by
  rw [NullFree, String.toList_append, List.mem_append, not_or]
  exact ⟨hs, ht⟩

/-- Characters of a name are not null. -/
theorem nullFree_of_chars {s : String} (h : ∀ d ∈ s.toList, Token.isNameChar d = true) :
    NullFree s := by
  intro hmem
  exact absurd (h _ hmem) (by decide)

theorem nullFree_operator : ∀ {operator : String}, operator ∈ Condition.operators →
    NullFree operator := by
  decide

mutual

/-- There is no null character in the text of a plain condition. -/
theorem nullFree_text (c : BoundCondition) (hplain : c.condition.Plain) (hnamed : c.NamedByColumn) :
    NullFree c.text := by
  match c with
  | .compare column operator value name =>
    have hcolumn : Condition.IsPlainColumn column := hplain.1
    have hchars : ∀ name, (name = column ∨ ∃ n, name = Params.suffixed column n) → NullFree name :=
      fun name hname => nullFree_of_chars (name_chars hcolumn hname).2
    have hspace : NullFree " " := by decide
    have hcolon : NullFree ":" := by decide
    have hleft := ((hchars column (.inl rfl)).append hspace).append (nullFree_operator hplain.2)
    exact (hleft.append hspace).append (hcolon.append (hchars name hnamed))
  | .group connective members =>
    have hmembers := nullFree_joined connective members hplain.2 hnamed
    have hopen : NullFree "(" := by decide
    have hclose : NullFree ")" := by decide
    exact (hopen.append hmembers).append hclose

/-- Nor is there one in the text of members joined. -/
theorem nullFree_joined (connective : Connective) (members : List BoundCondition)
    (hplain : Condition.PlainEach (conditions members)) (hnamed : NamedByColumnEach members) :
    NullFree (joined connective members) := by
  match members with
  | [] => exact List.not_mem_nil
  | [last] => exact nullFree_text last hplain.1 hnamed.1
  | first :: second :: more =>
    have hfirst := nullFree_text first hplain.1 hnamed.1
    have hothers := nullFree_joined connective (second :: more) hplain.2 hnamed.2
    have hkeyword : NullFree (" " ++ connective.keyword ++ " ") := by
      cases connective <;> decide
    exact (hfirst.append hkeyword).append hothers

end

/-- The text of a condition is cut into its tokens. -/
theorem ofText?_text (c : BoundCondition) (hplain : c.condition.Plain) (hnamed : c.NamedByColumn) :
    Token.ofText? c.text = some (c.tokens "") := by
  -- without a null character all of the text is read
  have hnull : c.text.toList.takeWhile (· != '\x00') = c.text.toList := by
    rw [List.takeWhile_eq_self_iff]
    intro d hd
    have hne : d ≠ '\x00' := by
      rintro rfl
      exact nullFree_text c hplain hnamed hd
    simpa using hne
  -- and nothing is passed over in front
  have hsolid : Token.gapLength c.text.toList = 0 := by
    have hs := solid_text c hplain []
    rw [List.append_nil] at hs
    exact hs.gapLength
  have hcloses : Token.Closes "".toList [] := .inr ⟨rfl, .inl rfl⟩
  have htokens := tokensFrom_text c hplain hnamed hcloses
  simp only [Token.ofText?, hnull, hsolid, List.drop_zero]
  simpa [Token.tokensFrom] using htokens

end BoundCondition

end BoundSql
