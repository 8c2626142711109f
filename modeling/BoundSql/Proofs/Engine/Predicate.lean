import BoundSql.Params
import BoundSql.Proofs.Engine.Lexing

/-!
# Predicates

The usual grammar of a search condition over tokens. A comparison has a column, an operator and a
parameter; `AND` binds tighter than `OR`, and parentheses bind tighter than both:

    disjunction = conjunction { "OR" conjunction }
    conjunction = operand { "AND" operand }
    operand     = "(" disjunction ")" | column operator parameter

Each rule reads as much as it can from the front of the tokens. The lemmas say what a rule reads
from what the rules below it have read.
-/

namespace BoundSql.Engine

/-- A search condition as it is read. -/
inductive Predicate where
  | compare (column operator placeholder : String)
  | both (left right : Predicate)
  | either (left right : Predicate)
deriving DecidableEq, Repr

namespace Predicate

/-- Whether a predicate holds, if all its placeholders are bound. -/
def holds (truth : String → String → Value → Bool) (params : Params) : Predicate → Option Bool
  | compare column operator placeholder => (params.get? placeholder).map (truth column operator)
  | both left right => do
    let l ← left.holds truth params
    let r ← right.holds truth params
    return l && r
  | either left right => do
    let l ← left.holds truth params
    let r ← right.holds truth params
    return l || r

/-! ## Comparisons -/

/-- Whether a token can name a column. -/
def isColumn (t : Token) : Bool :=
  t.lexeme == .word && !t.isKeyword "AND" && !t.isKeyword "OR"

/-- Whether a token is an operator. -/
def isOperator (t : Token) : Bool :=
  t.isKeyword "LIKE" || Token.comparisonMarks.any t.isMark

/-! ## Reading -/

/-- What has been read from the front of fewer than `size` tokens. -/
structure Parsed (size : Nat) where
  predicate : Predicate
  rest : List Token
  rest_lt : rest.length < size

namespace Parsed

/-- What has been read, and the tokens behind it. -/
def out {size : Nat} (r : Parsed size) : Predicate × List Token :=
  (r.predicate, r.rest)

theorem after_lt {size : Nat} {r : Parsed size} {t : Token} {after : List Token}
    (h : r.rest = t :: after) : after.length < size := by
  have hlt := r.rest_lt
  rw [h] at hlt
  exact Nat.lt_of_succ_lt hlt

/-- The tokens behind a token that has to follow next. -/
def behind? {size : Nat} (r : Parsed size) (wanted : Token → Bool) :
    Option { ts : List Token // ts.length < size } :=
  match h : r.rest with
  | [] => none
  | t :: after => if wanted t then some ⟨after, after_lt h⟩ else none

/-- Two predicates read one behind the other as one. -/
def joined {m n : Nat} (f : Predicate → Predicate → Predicate) (left : Parsed n)
    (right : Parsed m) (h : m < n) : Parsed n :=
  ⟨f left.predicate right.predicate, right.rest, Nat.lt_trans right.rest_lt h⟩

end Parsed

/-- A comparison at the front of tokens. -/
def comparison? : (ts : List Token) → Option (Parsed ts.length)
  | column :: operator :: name :: rest =>
    if isColumn column && isOperator operator && name.lexeme == .parameter then
      some ⟨.compare column.text operator.text name.text, rest, by
        simp only [List.length_cons]
        omega⟩
    else none
  | _ => none

mutual

/-- An operand at the front of tokens. -/
def operand? (ts : List Token) : Option (Parsed ts.length) :=
  match ts with
  | [] => none
  | t :: inside =>
    if t.isMark "(" then
      match disjunction? inside with
      | none => none
      | some inner =>
        (inner.behind? (·.isMark ")")).map fun after =>
          ⟨inner.predicate, after.1, Nat.lt_succ_of_lt after.2⟩
    else comparison? (t :: inside)
termination_by (ts.length, 0)

/-- Operands joined by `AND` at the front of tokens. -/
def conjunction? (ts : List Token) : Option (Parsed ts.length) :=
  match operand? ts with
  | none => none
  | some first =>
    match first.behind? (·.isKeyword "AND") with
    | none => some first
    | some ⟨after, h⟩ => (conjunction? after).map fun others => first.joined .both others h
termination_by (ts.length, 1)

/-- Conjunctions joined by `OR` at the front of tokens. -/
def disjunction? (ts : List Token) : Option (Parsed ts.length) :=
  match conjunction? ts with
  | none => none
  | some first =>
    match first.behind? (·.isKeyword "OR") with
    | none => some first
    | some ⟨after, h⟩ => (disjunction? after).map fun others => first.joined .either others h
termination_by (ts.length, 2)

end

/-- The predicate that a text is, if all of the text is one. -/
def ofText? (text : String) : Option Predicate := do
  let ts ← Token.ofText? text
  let r ← disjunction? ts
  if r.rest.isEmpty then return r.predicate else none

/-! ## What the rules read -/

/-- A result with the predicate and the rest that are known. -/
theorem exists_of_out {size : Nat} {x : Option (Parsed size)} {e : Predicate} {rest : List Token}
    (h : x.map Parsed.out = some (e, rest)) :
    ∃ hlt, x = some ⟨e, rest, hlt⟩ := by
  cases x with
  | none => cases h
  | some r =>
    -- The bound on the rest is a proof, so it need not be known beforehand.
    obtain ⟨e', rest', hlt⟩ := r
    cases h
    exact ⟨hlt, rfl⟩

theorem behind?_cons {size : Nat} {e : Predicate} {t : Token} {after : List Token}
    {hlt : (t :: after).length < size} {wanted : Token → Bool} (ht : wanted t = true) :
    (⟨e, t :: after, hlt⟩ : Parsed size).behind? wanted =
      some ⟨after, Nat.lt_of_succ_lt hlt⟩ := by
  simp [Parsed.behind?, ht]

theorem behind?_eq_none {size : Nat} {e : Predicate} {rest : List Token}
    {hlt : rest.length < size} {wanted : Token → Bool} (h : rest.head?.any wanted = false) :
    (⟨e, rest, hlt⟩ : Parsed size).behind? wanted = none := by
  cases rest with
  | nil => rfl
  | cons t after =>
    have ht : wanted t = false := by simpa using h
    simp [Parsed.behind?, ht]

/-- A mark is no keyword. -/
theorem isKeyword_of_isMark {t : Token} {mark : String} (h : t.isMark mark = true)
    (keyword : String) : t.isKeyword keyword = false := by
  simp only [Token.isMark, Bool.and_eq_true, beq_iff_eq] at h
  simp [Token.isKeyword, h.1]

/-- An operand in parentheses -/
theorem operand?_group {inside : List Token} {e : Predicate} {opening closing : Token}
    {rest : List Token} (hopen : opening.isMark "(" = true) (hclose : closing.isMark ")" = true)
    (h : (disjunction? inside).map Parsed.out = some (e, closing :: rest)) :
    (operand? (opening :: inside)).map Parsed.out = some (e, rest) := by
  obtain ⟨hlt, h⟩ := exists_of_out h
  rw [operand?, if_pos hopen, h]
  simp only [behind?_cons hclose]
  rfl

/-- An operand that is a comparison -/
theorem operand?_compare {column operator name : Token} (rest : List Token)
    (hcolumn : isColumn column = true) (hoperator : isOperator operator = true)
    (hname : name.lexeme = .parameter) :
    (operand? (column :: operator :: name :: rest)).map Parsed.out =
      some (.compare column.text operator.text name.text, rest) := by
  -- The word in front keeps the rule for parentheses away.
  have hmark : column.isMark "(" = false := by
    simp only [isColumn, Bool.and_eq_true, beq_iff_eq] at hcolumn
    simp [Token.isMark, hcolumn.1.1]
  rw [operand?, if_neg (by simp [hmark])]
  simp [comparison?, hcolumn, hoperator, hname, Parsed.out]

/-- A conjunction that no `AND` continues -/
theorem conjunction?_last {ts rest : List Token} {e : Predicate}
    (h : (operand? ts).map Parsed.out = some (e, rest))
    (hrest : rest.head?.any (·.isKeyword "AND") = false) :
    (conjunction? ts).map Parsed.out = some (e, rest) := by
  obtain ⟨hlt, h⟩ := exists_of_out h
  rw [conjunction?, h]
  simp only [behind?_eq_none hrest]
  rfl

/-- A conjunction that an `AND` continues -/
theorem conjunction?_more {ts others rest : List Token} {e f : Predicate} {t : Token}
    (h : (operand? ts).map Parsed.out = some (e, t :: others)) (ht : t.isKeyword "AND" = true)
    (hothers : (conjunction? others).map Parsed.out = some (f, rest)) :
    (conjunction? ts).map Parsed.out = some (.both e f, rest) := by
  obtain ⟨hlt, h⟩ := exists_of_out h
  obtain ⟨hlt', hothers⟩ := exists_of_out hothers
  -- The operand comes first, and the word behind it leads on to the others.
  rw [conjunction?, h]
  simp only [behind?_cons ht, hothers]
  rfl

/-- A disjunction that no `OR` continues -/
theorem disjunction?_last {ts rest : List Token} {e : Predicate}
    (h : (conjunction? ts).map Parsed.out = some (e, rest))
    (hrest : rest.head?.any (·.isKeyword "OR") = false) :
    (disjunction? ts).map Parsed.out = some (e, rest) := by
  obtain ⟨hlt, h⟩ := exists_of_out h
  rw [disjunction?, h]
  simp only [behind?_eq_none hrest]
  rfl

/-- A disjunction that an `OR` continues -/
theorem disjunction?_more {ts others rest : List Token} {e f : Predicate} {t : Token}
    (h : (conjunction? ts).map Parsed.out = some (e, t :: others)) (ht : t.isKeyword "OR" = true)
    (hothers : (disjunction? others).map Parsed.out = some (f, rest)) :
    (disjunction? ts).map Parsed.out = some (.either e f, rest) := by
  obtain ⟨hlt, h⟩ := exists_of_out h
  obtain ⟨hlt', hothers⟩ := exists_of_out hothers
  rw [disjunction?, h]
  simp only [behind?_cons ht, hothers]
  rfl

end Predicate

end BoundSql.Engine
