import BoundSql.Proofs.Condition.Tokens
import BoundSql.Proofs.DistinctNames
import BoundSql.Proofs.Engine.Predicate

/-!
# The meaning of conditions

A condition holds or not once it is known which comparisons do. The text of a compiled condition,
read by the usual grammar with the values that are bound, holds exactly when the condition does.

Main statement: `compiled_text_means_the_condition`. It rests on `operand?_tokens`: the grammar
reads the tokens of a condition, whatever stands behind them, as a predicate that means it.
-/

namespace BoundSql

open Engine

/-! ## Truth -/

namespace Condition

mutual

/-- Whether a condition holds, if `truth` says which comparisons do. -/
def holds (truth : String → String → Value → Bool) : Condition → Bool
  | .compare column operator value => truth column operator value
  | .group .and members => (holdsEach truth members).all id
  | .group .or members => (holdsEach truth members).any id

/-- Which conditions hold. -/
def holdsEach (truth : String → String → Value → Bool) : List Condition → List Bool
  | [] => []
  | c :: rest => c.holds truth :: holdsEach truth rest

end

end Condition

/-! ## Reading -/

namespace BoundCondition

/-- A plain column is read as a column, since it is no keyword. -/
theorem isColumn_of_isPlainColumn {column : String} (h : Condition.IsPlainColumn column) :
    Predicate.isColumn ⟨.word, column, " "⟩ = true := by
  simp [Predicate.isColumn, Token.isKeyword, h.2]

/-- The operators that are allowed are read as operators. -/
theorem isOperator_operatorToken {operator : String} (h : operator ∈ Condition.operators) :
    Predicate.isOperator (operatorToken operator) = true ∧
      (operatorToken operator).text = operator := by
  -- There are finitely many operators, and each is looked at.
  revert operator
  decide +kernel

variable {params : Params}

/-- The closing parenthesis of a group. -/
theorem isMark_closing (gap : String) : Token.isMark ")" ⟨.mark, ")", gap⟩ = true := rfl

theorem tokens_group (connective : Connective) (members : List BoundCondition) (gap : String)
    (rest : List Token) :
    (group connective members).tokens gap ++ rest =
      ⟨.mark, "(", ""⟩ :: (tokensEach connective members ++ ⟨.mark, ")", gap⟩ :: rest) := by
  simp [tokens]

theorem tokensEach_cons_cons (connective : Connective) (first second : BoundCondition)
    (more : List BoundCondition) (rest : List Token) :
    tokensEach connective (first :: second :: more) ++ rest =
      first.tokens " " ++ (⟨.word, connective.keyword, " "⟩ ::
        (tokensEach connective (second :: more) ++ rest)) := by
  simp [tokensEach]

mutual

/-- A condition is read as an operand that means it, whatever stands behind. -/
theorem operand?_tokens (c : BoundCondition) (hplain : c.condition.Plain)
    (hbound : params.Finds c.entries) (gap : String) (rest : List Token) :
    ∃ e, (Predicate.operand? (c.tokens gap ++ rest)).map Predicate.Parsed.out = some (e, rest) ∧
      ∀ truth, e.holds truth params = some (c.condition.holds truth) := by
  match c with
  | .compare column operator value name =>
    obtain ⟨hoperator, htext⟩ := isOperator_operatorToken hplain.2
    have hcolumn := isColumn_of_isPlainColumn hplain.1
    have hvalue : params.get? (placeholder name) = some value :=
      hbound (name, value) List.mem_cons_self
    refine ⟨_, Predicate.operand?_compare rest hcolumn hoperator rfl, ?_⟩
    intro truth
    rw [htext]
    simp [Predicate.holds, hvalue, condition, Condition.holds]
  | .group .and members =>
    have hclose := isMark_closing gap
    obtain ⟨e, hread, hmeans⟩ := conjunction?_tokensEach members (members_ne_nil hplain.1)
      hplain.2 hbound hclose rest
    refine ⟨e, ?_, hmeans⟩
    rw [tokens_group]
    -- The parentheses hold one conjunction: no `OR` stands before the closing one.
    have hor := Predicate.isKeyword_of_isMark hclose "OR"
    exact Predicate.operand?_group rfl hclose
      (Predicate.disjunction?_last hread (by simpa using hor))
  | .group .or members =>
    have hclose := isMark_closing gap
    obtain ⟨e, hread, hmeans⟩ := disjunction?_tokensEach members (members_ne_nil hplain.1)
      hplain.2 hbound hclose rest
    refine ⟨e, ?_, hmeans⟩
    rw [tokens_group]
    exact Predicate.operand?_group rfl hclose hread

/-- The members of an AND group are read as a conjunction up to the closing parenthesis. -/
theorem conjunction?_tokensEach (members : List BoundCondition) (hne : members ≠ [])
    (hplain : Condition.PlainEach (conditions members))
    (hbound : params.Finds (entriesEach members)) {closing : Token}
    (hclose : closing.isMark ")" = true) (rest : List Token) :
    ∃ e, (Predicate.conjunction? (tokensEach .and members ++ closing :: rest)).map
        Predicate.Parsed.out = some (e, closing :: rest) ∧
      ∀ truth, e.holds truth params =
        some ((Condition.holdsEach truth (conditions members)).all id) := by
  match members with
  | [] => exact absurd rfl hne
  | [last] =>
    obtain ⟨e, hread, hmeans⟩ := operand?_tokens last hplain.1 hbound.of_append_left ""
      (closing :: rest)
    -- Behind the last member the group is closed, so the conjunction ends.
    have hand := Predicate.isKeyword_of_isMark hclose "AND"
    refine ⟨e, Predicate.conjunction?_last hread (by simpa using hand), ?_⟩
    intro truth
    simp [hmeans truth, conditions, Condition.holdsEach]
  | first :: second :: more =>
    obtain ⟨f, hothers, hmore⟩ := conjunction?_tokensEach (second :: more) (by simp) hplain.2
      hbound.of_append_right hclose rest
    obtain ⟨e, hread, hmeans⟩ := operand?_tokens first hplain.1 hbound.of_append_left " "
      (⟨.word, "AND", " "⟩ :: (tokensEach .and (second :: more) ++ closing :: rest))
    refine ⟨.both e f, ?_, ?_⟩
    · rw [tokensEach_cons_cons]
      exact Predicate.conjunction?_more hread (by decide +kernel) hothers
    · intro truth
      rw [Predicate.holds, hmeans truth, hmore truth]
      simp [conditions, Condition.holdsEach]

/-- The members of an OR group are read as a disjunction up to the closing parenthesis. -/
theorem disjunction?_tokensEach (members : List BoundCondition) (hne : members ≠ [])
    (hplain : Condition.PlainEach (conditions members))
    (hbound : params.Finds (entriesEach members)) {closing : Token}
    (hclose : closing.isMark ")" = true) (rest : List Token) :
    ∃ e, (Predicate.disjunction? (tokensEach .or members ++ closing :: rest)).map
        Predicate.Parsed.out = some (e, closing :: rest) ∧
      ∀ truth, e.holds truth params =
        some ((Condition.holdsEach truth (conditions members)).any id) := by
  match members with
  | [] => exact absurd rfl hne
  | [last] =>
    obtain ⟨e, hread, hmeans⟩ := operand?_tokens last hplain.1 hbound.of_append_left ""
      (closing :: rest)
    have hand := Predicate.isKeyword_of_isMark hclose "AND"
    -- Neither the conjunction nor the disjunction goes on behind the last member.
    have hor := Predicate.isKeyword_of_isMark hclose "OR"
    refine ⟨e, Predicate.disjunction?_last
      (Predicate.conjunction?_last hread (by simpa using hand)) (by simpa using hor), ?_⟩
    intro truth
    simp [hmeans truth, conditions, Condition.holdsEach]
  | first :: second :: more =>
    obtain ⟨f, hothers, hmore⟩ := disjunction?_tokensEach (second :: more) (by simp) hplain.2
      hbound.of_append_right hclose rest
    obtain ⟨e, hread, hmeans⟩ := operand?_tokens first hplain.1 hbound.of_append_left " "
      (⟨.word, "OR", " "⟩ :: (tokensEach .or (second :: more) ++ closing :: rest))
    -- The first member is a conjunction by itself, since an `OR` does not continue one.
    have hand : Token.isKeyword "AND" ⟨.word, "OR", " "⟩ = false := by decide +kernel
    have hfirst := Predicate.conjunction?_last hread (by simpa using hand)
    refine ⟨.either e f, ?_, ?_⟩
    · rw [tokensEach_cons_cons]
      exact Predicate.disjunction?_more hfirst (by decide +kernel) hothers
    · intro truth
      rw [Predicate.holds, hmeans truth, hmore truth]
      simp [conditions, Condition.holdsEach]

end

/-- The text of a condition is a predicate that means it. -/
theorem ofText?_means (c : BoundCondition) (hplain : c.condition.Plain) (hnamed : c.NamedByColumn)
    (hbound : params.Finds c.entries) :
    ∃ e, Predicate.ofText? c.text = some e ∧
      ∀ truth, e.holds truth params = some (c.condition.holds truth) := by
  -- Nothing stands behind the condition, so the operand is all that is read.
  obtain ⟨e, hread, hmeans⟩ := operand?_tokens c hplain hbound "" []
  have hall := Predicate.disjunction?_last (Predicate.conjunction?_last hread rfl) rfl
  rw [List.append_nil] at hall
  obtain ⟨hlt, hall⟩ := Predicate.exists_of_out hall
  refine ⟨e, ?_, hmeans⟩
  simp [Predicate.ofText?, ofText?_text c hplain hnamed, hall]

end BoundCondition

namespace Condition

/-- A plain condition compiles, whatever is bound already. Its text is a predicate which, with the
values that are bound then, holds exactly when the condition does. -/
theorem compiled_text_means_the_condition (c : Condition) (hplain : c.Plain) (p : Params) :
    ∃ text e, (c.compile p).1 = .ok text ∧ Predicate.ofText? text = some e ∧
      ∀ truth, e.holds truth (c.compile p).2 = some (c.holds truth) := by
  have hok := (compile_isOk_iff c p).2 hplain.complete
  cases htext : (c.compile p).1 with
  | error e => simp [htext, Except.isOk, Except.toBool] at hok
  | ok text =>
    obtain ⟨bound, rfl, rfl, hentries, hnamed⟩ := compile_eq_ok htext
    have hfinds := (bound.condition.compile p).2.finds_entries
    rw [hentries] at hfinds
    obtain ⟨e, hread, hmeans⟩ := bound.ofText?_means hplain hnamed hfinds.of_append_right
    exact ⟨_, e, rfl, hread, hmeans⟩

/-- A nested condition that compares one column twice. -/
def nested : Condition :=
  .all [.eq "id" (.int 1), .any [.ne "id" (.int 2), .like "name" (.text "a%")]]

theorem nested_text_means_nested :
    nested.Plain ∧ ∃ e,
      (nested.compile (Params.empty.bind "id" (.int 0))).1 =
        .ok "(id = :id0 AND (id != :id1 OR name LIKE :name))" ∧
      Predicate.ofText? "(id = :id0 AND (id != :id1 OR name LIKE :name))" = some e ∧
      ∀ truth, e.holds truth (nested.compile (Params.empty.bind "id" (.int 0))).2 =
        some (nested.holds truth) := by
  have hid : IsPlainColumn "id" := by
    refine ⟨rfl, ?_, ?_⟩ <;> decide +kernel
  have hname : IsPlainColumn "name" := by
    refine ⟨rfl, ?_, ?_⟩ <;> decide +kernel
  have hplain : nested.Plain :=
    ⟨by simp, ⟨hid, by decide⟩,
      ⟨by simp, ⟨hid, by decide⟩, ⟨hname, by decide⟩, trivial⟩, trivial⟩
  have htext : (nested.compile (Params.empty.bind "id" (.int 0))).1 =
      .ok "(id = :id0 AND (id != :id1 OR name LIKE :name))" := by decide +kernel
  obtain ⟨text, e, hcompile, hread, hmeans⟩ :=
    compiled_text_means_the_condition nested hplain (Params.empty.bind "id" (.int 0))
  rw [htext] at hcompile
  cases hcompile
  exact ⟨hplain, e, htext, hread, hmeans⟩

end Condition

end BoundSql
