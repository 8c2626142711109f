import BoundSql.Condition

/-!
# Bound conditions

A compiled condition is a condition in which every comparison knows the name that its value is
bound to. Its text and its bindings can be read off it side by side, so that a comparison and the
binding of its value cannot be mixed up.

Main statement: `compileFrom_spec`. Compiling a complete condition gives the text of a bound
condition and appends exactly its bindings; compiling any other fails.
-/

namespace BoundSql

/-! ## Well-formed conditions -/

namespace Condition

mutual

/-- Every comparison has a column and an operator as `p` demands, and no group is empty. -/
def Every (p : String → String → Prop) : Condition → Prop
  | .compare column operator _ => p column operator
  | .group _ members => members ≠ [] ∧ EveryEach p members

/-- The same for every condition of a list. -/
def EveryEach (p : String → String → Prop) : List Condition → Prop
  | [] => True
  | c :: rest => c.Every p ∧ EveryEach p rest

end

mutual

theorem Every.imp {p q : String → String → Prop} (h : ∀ column operator, p column operator →
    q column operator) {c : Condition} (hc : c.Every p) : c.Every q := by
  match c with
  | .compare column operator _ => exact h column operator hc
  | .group _ members => exact ⟨hc.1, EveryEach.imp h hc.2⟩

theorem EveryEach.imp {p q : String → String → Prop} (h : ∀ column operator, p column operator →
    q column operator) {cs : List Condition} (hcs : EveryEach p cs) : EveryEach q cs := by
  match cs with
  | [] => trivial
  | c :: rest => exact ⟨Every.imp h hcs.1, EveryEach.imp h hcs.2⟩

end

/-- Every comparison has a column and an operator, and no group is empty. -/
def Complete (c : Condition) : Prop :=
  c.Every fun column operator => Text.isBlank column = false ∧ Text.isBlank operator = false

/-- Every condition of a list is complete. -/
def CompleteEach (cs : List Condition) : Prop :=
  EveryEach (fun column operator => Text.isBlank column = false ∧ Text.isBlank operator = false) cs

end Condition

/-! ## Bound conditions -/

/-- A condition whose comparisons know the names that their values are bound to. -/
inductive BoundCondition where
  | compare (column operator : String) (value : Value) (name : String)
  | group (connective : Connective) (members : List BoundCondition)

namespace BoundCondition

mutual

/-- The condition without the names. -/
def condition : BoundCondition → Condition
  | .compare column operator value _ => .compare column operator value
  | .group connective members => .group connective (conditions members)

/-- The conditions without the names. -/
def conditions : List BoundCondition → List Condition
  | [] => []
  | c :: rest => c.condition :: conditions rest

end

mutual

/-- `column operator :name`, and a group in parentheses with its connective between the members. -/
def text : BoundCondition → String
  | .compare column operator _ name => column ++ " " ++ operator ++ " " ++ placeholder name
  | .group connective members =>
    "(" ++ Text.join (" " ++ connective.keyword ++ " ") (texts members) ++ ")"

/-- The texts of conditions. -/
def texts : List BoundCondition → List String
  | [] => []
  | c :: rest => c.text :: texts rest

end

mutual

/-- The names with their values, depth first and from left to right. -/
def entries : BoundCondition → Pairs Value
  | .compare _ _ value name => [(name, value)]
  | .group _ members => entriesEach members

/-- The names and values of conditions one after another. -/
def entriesEach : List BoundCondition → Pairs Value
  | [] => []
  | c :: rest => c.entries ++ entriesEach rest

end

mutual

/-- Every name is the column of its comparison, with or without a number after it. -/
def NamedByColumn : BoundCondition → Prop
  | .compare column _ _ name => name = column ∨ ∃ n, name = Params.suffixed column n
  | .group _ members => NamedByColumnEach members

/-- Every name in every condition is the column of its comparison or a suffixed one. -/
def NamedByColumnEach : List BoundCondition → Prop
  | [] => True
  | c :: rest => c.NamedByColumn ∧ NamedByColumnEach rest

end

end BoundCondition

/-! ## Compilation -/

namespace Condition

/-- A comparison is bound under its column or a suffixed one, and the binding goes last. -/
theorem compileCompare_spec (column operator : String) (value : Value) (b : Bindings)
    (hcolumn : Text.isBlank column = false) (hoperator : Text.isBlank operator = false) :
    ∃ name, (compileCompare column operator value b).result =
        .ok (column ++ " " ++ operator ++ " " ++ placeholder name) ∧
      (compileCompare column operator value b).bindings.params.entries =
        b.params.entries ++ [(name, value)] ∧
      (name = column ∨ ∃ n, name = Params.suffixed column n) := by
  refine ⟨(b.params.bindFresh column value b.counter).name, ?_, ?_, ?_⟩
  · simp [compileCompare, hcolumn, hoperator]
  · simp [compileCompare, hcolumn, hoperator, Params.bindFresh]
  · rcases Params.freshName_fst (Pairs.names b.params.entries) column column b.counter with
      h | ⟨n, -, h⟩
    · exact .inl h
    · exact .inr ⟨n, h⟩

mutual

/-- A complete condition is written as a bound condition and binds what that binds; any other
condition is refused. -/
theorem compileFrom_spec (c : Condition) (b : Bindings) :
    (c.Complete ∧ ∃ bound : BoundCondition, bound.condition = c ∧
      (c.compileFrom b).result = .ok bound.text ∧
      (c.compileFrom b).bindings.params.entries = b.params.entries ++ bound.entries ∧
      bound.NamedByColumn) ∨
    (¬ c.Complete ∧ ∃ defect, (c.compileFrom b).result = .error defect) := by
  match c with
  | .compare column operator value =>
    cases hcolumn : Text.isBlank column with
    | true =>
      exact .inr ⟨by simp [Complete, Every, hcolumn], .blankColumn, by
        simp [compileFrom, compileCompare, hcolumn]⟩
    | false =>
      cases hoperator : Text.isBlank operator with
      | true =>
        exact .inr ⟨by simp [Complete, Every, hoperator], .blankOperator column, by
          simp [compileFrom, compileCompare, hcolumn, hoperator]⟩
      | false =>
        obtain ⟨name, htext, hentries, hname⟩ :=
          compileCompare_spec column operator value b hcolumn hoperator
        exact .inl ⟨⟨hcolumn, hoperator⟩, .compare column operator value name, rfl, htext,
          hentries, hname⟩
  | .group connective [] =>
    exact .inr ⟨by simp [Complete, Every], .emptyGroup connective, by simp [compileFrom]⟩
  | .group connective (first :: rest) =>
    -- A group has a text if its members have, and puts the names of all of them together.
    rcases compileEach_spec (first :: rest) b with
      ⟨hcomplete, bounds, hconditions, htexts, hentries, hnamed⟩ | ⟨hdefect, defect, herror⟩
    · refine .inl ⟨⟨by simp, hcomplete⟩, .group connective bounds, ?_, ?_, ?_, hnamed⟩
      · rw [BoundCondition.condition, hconditions]
      · simp [compileFrom, htexts, Except.map, groupText, BoundCondition.text]
      · simpa [compileFrom, BoundCondition.entries] using hentries
    · refine .inr ⟨fun h => hdefect h.2, defect, ?_⟩
      simp [compileFrom, herror, Except.map]

/-- The same for conditions one after another. -/
theorem compileEach_spec (cs : List Condition) (b : Bindings) :
    (CompleteEach cs ∧ ∃ bounds : List BoundCondition, BoundCondition.conditions bounds = cs ∧
      (compileEach cs b).result = .ok (BoundCondition.texts bounds) ∧
      (compileEach cs b).bindings.params.entries =
        b.params.entries ++ BoundCondition.entriesEach bounds ∧
      BoundCondition.NamedByColumnEach bounds) ∨
    (¬ CompleteEach cs ∧ ∃ defect, (compileEach cs b).result = .error defect) := by
  match cs with
  | [] =>
    exact .inl ⟨trivial, [], rfl, by simp [compileEach, BoundCondition.texts], by
      simp [compileEach, BoundCondition.entriesEach], trivial⟩
  | first :: rest =>
    rcases compileFrom_spec first b with
      ⟨hfirst, bound, hcondition, htext, hentries, hnamed⟩ | ⟨hdefect, defect, herror⟩
    · -- The others are compiled with the bindings that the first one left.
      rcases compileEach_spec rest (first.compileFrom b).bindings with
        ⟨hrest, bounds, hconditions, htexts, hentries', hnamed'⟩ | ⟨hdefect, defect, herror⟩
      · refine .inl ⟨⟨hfirst, hrest⟩, bound :: bounds, ?_, ?_, ?_, hnamed, hnamed'⟩
        · rw [BoundCondition.conditions, hcondition, hconditions]
        · simp [compileEach, htext, htexts, Except.map, BoundCondition.texts]
        · simp [compileEach, htext, hentries', hentries, BoundCondition.entriesEach]
      · refine .inr ⟨fun h => hdefect h.2, defect, ?_⟩
        simp [compileEach, htext, herror, Except.map]
    · refine .inr ⟨fun h => hdefect h.1, defect, ?_⟩
      simp [compileEach, herror]

end

/-- What is wrong with a condition comes out as an error of the statement. -/
theorem compile_fst (c : Condition) (p : Params) :
    (c.compile p).1 = match (c.compileFrom ⟨p, 0⟩).result with
      | .ok text => .ok text
      | .error defect => .error defect.error := by
  show (c.compileFrom ⟨p, 0⟩).result.mapError ConditionDefect.error = _
  cases (c.compileFrom ⟨p, 0⟩).result <;> rfl

/-- Compiling succeeds exactly on the complete conditions, whatever is bound already. -/
theorem compile_isOk_iff (c : Condition) (p : Params) :
    (c.compile p).1.isOk = true ↔ c.Complete := by
  rcases compileFrom_spec c ⟨p, 0⟩ with ⟨hcomplete, bound, -, htext, -⟩ | ⟨hdefect, defect, herror⟩
  · rw [compile_fst, htext]
    simp [Except.isOk, Except.toBool, hcomplete]
  · rw [compile_fst, herror]
    simp [Except.isOk, Except.toBool, hdefect]

/-- What compiling gives when it succeeds: the text of the condition with names, whose entries
follow the bindings that were there. -/
theorem compile_eq_ok {c : Condition} {p : Params} {text : String}
    (h : (c.compile p).1 = .ok text) :
    ∃ bound : BoundCondition, bound.condition = c ∧ text = bound.text ∧
      (c.compile p).2.entries = p.entries ++ bound.entries ∧ bound.NamedByColumn := by
  rcases compileFrom_spec c ⟨p, 0⟩ with
    ⟨-, bound, hcondition, htext, hentries, hnamed⟩ | ⟨-, defect, herror⟩
  · rw [compile_fst, htext] at h
    cases h
    exact ⟨bound, hcondition, rfl, hentries, hnamed⟩
  · rw [compile_fst, herror] at h
    cases h

end Condition

end BoundSql
