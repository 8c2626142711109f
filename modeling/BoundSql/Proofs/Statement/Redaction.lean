import Mathlib.Data.List.Basic
import BoundSql.Proofs.Statement.Runs

/-!
# Redacted runs

A redacted call is a call without its values: one and the same value stands for each of them. Of
the values of a row it is kept which are null, since those are not bound. Redacting commutes with
every call, so that a redacted run shows all that a run shows except values.

Main statement: `values_stay_in_the_bindings`. Two runs under the same rules whose calls differ in
values only have the same outcomes, the same texts and the same names bound.
-/

namespace BoundSql

/-! ## Values -/

/-- What stands for a value. -/
def Value.hidden : Value := .bool true

/-- The value without anything but whether it is null. -/
def Value.nullOrHidden (v : Value) : Value :=
  if v.isNull then .null else hidden

/-- Hiding a value keeps whether it is null. -/
@[simp]
theorem Value.isNull_nullOrHidden (v : Value) : v.nullOrHidden.isNull = v.isNull := by
  cases v <;> rfl

@[simp]
theorem Value.nullOrHidden_nullOrHidden (v : Value) :
    v.nullOrHidden.nullOrHidden = v.nullOrHidden := by
  cases v <;> rfl

/-- The same for a member of an object: what is no scalar stays none. -/
def Json.nullOrHidden : Json → Json
  | .null => .null
  | .array _ => .array []
  | .object _ => .object []
  | .bool _ | .integer _ | .real _ | .string _ => .bool true

/-- A member of an object is read as a scalar before and after it is hidden, or neither time. -/
theorem Value.ofJson?_nullOrHidden (j : Json) :
    ofJson? j.nullOrHidden = (ofJson? j).map nullOrHidden := by
  cases j with
  | integer n =>
    simp only [Json.nullOrHidden, ofJson?]
    -- an integer outside the range of a binding is read as a real number
    cases int64? n <;> rfl
  | _ => rfl

/-! ## Pairs -/

namespace Pairs

variable {α β : Type}

/-- The pairs with other values under the same names. -/
def mapValues (f : α → β) (ps : Pairs α) : Pairs β :=
  ps.map fun (name, value) => (name, f value)

/-- Other values stand under the same names. -/
@[simp]
theorem names_mapValues (f : α → β) (ps : Pairs α) : names (mapValues f ps) = names ps := by
  simp [names, mapValues]

/-- A pair is put in the same place whatever the values are: the place goes by the name. -/
theorem mapValues_put (f : α → β) (name : String) (value : α) (ps : Pairs α) :
    mapValues f (put name value ps) = put name (f value) (mapValues f ps) := by
  induction ps with
  | nil => rfl
  | cons p ps ih =>
    simp only [mapValues, List.map_cons, put] at ih ⊢
    -- the first pair is replaced, or stays and the rest decides
    by_cases h : p.1 = name
    · simp [h]
    · simp [h, ih]

/-- Under other values a name is found where it was found, with its other value. -/
theorem find?_mapValues (f : α → β) (name : String) (ps : Pairs α) :
    find? name (mapValues f ps) = (find? name ps).map f := by
  induction ps with
  | nil => rfl
  | cons p ps ih =>
    show find? name ((p.1, f p.2) :: mapValues f ps) = _
    by_cases h : p.1 = name
    · simp [find?, h]
    · rw [find?, if_neg h, find?, if_neg h, ih]

/-- The pairs with their values hidden. -/
def redacted (ps : Pairs Value) : Pairs Value :=
  mapValues (fun _ => Value.hidden) ps

@[simp]
theorem names_redacted (ps : Pairs Value) : names ps.redacted = names ps :=
  names_mapValues _ ps

end Pairs

/-- The marks of the names do not hang on the values. -/
theorem marked_redacted (ps : Pairs Value) : marked ps.redacted = Pairs.redacted (marked ps) := by
  simp [marked, Pairs.redacted, Pairs.mapValues]

/-! ## Bindings -/

namespace Params

/-- The bindings with their values hidden. -/
def redacted (p : Params) : Params where
  entries := p.entries.redacted
  distinct := by
    rw [Pairs.names_redacted]
    exact p.distinct

@[simp]
theorem placeholders_redacted (p : Params) : p.redacted.placeholders = p.placeholders := by
  simp [placeholders, redacted, Pairs.redacted, Pairs.mapValues]

@[simp]
theorem size_redacted (p : Params) : p.redacted.size = p.size := by
  simp [size, redacted, Pairs.redacted, Pairs.mapValues]

@[simp]
theorem isEmpty_redacted (p : Params) : p.redacted.isEmpty = p.isEmpty := by
  simp [isEmpty, redacted, Pairs.redacted, Pairs.mapValues]

@[simp]
theorem redacted_redacted (p : Params) : p.redacted.redacted = p.redacted := by
  apply Params.ext
  simp [redacted, Pairs.redacted, Pairs.mapValues]

/-- Binding a value and hiding it is binding a hidden value. -/
theorem redacted_bind (p : Params) (name : String) (value : Value) :
    (p.bind name value).redacted = p.redacted.bind name .hidden :=
  Params.ext (Pairs.mapValues_put (fun _ => Value.hidden) (bareName name) value p.entries)

/-- Which names are bound, and in which order, does not hang on the values. -/
theorem redacted_bindAll (p : Params) (pairs : Pairs Value) :
    (p.bindAll pairs).redacted = p.redacted.bindAll pairs.redacted := by
  induction pairs generalizing p with
  | nil => rfl
  | cons pair rest ih =>
    show ((p.bind pair.1 pair.2).bindAll rest).redacted = _
    rw [ih, redacted_bind]
    rfl

theorem redacted_ofList (pairs : Pairs Value) :
    (ofList pairs).redacted = ofList pairs.redacted :=
  redacted_bindAll empty pairs

/-- Two merged lists of bindings can be hidden before or after they are merged. -/
theorem redacted_merge (p q : Params) : (p.merge q).redacted = p.redacted.merge q.redacted := by
  rw [merge, redacted_bindAll, merge, toList, toList, ← marked_redacted]
  rfl

/-- A fresh name is looked for among the names alone. -/
theorem bindFresh_redacted (p : Params) (column : String) (value : Value) (counter : Nat) :
    p.redacted.bindFresh column .hidden counter =
      { p.bindFresh column value counter with
        params := (p.bindFresh column value counter).params.redacted } := by
  have hnames : Pairs.names p.redacted.entries = Pairs.names p.entries :=
    Pairs.names_redacted p.entries
  simp only [bindFresh, hnames, Fresh.mk.injEq, true_and]
  -- the name is settled by `hnames`; what is left is the pair that is appended
  apply Params.ext
  simp [redacted, Pairs.redacted, Pairs.mapValues]

end Params

/-! ## Conditions -/

namespace Condition

mutual

/-- The condition with its values hidden. -/
def redacted : Condition → Condition
  | .compare column operator _ => .compare column operator .hidden
  | .group connective members => .group connective (redactedEach members)

/-- Conditions with their values hidden. -/
def redactedEach : List Condition → List Condition
  | [] => []
  | c :: rest => c.redacted :: redactedEach rest

end

theorem redactedEach_eq_map (cs : List Condition) : redactedEach cs = cs.map redacted := by
  induction cs with
  | nil => rw [redactedEach]; rfl
  | cons c rest ih => rw [redactedEach, ih]; rfl

/-- The bindings of a compilation with their values hidden. -/
def Bindings.redacted (b : Bindings) : Bindings :=
  { b with params := b.params.redacted }

/-- What is compiled, with the values of the bindings hidden. -/
def Compiled.redacted {α : Type} (c : Compiled α) : Compiled α :=
  { c with bindings := c.bindings.redacted }

/-- A comparison has the same text and the same fresh name whatever value it compares with. -/
theorem compileCompare_redacted (column operator : String) (value : Value) (b : Bindings) :
    compileCompare column operator .hidden b.redacted =
      (compileCompare column operator value b).redacted := by
  unfold compileCompare
  -- a blank column or operator is refused before the value is looked at
  by_cases hcolumn : Text.isBlank column = true
  · rw [if_pos hcolumn, if_pos hcolumn]
    rfl
  · rw [if_neg hcolumn, if_neg hcolumn]
    by_cases hoperator : Text.isBlank operator = true
    · rw [if_pos hoperator, if_pos hoperator]
      rfl
    · rw [if_neg hoperator, if_neg hoperator]
      have hfresh : b.redacted.params.bindFresh column .hidden b.redacted.counter = _ :=
        b.params.bindFresh_redacted column value b.counter
      rw [hfresh]
      rfl

mutual

/-- The text of a condition, or its defect, does not hang on the values. -/
theorem compileFrom_redacted (c : Condition) (b : Bindings) :
    c.redacted.compileFrom b.redacted = (c.compileFrom b).redacted := by
  match c with
  | .compare column operator value =>
    rw [redacted, compileFrom, compileFrom]
    exact compileCompare_redacted column operator value b
  | .group connective [] =>
    simp only [redacted, redactedEach, compileFrom, List.isEmpty_nil, if_true]
    rfl
  -- the members of a group thread their bindings from the left
  | .group connective (first :: rest) =>
    have hmembers := compileEach_redacted (first :: rest) b
    rw [redacted, compileFrom, hmembers]
    simp only [redactedEach, compileFrom, List.isEmpty_cons, Bool.false_eq_true, if_false]
    rfl

/-- The same for conditions one after another. -/
theorem compileEach_redacted (cs : List Condition) (b : Bindings) :
    compileEach (redactedEach cs) b.redacted = (compileEach cs b).redacted := by
  match cs with
  | [] =>
    rw [redactedEach, compileEach, compileEach]
    rfl
  | first :: rest =>
    have hfirst := compileFrom_redacted first b
    have hrest := compileEach_redacted rest (first.compileFrom b).bindings
    rw [redactedEach, compileEach, compileEach, hfirst]
    -- a defect in the first member stops the rest
    cases h : (first.compileFrom b).result with
    | error defect => simp [Compiled.redacted, h]
    | ok text => simp [Compiled.redacted, h, hrest]

end

/-- A whole condition: its text or its defect stays, its bindings are hidden. -/
theorem compile_redacted (c : Condition) (p : Params) :
    c.redacted.compile p.redacted = ((c.compile p).1, (c.compile p).2.redacted) := by
  have h : c.redacted.compileFrom ⟨p.redacted, 0⟩ = (c.compileFrom ⟨p, 0⟩).redacted :=
    compileFrom_redacted c ⟨p, 0⟩
  rw [compile, h]
  rfl

end Condition

/-! ## Rows -/

namespace RowData

/-- The row with nothing left of its values but which are null. -/
def redacted : RowData → RowData
  | mapping pairs => mapping (pairs.mapValues Value.nullOrHidden)
  | entity e => entity { e with columns := e.columns.mapValues Value.nullOrHidden }
  | json (.object members) => json (.object (Pairs.mapValues Json.nullOrHidden members))
  | json other => json other

/-- The members of an object are all scalars, or the first that is none is the same one. -/
theorem scalarMembers_redacted (c : Clause) (members : List (String × Json)) :
    scalarMembers c (Pairs.mapValues Json.nullOrHidden members) =
      (scalarMembers c members).map (Pairs.mapValues Value.nullOrHidden) := by
  induction members with
  | nil => rfl
  | cons member rest ih =>
    obtain ⟨column, j⟩ := member
    show scalarMembers c ((column, j.nullOrHidden) :: Pairs.mapValues Json.nullOrHidden rest) = _
    rw [scalarMembers, scalarMembers, Value.ofJson?_nullOrHidden, ih]
    cases Value.ofJson? j with
    | none => rfl
    | some value => cases scalarMembers c rest <;> rfl

/-- The pairs that a row gives, or its refusal, do not hang on the values but for nulls. -/
theorem pairs_redacted (data : RowData) (c : Clause) :
    data.redacted.pairs c = (data.pairs c).map (Pairs.mapValues Value.nullOrHidden) := by
  cases data with
  | mapping pairs => rfl
  | entity e => rfl
  | json j =>
    cases j with
    | object members => exact scalarMembers_redacted c members
    | _ => rfl

/-- Which columns are kept hangs on which values are null, and on nothing else of them. -/
theorem collect_redacted (c : Clause) (pairs acc : Pairs Value) :
    collect c (pairs.mapValues Value.nullOrHidden) acc.redacted =
      (collect c pairs acc).map Pairs.redacted := by
  induction pairs generalizing acc with
  | nil => rfl
  | cons pair rest ih =>
    obtain ⟨column, value⟩ := pair
    show collect c ((column, value.nullOrHidden) :: Pairs.mapValues Value.nullOrHidden rest) _ = _
    rw [collect, collect, Value.isNull_nullOrHidden]
    by_cases blank : Text.isBlank column = true
    · rw [if_pos blank, if_pos blank]
      rfl
    · rw [if_neg blank, if_neg blank]
      -- a null takes no part in the row, so that the pairs collected stay as they are
      by_cases hnull : value.isNull = true
      · rw [if_pos hnull, if_pos hnull]
        exact ih acc
      · have hvalue : value.nullOrHidden = .hidden := if_neg hnull
        -- any other value is hidden, and put under its column
        have hput : Pairs.put column .hidden acc.redacted = (Pairs.put column value acc).redacted :=
          (Pairs.mapValues_put (fun _ => Value.hidden) column value acc).symm
        rw [if_neg hnull, if_neg hnull, hvalue, hput]
        exact ih _

/-- A row is refused or bound alike whatever its values are. -/
theorem bindable_redacted (data : RowData) (c : Clause) :
    data.redacted.bindable c = (data.bindable c).map Pairs.redacted := by
  rw [bindable, bindable, pairs_redacted]
  cases data.pairs c with
  | error e => rfl
  | ok pairs =>
    have hcollect : collect c (pairs.mapValues Value.nullOrHidden) [] =
        (collect c pairs []).map Pairs.redacted := collect_redacted c pairs []
    simp only [Except.map, hcollect]
    cases collect c pairs [] with
    | error e => rfl
    -- nothing kept is a row without columns, which is refused in both
    | ok kept => cases kept <;> rfl

end RowData

/-! ## Calls -/

/-- The filter with its values hidden. -/
def Filter.redacted : Filter → Filter
  | raw conditions values => raw conditions values.redacted
  | tree condition => tree condition.redacted

namespace Builder

/-- The builder with the values of its bindings hidden. -/
def redacted (b : Builder) : Builder :=
  { b with params := b.params.redacted }

/-- The call with its values hidden. Of a row it is kept which values are null. -/
def Call.redacted : Call → Call
  | values data => values data.redacted
  | set data => set data.redacted
  | filter f => filter f.redacted
  | setQuery sql bound => setQuery sql bound.redacted
  | call => call

/-- The answer with the values of its bindings hidden. -/
def Answer.redacted : Answer → Answer
  | bound params => bound params.redacted
  | built query => built { query with values := query.values.map Params.redacted }
  | answer => answer

/-- The response with the values of its bindings hidden. -/
def Response.redacted (r : Response) : Response :=
  { r with answer := r.answer.redacted }

/-- What a clause writes, with the values of the bindings hidden. -/
def Writing.redacted (w : Writing) : Writing :=
  { w with params := w.params.redacted }

/-- What an edit leaves, with the values of the bindings hidden. -/
def redactedResult (result : EStateM.Result QueryError Builder Response) :
    EStateM.Result QueryError Builder Response :=
  match result with
  | .ok r b => .ok r.redacted b.redacted
  | .error e b => .error e b.redacted

/-- The clause that a call writes does not hang on its values. -/
theorem clause?_redacted (call : Call) : call.redacted.clause? = call.clause? := by
  cases call <;> rfl

/-- The text of a clause does not hang on the values that it binds, and neither do the names. -/
theorem write_redacted (call : Call) (k : Option Kind) (p : Params) :
    call.redacted.write k p.redacted = (call.write k p).map Writing.redacted := by
  cases call with
  | values data =>
    simp only [Call.redacted, Call.write, RowData.bindable_redacted]
    cases data.bindable .insertValues with
    | error e => rfl
    | ok row =>
      simp [Except.map, Writing.redacted, Params.redacted_ofList, marked_redacted]
  | set data =>
    simp only [Call.redacted, Call.write, RowData.bindable_redacted]
    cases data.bindable .updateSet with
    | error e => rfl
    | ok row =>
      simp [Except.map, Writing.redacted, Params.redacted_bindAll, marked_redacted]
  | filter f =>
    cases f with
    | raw conditions bound =>
      simp only [Call.redacted, Filter.redacted, Call.write]
      by_cases blank : Text.isBlank conditions = true
      · rw [if_pos blank, if_pos blank]
        rfl
      · rw [if_neg blank, if_neg blank]
        -- an UPDATE adds these bindings to those it has, any other statement takes them instead
        by_cases hk : k = some .update
        · simp [hk, Except.map, Writing.redacted, Params.redacted_merge]
        · simp [hk, Except.map, Writing.redacted]
    | tree condition =>
      simp only [Call.redacted, Filter.redacted, Call.write, Condition.compile_redacted]
      cases (condition.compile p).1 <;> rfl
  | insertInto t =>
    simp only [Call.redacted, Call.write]
    cases t.resolve .insertInto <;> rfl
  | select columns =>
    simp only [Call.redacted, Call.write]
    cases columns.render .select <;> rfl
  | fromTables ts =>
    simp only [Call.redacted, Call.write]
    cases resolveTargets ts .fromTables <;> rfl
  | update t =>
    simp only [Call.redacted, Call.write]
    cases t.resolve .update <;> rfl
  | _ => rfl

/-- Rules, kind, clauses and texts are all that decides about a clause. -/
theorem refusal?_redacted (b : Builder) (c : Clause) : b.redacted.refusal? c = b.refusal? c := rfl

/-- The text of a statement is made of its parts and the table of rules: no value is in it. -/
theorem render_redacted (b : Builder) : b.redacted.render = b.render := rfl

theorem renderEvent_redacted (b : Builder) (sql : String) :
    b.redacted.renderEvent sql = b.renderEvent sql := by
  simp [renderEvent, redacted]

theorem answer?_redacted (call : Call) : call.redacted.answer? = call.answer? := by
  cases call <;> rfl

/-- A rendering with the values of its bindings hidden. -/
def Rendered.redacted (r : Rendered) : Rendered :=
  { r with params := r.params.redacted }

theorem built_redacted (r : Rendered) :
    r.redacted.built = { r.built with values := r.built.values.map Params.redacted } := by
  show BuiltQuery.mk r.sql (if r.params.redacted.isEmpty then none else some r.params.redacted) = _
  rw [Params.isEmpty_redacted]
  show _ = BuiltQuery.mk r.sql
    ((if r.params.isEmpty then none else some r.params).map Params.redacted)
  cases r.params.isEmpty <;> rfl

/-- How a call answers does not hang on the values. -/
theorem answer_redacted {call : Call} {answer : Rendered → Answer}
    (h : call.answer? = some answer) (r : Rendered) :
    answer r.redacted = (answer r).redacted := by
  cases call <;> simp only [Call.answer?, reduceCtorEq, Option.some.injEq] at h <;> subst h
  · rfl
  · rfl
  · simp only [built_redacted, Answer.redacted]

theorem finish_redacted (b : Builder) :
    finish b.redacted = match finish b with
      | .ok r b' => .ok r.redacted b'.redacted
      | .error e b' => .error e b'.redacted := by
  have hkept : b.redacted.rendered = b.rendered := rfl
  rw [finish_apply, finish_apply, render_redacted, hkept]
  cases b.rendered with
  | some sql => rfl
  | none =>
    cases b.render with
    | error e => rfl
    | ok sql =>
      simp only [renderEvent_redacted]
      rfl

/-- Every call treats a redacted builder as it treats the builder. -/
theorem apply_redacted (call : Call) (b : Builder) :
    apply call.redacted b.redacted = redactedResult (apply call b) := by
  cases hc : call.clause? with
  | some c =>
    have hc' : call.redacted.clause? = some c := (clause?_redacted call).trans hc
    have hwrite : call.redacted.write b.redacted.kind b.redacted.params =
        (call.write b.kind b.params).map Writing.redacted := write_redacted call b.kind b.params
    rw [apply_of_clause hc, apply_of_clause hc', refusal?_redacted, hwrite]
    cases b.refusal? c with
    | some r => rfl
    | none => cases call.write b.kind b.params <;> rfl
  | none =>
    cases ha : call.answer? with
    | some answer =>
      have ha' : call.redacted.answer? = some answer := (answer?_redacted call).trans ha
      rw [apply_of_answer ha, apply_of_answer ha', rendered_apply, rendered_apply, finish_redacted]
      cases finish b with
      | error e b' => rfl
      | ok r b' =>
        simp only [answer_redacted ha]
        rfl
    | none =>
      cases call with
      | append sql =>
        show apply (.append sql) b.redacted = _
        rw [apply_append, apply_append]
        show (if b.isRendered = true then _ else _) = _
        cases b.isRendered <;> rfl
      | setQuery sql bound =>
        have hrendered : b.redacted.isRendered = b.isRendered := rfl
        have hkind : b.redacted.kind = b.kind := rfl
        show apply (.setQuery sql bound.redacted) b.redacted = _
        rw [apply_setQuery, apply_setQuery, hrendered, hkind]
        cases b.isRendered with
        | true => rfl
        | false => cases b.kind <;> rfl
      | _ => simp [Call.clause?, Call.answer?] at hc ha

/-! ## Runs -/

theorem outcome_redacted (b : Builder) (call : Call) :
    b.redacted.outcome call.redacted = (b.outcome call).map Response.redacted := by
  unfold outcome
  rw [apply_redacted]
  cases apply call b <;> rfl

theorem after_redacted (b : Builder) (call : Call) :
    b.redacted.after call.redacted = (b.after call).redacted := by
  unfold after
  rw [apply_redacted]
  cases apply call b <;> rfl

theorem outcomes_redacted (b : Builder) (calls : List Call) :
    b.redacted.outcomes (calls.map Call.redacted) =
      (b.outcomes calls).map (·.map Response.redacted) := by
  induction calls generalizing b with
  | nil => rfl
  | cons call rest ih =>
    rw [List.map_cons, outcomes, outcomes, outcome_redacted, after_redacted, ih]
    rfl

theorem afterAll_redacted (b : Builder) (calls : List Call) :
    b.redacted.afterAll (calls.map Call.redacted) = (b.afterAll calls).redacted := by
  induction calls generalizing b with
  | nil => rfl
  | cons call rest ih =>
    show (b.redacted.after call.redacted).afterAll (rest.map Call.redacted) = _
    rw [after_redacted]
    exact ih (b.after call)

/-- The text that a builder would give now, or why it has none. -/
theorem peek_redacted (b : Builder) :
    b.redacted.peek.map BuiltQuery.statement = b.peek.map BuiltQuery.statement := by
  unfold peek
  rw [finish_redacted]
  cases finish b <;> rfl

/-- Under the same rules, two sequences of calls that differ in values only: each call has the same
outcome in both, an error or an answer that differs in values at most, and after every step the text
is the same, or the reason why there is none, and the same names are bound in the same order. -/
theorem values_stay_in_the_bindings (table : RuleTable) (calls calls' : List Call)
    (h : calls.map Call.redacted = calls'.map Call.redacted) :
    ((withRules table).outcomes calls).map (·.map Response.redacted) =
        ((withRules table).outcomes calls').map (·.map Response.redacted) ∧
      ∀ n,
        ((withRules table).afterAll (calls.take n)).peek.map BuiltQuery.statement =
            ((withRules table).afterAll (calls'.take n)).peek.map BuiltQuery.statement ∧
          ((withRules table).afterAll (calls.take n)).params.placeholders =
            ((withRules table).afterAll (calls'.take n)).params.placeholders := by
  constructor
  · rw [← outcomes_redacted, ← outcomes_redacted, h]
  · intro n
    have hprefix : (calls.take n).map Call.redacted = (calls'.take n).map Call.redacted := by
      rw [List.map_take, List.map_take, h]
    have hafter : ((withRules table).afterAll (calls.take n)).redacted =
        ((withRules table).afterAll (calls'.take n)).redacted := by
      rw [← afterAll_redacted, ← afterAll_redacted, hprefix]
    constructor
    · rw [← peek_redacted, hafter, peek_redacted]
    · have hnames := congrArg (fun b => b.params.placeholders) hafter
      simpa [redacted] using hnames

/-- An UPDATE with values that look like values. -/
def harmless : List Call :=
  [.update (.name "t"), .set (.mapping [("name", .text "a"), ("age", .null)]),
    .filter (.tree (.any [.eq "name" (.text "b"), .eq "id" (.int 1)]))]

/-- The same UPDATE with text that looks like SQL, and with a null in its condition. -/
def hostile : List Call :=
  [.update (.name "t"), .set (.mapping [("name", .text "'; DROP TABLE t; --"), ("age", .null)]),
    .filter (.tree (.any [.eq "name" (.text ":name"), .eq "id" .null]))]

theorem hostile_values_change_no_text :
    hostile.map Call.redacted = harmless.map Call.redacted ∧
      (new.afterAll hostile).peek.map BuiltQuery.statement =
        .ok "UPDATE t SET name = :name WHERE (name = :name0 OR id = :id) " ∧
      (new.afterAll hostile).params.placeholders = [":name", ":name0", ":id"] := by
  have hsame : hostile.map Call.redacted = harmless.map Call.redacted := rfl
  have htext : (new.afterAll (harmless.take 3)).peek.map BuiltQuery.statement =
      .ok "UPDATE t SET name = :name WHERE (name = :name0 OR id = :id) " := by decide +kernel
  have hnames : (new.afterAll (harmless.take 3)).params.placeholders =
      [":name", ":name0", ":id"] := by decide +kernel
  obtain ⟨htexts, hbound⟩ := (values_stay_in_the_bindings .standard hostile harmless hsame).2 3
  exact ⟨hsame, htexts.trans htext, hbound.trans hnames⟩

end Builder

end BoundSql
