import BoundSql.Statement.Builder

/-!
# Calls

What a call does to a builder, whatever the rules are. A call that adds a clause asks first
whether the clause may be added and then what its argument writes (`Call.write`); only if both
succeed does the builder change, and all that changes is said by `Builder.extend`
(`apply_of_clause`).

Main statements: `apply_error`, a call that fails changes nothing; `apply_eq_ok_iff`, a call that
succeeds does one of the five things that `Step` lists.
-/

namespace BoundSql

namespace Builder

/-! ## Edits -/

/-- Two edits one after another: the second goes on from the builder that the first leaves. -/
theorem bind_apply {α β : Type} (x : Edit α) (f : α → Edit β) (b : Builder) :
    (x >>= f) b = match x b with
      | .ok a b' => f a b'
      | .error e b' => .error e b' := by
  show EStateM.bind x f b = _
  unfold EStateM.bind
  cases x b <;> rfl

theorem get_apply (b : Builder) : (get : Edit Builder) b = .ok b b := rfl

theorem lift_apply {α : Type} (x : Except QueryError α) (b : Builder) :
    Edit.lift x b = match x with
      | .ok a => .ok a b
      | .error e => .error e b := rfl

/-- Asking whether a clause may be added changes nothing. -/
theorem allow_apply (c : Clause) (b : Builder) :
    allow c b = match b.refusal? c with
      | some r => .error (r.error c.keyword) b
      | none => .ok () b := by
  simp only [allow, bind_apply, get_apply]
  cases b.refusal? c <;> rfl

/-! ## Clauses -/

/-- The clause that a call adds. -/
def Call.clause? : Call → Option Clause
  | .insertInto _ => some .insertInto
  | .values _ => some .insertValues
  | .select _ => some .select
  | .fromTables _ => some .fromTables
  | .update _ => some .update
  | .set _ => some .updateSet
  | .delete => some .delete
  | .filter _ => some .filter
  | .append _ | .setQuery _ _ | .statement | .bindings | .build => none

/-- What a clause writes: its text, and the bindings of the statement after it. -/
structure Writing where
  text : String
  params : Params

/-- What the argument of a call writes into a statement of some kind with some bindings. -/
def Call.write (kind : Option Kind) (p : Params) : Call → Except QueryError Writing
  | .insertInto t => (t.resolve .insertInto).map fun table => ⟨"INSERT INTO " ++ table, p⟩
  | .values data =>
    (data.bindable .insertValues).map fun row =>
      ⟨valuesText (Pairs.names row), Params.ofList (marked row)⟩
  | .select columns => (columns.render .select).map fun text => ⟨"SELECT " ++ text ++ " ", p⟩
  | .fromTables ts =>
    (resolveTargets ts .fromTables).map fun tables =>
      ⟨"FROM " ++ Text.join ", " tables ++ " ", p⟩
  | .update t => (t.resolve .update).map fun table => ⟨"UPDATE " ++ table ++ " ", p⟩
  | .set data =>
    (data.bindable .updateSet).map fun row =>
      ⟨setText (Pairs.names row), p.bindAll (marked row)⟩
  | .filter (Filter.raw conditions bound) =>
    if Text.isBlank conditions then .error (.badConditionShape "empty WHERE conditions")
    else .ok ⟨filterText conditions, if kind = some .update then p.merge bound else bound⟩
  | .filter (Filter.tree condition) =>
    (condition.compile p).1.map fun text => ⟨filterText text, (condition.compile p).2⟩
  | .delete => .ok ⟨"DELETE ", p⟩
  | .append _ | .setQuery _ _ | .statement | .bindings | .build => .ok ⟨"", p⟩

/-- What a writing is made of could be made. -/
theorem exists_of_map_eq_ok {α β : Type} {x : Except QueryError α} {f : α → β} {b : β}
    (h : x.map f = .ok b) : ∃ a, x = .ok a ∧ f a = b := by
  cases x with
  | error e => cases h
  | ok a => exact ⟨a, rfl, by simpa [Except.map] using h⟩

/-- The builder with a clause as it was written. -/
def extend (b : Builder) (c : Clause) (w : Writing) : Builder :=
  { b with
    kind := (b.table.startedBy? c).or b.kind
    clauses := fun d => if d = c then some w.text else b.clauses d
    params := w.params }

/-- An edit that checks its clause, then an argument that needs no builder, and then writes. -/
theorem done_apply_of_argument {α : Type} (c : Clause) (argument : Except QueryError α)
    (put : α → Edit Unit) (written : α → Writing) (b : Builder)
    (hput : ∀ a, put a b = .ok () (b.extend c (written a))) :
    Edit.done (do allow c; put (← Edit.lift argument)) b = match b.refusal? c with
      | some r => .error (r.error c.keyword) b
      | none =>
        match argument.map written with
        | .error e => .error e b
        | .ok w => .ok ⟨.done, []⟩ (b.extend c w) := by
  simp only [Edit.done, bind_apply, allow_apply, lift_apply]
  -- refused before the argument is looked at
  cases b.refusal? c with
  | some r => rfl
  | none =>
    -- the argument fails before anything is written
    cases argument with
    | error e => rfl
    | ok a =>
      simp only [hput]
      rfl

/-- A call that adds a clause is refused, or fails at its argument, or extends the builder. -/
theorem apply_of_clause {call : Call} {c : Clause} (h : call.clause? = some c) (b : Builder) :
    apply call b = match b.refusal? c with
      | some r => .error (r.error c.keyword) b
      | none =>
        match call.write b.kind b.params with
        | .error e => .error e b
        | .ok w => .ok ⟨.done, []⟩ (b.extend c w) := by
  cases call with
  | insertInto t =>
    obtain rfl : Clause.insertInto = c := by simpa [Call.clause?] using h
    exact done_apply_of_argument _ (t.resolve .insertInto) _ _ b fun _ => rfl
  | values data =>
    obtain rfl : Clause.insertValues = c := by simpa [Call.clause?] using h
    exact done_apply_of_argument _ (data.bindable .insertValues) _ _ b fun _ => rfl
  | select columns =>
    obtain rfl : Clause.select = c := by simpa [Call.clause?] using h
    exact done_apply_of_argument _ (columns.render .select) _ _ b fun _ => rfl
  | fromTables ts =>
    obtain rfl : Clause.fromTables = c := by simpa [Call.clause?] using h
    exact done_apply_of_argument _ (resolveTargets ts .fromTables) _ _ b fun _ => rfl
  | update t =>
    obtain rfl : Clause.update = c := by simpa [Call.clause?] using h
    exact done_apply_of_argument _ (t.resolve .update) _ _ b fun _ => rfl
  | set data =>
    obtain rfl : Clause.updateSet = c := by simpa [Call.clause?] using h
    exact done_apply_of_argument _ (data.bindable .updateSet) _ _ b fun _ => rfl
  | delete =>
    obtain rfl : Clause.delete = c := by simpa [Call.clause?] using h
    exact done_apply_of_argument _ (.ok ()) (fun _ => record .delete "DELETE ")
      (fun _ => ⟨"DELETE ", b.params⟩) b fun _ => rfl
  -- WHERE is not of the same shape: what it writes hangs on the kind and on the bindings.
  | filter f =>
    obtain rfl : Clause.filter = c := by simpa [Call.clause?] using h
    simp only [apply, Edit.done, filter, bind_apply, allow_apply]
    cases b.refusal? .filter with
    | some r => rfl
    | none =>
      cases f with
      | raw conditions bound =>
        simp only [Call.write]
        by_cases blank : Text.isBlank conditions = true
        · simp only [if_pos blank]
          rfl
        · simp only [if_neg blank]
          rfl
      | tree condition =>
        -- The bindings are made on a copy, so a defect does not show in the builder.
        simp only [Call.write, bind_apply, get_apply, lift_apply]
        cases (condition.compile b.params).1 <;> rfl
  | append sql => simp [Call.clause?] at h
  | setQuery sql bound => simp [Call.clause?] at h
  | statement => simp [Call.clause?] at h
  | bindings => simp [Call.clause?] at h
  | build => simp [Call.clause?] at h

/-! ## Calls without a clause -/

/-- Appending is refused only after rendering, and keeps the text given last. -/
theorem apply_append (sql : String) (b : Builder) :
    apply (.append sql) b =
      if b.isRendered then .error (Refusal.rendered.error "append") b
      else .ok ⟨.done, []⟩ { b with appended := some sql } := by
  simp only [apply, Edit.done, append, bind_apply, get_apply]
  cases b.isRendered <;> rfl

/-- A whole statement is refused after rendering and where a statement has been started. -/
theorem apply_setQuery (sql : String) (bound : Params) (b : Builder) :
    apply (.setQuery sql bound) b =
      if b.isRendered then .error (Refusal.rendered.error "custom") b
      else match b.kind with
        | some k => .error ((Refusal.alreadyStarted k).error "custom") b
        | none =>
          .ok ⟨.done, []⟩ { b with kind := some .custom, custom := some sql, params := bound } := by
  simp only [apply, Edit.done, setQuery, bind_apply, get_apply]
  cases b.isRendered with
  | true => rfl
  | false =>
    cases hk : b.kind with
    | some k =>
      simp only [Bool.false_eq_true, if_false, bind_apply, get_apply, hk]
      rfl
    | none =>
      simp only [Bool.false_eq_true, if_false, bind_apply, get_apply, hk]
      rfl

/-- Rendering gives the text that is kept, or else writes it and keeps it. -/
theorem finish_apply (b : Builder) :
    finish b = match b.rendered with
      | some sql => .ok ⟨sql, b.params, []⟩ b
      | none =>
        match b.render with
        | .error e => .error e b
        | .ok sql => .ok ⟨sql, b.params, [b.renderEvent sql]⟩ { b with rendered := some sql } := by
  simp only [finish, bind_apply, get_apply]
  cases b.rendered with
  | some sql => rfl
  | none =>
    simp only [bind_apply, lift_apply]
    cases b.render <;> rfl

/-- Every call that asks for the statement renders it. -/
theorem rendered_apply (answer : Rendered → Answer) (b : Builder) :
    Edit.rendered answer b = match finish b with
      | .ok r b' => .ok ⟨answer r, r.events⟩ b'
      | .error e b' => .error e b' := by
  simp only [Edit.rendered, bind_apply]
  cases finish b <;> rfl

/-! ## Failed calls -/

/-- A rendering that fails leaves the builder as it was. -/
theorem finish_error {b b' : Builder} {e : QueryError} (h : finish b = .error e b') : b' = b := by
  rw [finish_apply] at h
  split at h
  · cases h
  · split at h
    · cases h
      rfl
    · cases h

/-- So does a call that asks for the statement. -/
theorem rendered_error {answer : Rendered → Answer} {b b' : Builder} {e : QueryError}
    (h : Edit.rendered answer b = .error e b') : b' = b := by
  rw [rendered_apply] at h
  cases hf : finish b with
  | ok r b₁ => simp [hf] at h
  | error e₁ b₁ =>
    simp only [hf, EStateM.Result.error.injEq] at h
    rw [← h.2]
    exact finish_error hf

/-- A call that fails leaves the builder as it was. -/
theorem apply_error {b b' : Builder} {call : Call} {e : QueryError}
    (h : apply call b = .error e b') : b' = b := by
  cases hc : call.clause? with
  | some c =>
    -- the call was refused, or its argument failed; a success is no error
    rw [apply_of_clause hc] at h
    split at h
    · cases h
      rfl
    · split at h
      · cases h
        rfl
      · cases h
  | none =>
    cases call with
    | append sql =>
      rw [apply_append] at h
      split at h
      · cases h
        rfl
      · cases h
    | setQuery sql bound =>
      rw [apply_setQuery] at h
      split at h
      · cases h
        rfl
      · split at h
        · cases h
          rfl
        · cases h
    | statement => exact rendered_error h
    | bindings => exact rendered_error h
    | build => exact rendered_error h
    | _ => simp [Call.clause?] at hc

/-! ## Calls that succeed -/

/-- How a call that asks for the statement answers. -/
def Call.answer? : Call → Option (Rendered → Answer)
  | .statement => some fun r => .text r.sql
  | .bindings => some fun r => .bound r.params
  | .build => some fun r => .built r.built
  | _ => none

/-- What a call that succeeds gives and does. -/
inductive Step (b : Builder) : Call → Response → Builder → Prop where
  | clause {call : Call} {c : Clause} {w : Writing} (hc : call.clause? = some c)
      (legal : b.refusal? c = none) (written : call.write b.kind b.params = .ok w) :
      Step b call ⟨.done, []⟩ (b.extend c w)
  | append (sql : String) (fresh : b.isRendered = false) :
      Step b (.append sql) ⟨.done, []⟩ { b with appended := some sql }
  | setQuery (sql : String) (bound : Params) (fresh : b.isRendered = false) (hk : b.kind = none) :
      Step b (.setQuery sql bound) ⟨.done, []⟩
        { b with kind := some .custom, custom := some sql, params := bound }
  /-- The first rendering. -/
  | render {call : Call} {answer : Rendered → Answer} {sql : String}
      (ha : call.answer? = some answer) (fresh : b.rendered = none) (text : b.render = .ok sql) :
      Step b call ⟨answer ⟨sql, b.params, [b.renderEvent sql]⟩, [b.renderEvent sql]⟩
        { b with rendered := some sql }
  /-- A later rendering gives the text that was kept. -/
  | again {call : Call} {answer : Rendered → Answer} {sql : String}
      (ha : call.answer? = some answer) (kept : b.rendered = some sql) :
      Step b call ⟨answer ⟨sql, b.params, []⟩, []⟩ b

/-- A call that asks for the statement renders it and answers from it. -/
theorem apply_of_answer {call : Call} {answer : Rendered → Answer}
    (h : call.answer? = some answer) : apply call = Edit.rendered answer := by
  cases call <;> simp_all [Call.answer?, apply]

/-- A call that asks for the statement has no clause. -/
theorem clause?_of_answer {call : Call} {answer : Rendered → Answer}
    (h : call.answer? = some answer) : call.clause? = none := by
  cases call <;> simp_all [Call.answer?, Call.clause?]

/-- A rendering that succeeds is the first one or gives the text that was kept. -/
theorem Step.of_rendered {call : Call} {answer : Rendered → Answer} {b b' : Builder}
    {r : Response} (ha : call.answer? = some answer) (h : Edit.rendered answer b = .ok r b') :
    Step b call r b' := by
  rw [rendered_apply, finish_apply] at h
  cases hb : b.rendered with
  | some sql =>
    simp only [hb, EStateM.Result.ok.injEq] at h
    obtain ⟨rfl, rfl⟩ := h
    exact .again ha hb
  | none =>
    cases hr : b.render with
    | error e => simp [hb, hr] at h
    | ok sql =>
      simp only [hb, hr, EStateM.Result.ok.injEq] at h
      obtain ⟨rfl, rfl⟩ := h
      exact .render ha hb hr

/-- A call succeeds in one of five ways, and then does nothing but what is said there. -/
theorem apply_eq_ok_iff {call : Call} {b b' : Builder} {r : Response} :
    apply call b = .ok r b' ↔ Step b call r b' := by
  constructor
  · -- from the edit to the step: every way in which it could fail is excluded
    intro h
    cases hc : call.clause? with
    | some c =>
      rw [apply_of_clause hc] at h
      cases hr : b.refusal? c with
      | some reason => simp [hr] at h
      | none =>
        cases hw : call.write b.kind b.params with
        | error e => simp [hr, hw] at h
        | ok w =>
          simp only [hr, hw, EStateM.Result.ok.injEq] at h
          obtain ⟨rfl, rfl⟩ := h
          exact .clause hc hr hw
    | none =>
      cases call with
      | append sql =>
        rw [apply_append] at h
        cases hf : b.isRendered with
        | true => simp [hf] at h
        | false =>
          simp only [hf, Bool.false_eq_true, if_false, EStateM.Result.ok.injEq] at h
          obtain ⟨rfl, rfl⟩ := h
          exact .append sql hf
      | setQuery sql bound =>
        rw [apply_setQuery] at h
        cases hf : b.isRendered with
        | true => simp [hf] at h
        | false =>
          cases hk : b.kind with
          | some k => simp [hf, hk] at h
          | none =>
            simp only [hf, hk, Bool.false_eq_true, if_false, EStateM.Result.ok.injEq] at h
            obtain ⟨rfl, rfl⟩ := h
            exact .setQuery sql bound hf hk
      | statement => exact .of_rendered rfl h
      | bindings => exact .of_rendered rfl h
      | build => exact .of_rendered rfl h
      | _ => simp [Call.clause?] at hc
  · intro h
    cases h with
    -- from the step to the edit, one case for each of the five
    | clause hc legal written => simp [apply_of_clause hc, legal, written]
    | append sql fresh => simp [apply_append, fresh]
    | setQuery sql bound fresh hk => simp [apply_setQuery, fresh, hk]
    | render ha fresh text => simp [apply_of_answer ha, rendered_apply, finish_apply, fresh, text]
    | again ha kept => simp [apply_of_answer ha, rendered_apply, finish_apply, kept]

/-- After rendering every clause is refused. -/
theorem refusal?_of_rendered {b : Builder} {sql : String} (h : b.rendered = some sql)
    (c : Clause) : b.refusal? c = some .rendered := by
  simp [refusal?, isRendered, h]

/-- The text that is kept after a step was kept before it, and then the step changes nothing, or
the step renders it. -/
theorem Step.kept {call : Call} {r : Response} {b b' : Builder} {sql : String}
    (h : Step b call r b') (hsql : b'.rendered = some sql) :
    b' = b ∨ b.render = .ok sql ∧ b' = { b with rendered := some sql } := by
  cases h with
  | clause hc legal written =>
    -- A clause that is legal is added before the statement is rendered.
    have kept : b.rendered = some sql := hsql
    rw [refusal?_of_rendered kept] at legal
    cases legal
  | append text fresh =>
    have kept : b.rendered = some sql := hsql
    simp [isRendered, kept] at fresh
  | setQuery text bound fresh hk =>
    have kept : b.rendered = some sql := hsql
    simp [isRendered, kept] at fresh
  | render ha fresh text =>
    cases hsql
    exact .inr ⟨text, rfl⟩
  | again ha kept => exact .inl rfl

/-! ## Outcomes -/

/-- A call succeeds exactly if it is a step. -/
theorem isOk_outcome_iff {b : Builder} {call : Call} :
    (b.outcome call).isOk = true ↔ ∃ r b', Step b call r b' := by
  unfold outcome
  simp only [← apply_eq_ok_iff]
  cases apply call b with
  | ok r b' => simp [Except.isOk, Except.toBool]
  | error e b' => simp [Except.isOk, Except.toBool]

/-- A call that asks for the statement gives a text that is kept, or that it renders. -/
theorem outcome_of_answer {b : Builder} {call : Call} {answer : Rendered → Answer} {r : Response}
    (ha : call.answer? = some answer) (h : b.outcome call = .ok r) :
    ∃ sql events, (b.rendered = some sql ∨ b.render = .ok sql) ∧
      r = ⟨answer ⟨sql, b.params, events⟩, events⟩ := by
  unfold outcome at h
  cases hc : apply call b with
  | error e b' => simp [hc] at h
  | ok r' b' =>
    simp only [hc, Except.ok.injEq] at h
    subst h
    cases apply_eq_ok_iff.1 hc with
    | render ha' fresh text =>
      cases ha.symm.trans ha'
      exact ⟨_, _, .inr text, rfl⟩
    | again ha' kept =>
      cases ha.symm.trans ha'
      exact ⟨_, _, .inl kept, rfl⟩
    -- the other three steps answer nothing
    | clause hc' legal written => simp [clause?_of_answer ha] at hc'
    | append sql fresh => simp [Call.answer?] at ha
    | setQuery sql bound fresh hk => simp [Call.answer?] at ha

/-- Where a text can be rendered, every call that asks for the statement succeeds. -/
theorem isOk_of_render {b : Builder} {call : Call} {answer : Rendered → Answer} {sql : String}
    (ha : call.answer? = some answer) (h : b.render = .ok sql) :
    (b.outcome call).isOk = true := by
  rw [isOk_outcome_iff]
  cases hkept : b.rendered with
  | none => exact ⟨_, _, .render ha hkept h⟩
  | some kept => exact ⟨_, _, .again ha hkept⟩

end Builder

end BoundSql
