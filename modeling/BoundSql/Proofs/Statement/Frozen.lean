import BoundSql.Proofs.Statement.Uses

/-!
# Frozen statements

A statement that was rendered does not change any more. Whoever renders it first, by asking for it
or by running it on a database that may fail, every later use gets the same text with the same
bindings or is refused. A statement that cannot be rendered yet stays open.

Main statement: `rendered_statement_is_frozen`.
-/

namespace BoundSql

namespace Builder

/-! ## The text of a statement -/

/-- The text that is kept, or else the one that the builder would render. -/
def currentText (b : Builder) : Except QueryError String :=
  match b.rendered with
  | some sql => .ok sql
  | none => b.render

/-- The builder with a text that is kept. -/
def keep (b : Builder) (sql : String) : Builder :=
  { b with rendered := some sql }

@[simp]
theorem keep_rendered (b : Builder) (sql : String) : (b.keep sql).rendered = some sql := rfl

theorem keep_of_rendered {b : Builder} {sql : String} (h : b.rendered = some sql) :
    b.keep sql = b := by
  rw [keep, ← h]

theorem currentText_of_rendered {b : Builder} {sql : String} (h : b.rendered = some sql) :
    b.currentText = .ok sql := by
  rw [currentText, h]

/-- A statement that has a text is finished with it and keeps it. -/
theorem finish_of_text {b : Builder} {sql : String} (h : b.currentText = .ok sql) :
    ∃ events, finish b = .ok ⟨sql, b.params, events⟩ (b.keep sql) := by
  rw [currentText] at h
  rw [finish_apply]
  cases hr : b.rendered with
  | some kept =>
    rw [hr] at h
    cases h
    -- The text is there already, so nothing is logged again.
    exact ⟨[], by rw [keep_of_rendered hr]⟩
  | none =>
    rw [hr] at h
    exact ⟨[b.renderEvent sql], by simp only [h]; rfl⟩

/-- A statement that has no text is not finished, and the builder stays. -/
theorem finish_of_no_text {b : Builder} {e : QueryError} (h : b.currentText = .error e) :
    finish b = .error e b := by
  rw [currentText] at h
  rw [finish_apply]
  cases hr : b.rendered with
  | some kept =>
    rw [hr] at h
    cases h
  | none =>
    rw [hr] at h
    simp only [h]

/-- Only a statement that is not complete cannot be rendered. -/
theorem incomplete_of_render {b : Builder} {e : QueryError} (h : b.render = .error e) :
    ∃ kind, e = .incompleteStatement kind := by
  unfold render at h
  cases hk : b.kind with
  | none =>
    simp only [hk, Except.error.injEq] at h
    exact ⟨"empty", h.symm⟩
  | some k =>
    cases hrules : b.table.rules? k with
    | none => simp [hk, hrules, Except.map] at h
    | some rules =>
      by_cases hall : rules.required.all b.has = true
      · simp [hk, hrules, hall, Except.map] at h
      · simp only [hk, hrules, if_neg hall, Except.map, Except.error.injEq] at h
        exact ⟨k.name, h.symm⟩

/-! ## What uses give -/

/-- Whatever asks for the statement gets this text and these bindings, or hands them to its
database as the only request, and leaves `after`. -/
structure Presents (b : Builder) (sql : String) (params : Params) (after : Builder) : Prop where
  statement : ∃ events, apply .statement b = .ok ⟨.text sql, events⟩ after
  bindings : ∃ events, apply .bindings b = .ok ⟨.bound params, events⟩ after
  build : ∃ events,
    apply .build b = .ok ⟨.built ⟨sql, if params.isEmpty then none else some params⟩, events⟩ after
  run : ∀ {σ : Type} (db : Database σ) (s : σ) (m : Method), ∃ events,
    b.run db s m =
      ⟨(db.answer (.run m sql params) s).result, after, (db.answer (.run m sql params) s).state,
        events ++ (db.answer (.run m sql params) s).events⟩

/-- Whatever would change the statement is refused and changes nothing. -/
structure Sealed (b : Builder) : Prop where
  clause : ∀ {call : Call} {c : Clause}, call.clause? = some c →
    apply call b = .error (.finalized c.keyword) b
  append : ∀ sql : String, apply (.append sql) b = .error (.finalized "append") b
  setQuery : ∀ (sql : String) (values : Params),
    apply (.setQuery sql values) b = .error (.finalized "custom") b
  findWith : ∀ {σ : Type} (o : FindOptions) (db : Database σ) (s : σ),
    b.findWith o db s = ⟨.error (.query (.finalized "SELECT")), b, s, []⟩

/-- Whatever asks for the statement fails, reaches no database and leaves the builder as it was,
which is not frozen. -/
structure Unfinished (b : Builder) (e : QueryError) : Prop where
  incomplete : ∃ kind, e = .incompleteStatement kind
  fresh : b.isRendered = false
  call : ∀ {call : Call} {answer : Rendered → Answer}, call.answer? = some answer →
    apply call b = .error e b
  run : ∀ {σ : Type} (db : Database σ) (s : σ) (m : Method),
    b.run db s m = ⟨.error (.query e), b, s, []⟩

/-- A statement that has a text gives it to whoever asks. -/
theorem presents_of_text {b : Builder} {sql : String} (h : b.currentText = .ok sql) :
    b.Presents sql b.params (b.keep sql) := by
  obtain ⟨events, hfinish⟩ := finish_of_text h
  have hcall : ∀ (call : Call) (answer : Rendered → Answer), call.answer? = some answer →
      apply call b = .ok ⟨answer ⟨sql, b.params, events⟩, events⟩ (b.keep sql) := by
    intro call answer ha
    rw [apply_of_answer ha, rendered_apply, hfinish]
  refine ⟨⟨events, hcall .statement _ rfl⟩, ⟨events, hcall .bindings _ rfl⟩,
    ⟨events, hcall .build _ rfl⟩, ?_⟩
  intro σ db s m
  refine ⟨events, ?_⟩
  unfold run
  rw [hfinish]

/-- A statement that was rendered refuses every change. -/
theorem sealed_of_rendered {b : Builder} {sql : String} (h : b.rendered = some sql) :
    b.Sealed := by
  have hrendered : b.isRendered = true := by simp [isRendered, h]
  have hclause : ∀ {call : Call} {c : Clause}, call.clause? = some c →
      apply call b = .error (.finalized c.keyword) b := by
    intro call c hc
    rw [apply_of_clause hc, refusal?_of_rendered h]
    rfl
  refine ⟨hclause, ?_, ?_, ?_⟩
  · intro text
    rw [apply_append, if_pos hrendered]
    rfl
  · intro text values
    rw [apply_setQuery, if_pos hrendered]
    rfl
  · -- The first clause of the whole SELECT is refused already.
    intro σ o db s
    have hselect : apply (.select o.select) b = .error (.finalized Clause.select.keyword) b :=
      hclause rfl
    have hall : selectAll o b = .error (.finalized "SELECT") b := by
      rw [selectAll_eq_sequence]
      show sequence (.select o.select :: _) b = _
      rw [sequence_cons_apply, hselect]
      rfl
    rw [findWith, hall]

/-- A statement that has no text fails everybody who asks, and stays open. -/
theorem unfinished_of_no_text {b : Builder} {e : QueryError} (h : b.currentText = .error e) :
    b.Unfinished e := by
  have hfinish := finish_of_no_text h
  -- A kept text would be a text.
  have hnone : b.rendered = none := by
    cases hr : b.rendered with
    | none => rfl
    | some sql =>
      rw [currentText_of_rendered hr] at h
      cases h
  refine ⟨?_, by simp [isRendered, hnone], ?_, ?_⟩
  · rw [currentText, hnone] at h
    exact incomplete_of_render h
  · intro call answer ha
    rw [apply_of_answer ha, rendered_apply, hfinish]
  · intro σ db s m
    unfold run
    rw [hfinish]

/-! ## Later uses -/

/-- No call changes a statement that was rendered. -/
theorem after_of_rendered {b : Builder} {sql : String} (h : b.rendered = some sql) (call : Call) :
    b.after call = b := by
  cases hcall : apply call b with
  | error e b' => simpa [after, hcall] using apply_error hcall
  | ok r b' =>
    have hafter : b.after call = b' := by simp [after, hcall]
    rw [hafter]
    -- Of all that a call can do, only giving the text again is possible after rendering.
    cases apply_eq_ok_iff.1 hcall with
    | clause hc legal written =>
      rw [refusal?_of_rendered h] at legal
      cases legal
    | append sql fresh => simp [isRendered, h] at fresh
    | setQuery sql bound fresh hk => simp [isRendered, h] at fresh
    | render ha fresh text =>
      rw [h] at fresh
      cases fresh
    | again ha kept => rfl

/-- No use changes a statement that was rendered. -/
theorem Use.eq_of_rendered {b b' : Builder} {sql : String} (h : Use b b')
    (hr : b.rendered = some sql) : b' = b := by
  cases h with
  | call call => exact after_of_rendered hr call
  | execute db s => exact (builder_run b db s .execute).trans (after_of_rendered hr _)
  | find db s => exact (builder_run b db s .queryMany).trans (after_of_rendered hr _)
  | first db s => exact (builder_run b db s .queryOne).trans (after_of_rendered hr _)
  | findAs read db s => exact (builder_run b db s .queryMany).trans (after_of_rendered hr _)
  | firstAs read db s => exact (builder_run b db s .queryOne).trans (after_of_rendered hr _)
  | findWith o db s => rw [(sealed_of_rendered hr).findWith]

/-- However often a statement that was rendered is used, it stays as it is. -/
theorem Uses.eq_of_rendered {b later : Builder} {sql : String} (h : Uses b later)
    (hr : b.rendered = some sql) : later = b := by
  induction h with
  | refl => rfl
  | tail _ huse ih =>
    rw [ih] at huse
    exact huse.eq_of_rendered hr

/-- If a statement has a text, every way to render it gives that text with the bindings of the
builder and freezes it: no later use, whatever a database answers, changes it or gets anything else.
If it has none, it is not complete, and every attempt to render it leaves it as it was. A whole
SELECT whose clauses are accepted renders the statement that its calls lead to. -/
theorem rendered_statement_is_frozen :
    (∀ (b : Builder) (sql : String), b.currentText = .ok sql →
      b.Presents sql b.params (b.keep sql) ∧
        ∀ later, Uses (b.keep sql) later →
          later = b.keep sql ∧ later.Presents sql b.params later ∧ later.Sealed) ∧
    (∀ (b : Builder) (e : QueryError), b.currentText = .error e → b.Unfinished e) ∧
    ∀ (b staged : Builder) (o : FindOptions), selectAll o b = .ok () staged →
      Run b o.calls staged ∧
        ∀ {σ : Type} (db : Database σ) (s : σ), b.findWith o db s = staged.find db s := by
  refine ⟨?_, ?_, ?_⟩
  · intro b sql h
    refine ⟨presents_of_text h, ?_⟩
    intro later huses
    have hsame : later = b.keep sql := huses.eq_of_rendered (keep_rendered b sql)
    subst hsame
    have htext : (b.keep sql).currentText = .ok sql := currentText_of_rendered (keep_rendered b sql)
    exact ⟨rfl, presents_of_text htext, sealed_of_rendered (keep_rendered b sql)⟩
  · intro b e h
    exact unfinished_of_no_text h
  · intro b staged o h
    refine ⟨run_of_selectAll h, ?_⟩
    intro σ db s
    rw [findWith, h]

/-- A SELECT of a whole table. -/
def wholeTable : Builder :=
  new.afterAll [.select .all, .fromTables [.name "t"]]

/-- A database that is locked. -/
def locked : Database Unit :=
  Database.prepared { failure := some (.database .engine) }

/-- A run that fails freezes the statement: a text appended later and a whole SELECT are refused,
and the next run asks the database for the same. -/
theorem failing_run_freezes :
    ∃ later, later =
        (((wholeTable.execute locked ()).builder.after (.append " LIMIT 1")).findWith
          { tables := [.name "u"] } locked ()).builder ∧
      later.Sealed ∧ later.Presents "SELECT * FROM t " .empty later := by
  obtain ⟨later, hlater⟩ : ∃ later, later =
      (((wholeTable.execute locked ()).builder.after (.append " LIMIT 1")).findWith
        { tables := [.name "u"] } locked ()).builder := ⟨_, rfl⟩
  have htext : wholeTable.currentText = .ok "SELECT * FROM t " := rfl
  obtain ⟨hfirst, hfrozen⟩ := rendered_statement_is_frozen.1 wholeTable "SELECT * FROM t " htext
  have hleft : (wholeTable.execute locked ()).builder = wholeTable.keep "SELECT * FROM t " := by
    obtain ⟨events, hrun⟩ := hfirst.run locked () .execute
    rw [execute, hrun]
  have huses : Uses (wholeTable.keep "SELECT * FROM t ") later := by
    rw [hlater, hleft]
    exact (Relation.ReflTransGen.single (.call _)).tail (.findWith _ locked ())
  obtain ⟨-, hpresents, hsealed⟩ := hfrozen later huses
  exact ⟨later, hlater, hsealed, hpresents⟩

end Builder

end BoundSql
