import BoundSql.Proofs.Execution.Plan
import BoundSql.Proofs.Statement.Frozen
import BoundSql.Proofs.Statement.NormalRow
import BoundSql.Proofs.Statement.Sentence

/-!
# Keyed rows

The operations of a repository that are about one row find it by its key: every key column is
compared with the value that the entity, or the caller, gives for it. An UPDATE writes the key
columns too, so each of them is bound twice, and the name in the condition is not the name in the
row.

Main statement: `operations_address_the_keyed_row`. An operation with a usable key makes exactly one
request, whose condition compares the key columns in their order, each with its own value, and
whose row binds every column to its own value; an operation without one asks nothing.
-/

namespace BoundSql

/-! ## Rows of entities -/

/-- The value that is written for a column: the last one of its name that is not null. -/
def Entity.lastValue? (e : Entity) (column : String) : Option Value :=
  Pairs.find? column (e.columns.filter fun pair => !pair.2.isNull).reverse

/-- The row holds every column that has a value other than null, once and with the last such
value. -/
structure Entity.Writes (e : Entity) (row : Pairs Value) : Prop where
  distinct : (Pairs.names row).Nodup
  values : ∀ column value, (column, value) ∈ row ↔ e.lastValue? column = some value

/-- Where no column is repeated, a column is written with the entity's own value, unless that is
null. -/
theorem Entity.lastValue?_of_nodup {e : Entity} (h : (Pairs.names e.columns).Nodup)
    (column : String) :
    e.lastValue? column = (e.value? column).filter fun value => !value.isNull := by
  have hkept : (Pairs.names (e.columns.filter fun pair => !pair.2.isNull)).Nodup :=
    h.sublist (List.filter_sublist.map _)
  -- No column repeats, so the last value of a column is its only one.
  apply Option.ext
  intro value
  rw [Entity.lastValue?, Pairs.find?_reverse hkept, ← Pairs.mem_iff_find? hkept]
  simp [Option.filter_eq_some_iff, Entity.value?, ← Pairs.mem_iff_find? h]

namespace RowData

/-- The row of an entity that has usable columns and a value to write. -/
theorem exists_row_of_entity {e : Entity} (c : Clause)
    (columns : ∀ column ∈ Pairs.names e.columns, Text.isBlank column = false)
    (some_value : ∃ pair ∈ e.columns, pair.2.isNull = false) :
    ∃ row, (RowData.entity e).bindable c = .ok row ∧ e.Writes row := by
  have hvalue : ∃ pair ∈ e.columns, pair.2 ≠ .null := by
    simpa [Value.isNull_eq_false_iff] using some_value
  have hrow : (RowData.entity e).bindable c = .ok (Pairs.putAll [] (written e.columns)) :=
    bindable_eq_ok_iff.2 ⟨e.columns, .entity e, columns, hvalue, rfl⟩
  have hdistinct := (normalForm_putAll e.columns).distinct
  refine ⟨_, hrow, hdistinct, ?_⟩
  intro column value
  have hfind : Pairs.find? column (Pairs.putAll [] (written e.columns)) = e.lastValue? column := by
    rw [Pairs.find?_putAll]
    exact Option.or_none
  rw [Pairs.mem_iff_find? hdistinct, hfind]

end RowData

/-! ## Key terms -/

open Repository (combine keyComparisons)

/-- A comparison of a key column with its value, which is bound to a name. -/
structure KeyTerm where
  column : String
  value : Value
  name : String
deriving DecidableEq

namespace KeyTerm

/-- The column with the value that it must have. -/
def key (t : KeyTerm) : String × Value :=
  (t.column, t.value)

/-- `column = :name` -/
def text (t : KeyTerm) : String :=
  t.column ++ " = " ++ placeholder t.name

/-- The name with the value that is bound to it. -/
def binding (t : KeyTerm) : String × Value :=
  (t.name, t.value)

end KeyTerm

/-- A single term stands for itself; several stand in parentheses. -/
def keyText : List KeyTerm → String
  | [t] => t.text
  | ts => "(" ++ Text.join " AND " (ts.map KeyTerm.text) ++ ")"

/-- Comparisons with names are terms. -/
theorem exists_terms_of_conditions {keys : List (String × Value)} {bounds : List BoundCondition}
    (h : BoundCondition.conditions bounds = keyComparisons keys) :
    ∃ terms : List KeyTerm, terms.map KeyTerm.key = keys ∧
      BoundCondition.texts bounds = terms.map KeyTerm.text ∧
      BoundCondition.entriesEach bounds = terms.map KeyTerm.binding := by
  induction keys generalizing bounds with
  | nil =>
    cases bounds with
    | nil => exact ⟨[], rfl, by simp [BoundCondition.texts], by simp [BoundCondition.entriesEach]⟩
    | cons bound rest => simp [BoundCondition.conditions, keyComparisons] at h
  | cons key keys ih =>
    obtain ⟨column, value⟩ := key
    cases bounds with
    | nil => simp [BoundCondition.conditions, keyComparisons] at h
    | cons bound rest =>
      rw [BoundCondition.conditions] at h
      obtain ⟨hfirst, hrest⟩ := List.cons.inj h
      obtain ⟨terms, rfl, htexts, hentries⟩ := ih hrest
      -- A group is no comparison, so the first member has a name.
      cases bound with
      | group connective members => simp [BoundCondition.condition, Condition.eq] at hfirst
      | compare column' operator value' name =>
        simp only [BoundCondition.condition, Condition.eq, Condition.compare.injEq] at hfirst
        obtain ⟨rfl, rfl, rfl⟩ := hfirst
        refine ⟨⟨column', value', name⟩ :: terms, rfl, ?_, ?_⟩
        · have htext : column' ++ " " ++ "=" ++ " " ++ placeholder name =
              KeyTerm.text ⟨column', value', name⟩ := by
            simp [KeyTerm.text, ← String.toList_inj]
          rw [BoundCondition.texts, BoundCondition.text, htexts, htext]
          rfl
        · simp [BoundCondition.entriesEach, BoundCondition.entries, hentries, KeyTerm.binding]

/-- A group of comparisons with names is its terms in parentheses. -/
theorem exists_terms_of_all {keys : List (String × Value)} {bound : BoundCondition}
    (h : bound.condition = .all (keyComparisons keys)) :
    ∃ terms : List KeyTerm, terms.map KeyTerm.key = keys ∧
      bound.text = "(" ++ Text.join " AND " (terms.map KeyTerm.text) ++ ")" ∧
      bound.entries = terms.map KeyTerm.binding := by
  cases bound with
  | compare column operator value name => simp [BoundCondition.condition, Condition.all] at h
  | group connective members =>
    simp only [BoundCondition.condition, Condition.all, Condition.group.injEq] at h
    obtain ⟨rfl, hmembers⟩ := h
    obtain ⟨terms, hkeys, htexts, hentries⟩ := exists_terms_of_conditions hmembers
    refine ⟨terms, hkeys, ?_, ?_⟩
    · rw [BoundCondition.text, htexts]
      rfl
    · rw [BoundCondition.entries, hentries]

/-- The condition of a key, compiled, is its terms. -/
theorem exists_terms_of_combine {keys : List (String × Value)} {bound : BoundCondition}
    (h : bound.condition = combine (keyComparisons keys)) :
    ∃ terms : List KeyTerm, terms.map KeyTerm.key = keys ∧ bound.text = keyText terms ∧
      bound.entries = terms.map KeyTerm.binding := by
  -- Only a key with a single column is not a group.
  match keys with
  | [] =>
    obtain ⟨terms, hkeys, htext, hentries⟩ := exists_terms_of_all h
    obtain rfl := List.map_eq_nil_iff.1 hkeys
    exact ⟨[], hkeys, htext, hentries⟩
  | [key] =>
    have hconditions : BoundCondition.conditions [bound] = keyComparisons [key] := by
      rw [BoundCondition.conditions, BoundCondition.conditions, h]
      rfl
    obtain ⟨terms, hkeys, htexts, hentries⟩ := exists_terms_of_conditions hconditions
    obtain ⟨term, rfl, -⟩ := List.map_eq_singleton_iff.1 hkeys
    simp only [BoundCondition.texts, BoundCondition.entriesEach, List.append_nil] at htexts hentries
    exact ⟨[term], hkeys, List.head_eq_of_cons_eq htexts, hentries⟩
  | first :: second :: rest =>
    have hgroup : bound.condition = .all (keyComparisons (first :: second :: rest)) := h
    obtain ⟨terms, hkeys, htext, hentries⟩ := exists_terms_of_all hgroup
    obtain ⟨t₁, more, rfl, -, hmore⟩ := List.map_eq_cons_iff.1 hkeys
    obtain ⟨t₂, others, rfl, -, -⟩ := List.map_eq_cons_iff.1 hmore
    exact ⟨t₁ :: t₂ :: others, hkeys, htext, hentries⟩

/-- The condition of a key with columns that are not blank can be compiled. -/
theorem complete_combine {keys : List (String × Value)} (hkeys : keys ≠ [])
    (columns : ∀ key ∈ keys, Text.isBlank key.1 = false) :
    (combine (keyComparisons keys)).Complete := by
  have hequals : Text.isBlank "=" = false := by decide
  have heach : Condition.CompleteEach (keyComparisons keys) := by
    -- The induction is over any keys, also none.
    clear hkeys
    induction keys with
    | nil => trivial
    | cons key rest ih =>
      exact ⟨⟨columns key (.head _), hequals⟩, ih fun k hk => columns k (.tail _ hk)⟩
  match keys with
  | [] => exact absurd rfl hkeys
  | [key] => exact ⟨columns key (.head _), hequals⟩
  | first :: second :: rest => exact ⟨by simp, heach⟩

/-- The entity has primary keys, and all of them are columns. -/
structure Entity.HasKey (e : Entity) : Prop where
  some_key : e.primaryKeys ≠ []
  columns : ∀ key ∈ e.primaryKeys, key ∈ Pairs.names e.columns

namespace Repository

open Builder

/-! ## Keys of entities -/

/-- What keeps the key of an entity from being used. -/
def keyFailure? (e : Entity) : Option Failure :=
  if e.primaryKeys.isEmpty then some (.entity "incorrect primary key setup: no primary key")
  else
    (e.primaryKeys.find? fun key => (e.value? key).isNone).map fun key =>
      .entity ("primary key '" ++ key ++ "' is not a column of the entity")

/-- The key conditions of an entity compare each key with its value, up to the first key that is no
column. -/
theorem keyConditions_spec (e : Entity) (keys : List String) :
    match keys.find? fun key => (e.value? key).isNone with
    | some key => keyConditions e keys =
        .error (.entity ("primary key '" ++ key ++ "' is not a column of the entity"))
    | none => ∃ pairs : List (String × Value), pairs.map Prod.fst = keys ∧
        (∀ pair ∈ pairs, e.value? pair.1 = some pair.2) ∧
        keyConditions e keys = .ok (keyComparisons pairs) := by
  induction keys with
  | nil => exact ⟨[], rfl, by simp, rfl⟩
  | cons key rest ih =>
    cases hvalue : e.value? key with
    | none => simp [hvalue, keyConditions]
    | some value =>
      -- The first key is a column, so the rest decides.
      rw [List.find?_cons_of_neg (by simp [hvalue])]
      cases hmissing : rest.find? fun key => (e.value? key).isNone with
      | some missing =>
        rw [hmissing] at ih
        simp [keyConditions, hvalue, ih, Except.map]
      | none =>
        rw [hmissing] at ih
        obtain ⟨pairs, rfl, hvalues, hconditions⟩ := ih
        refine ⟨(key, value) :: pairs, rfl, ?_, ?_⟩
        · intro pair hpair
          rcases List.mem_cons.1 hpair with rfl | hpair
          · exact hvalue
          · exact hvalues pair hpair
        · simp [keyConditions, hvalue, hconditions, Except.map, keyComparisons]

/-- An entity whose key cannot be used has no condition. -/
theorem keyCondition_of_failure {e : Entity} {f : Failure} (h : keyFailure? e = some f) :
    keyCondition e = .error f := by
  unfold keyFailure? at h
  unfold keyCondition
  by_cases hempty : e.primaryKeys.isEmpty = true
  · rw [if_pos hempty] at h ⊢
    cases h
    rfl
  · -- There is a key, so what fails is a key that is no column.
    rw [if_neg hempty] at h ⊢
    have hspec := keyConditions_spec e e.primaryKeys
    cases hmissing : e.primaryKeys.find? fun key => (e.value? key).isNone with
    | none => simp [hmissing] at h
    | some key =>
      rw [hmissing] at h hspec
      cases h
      rw [hspec]
      rfl

/-- A key that can be used is compared column by column with the values of the entity. -/
theorem exists_keyCondition {e : Entity} (h : keyFailure? e = none) :
    ∃ pairs : List (String × Value), pairs ≠ [] ∧ pairs.map Prod.fst = e.primaryKeys ∧
      (∀ pair ∈ pairs, e.value? pair.1 = some pair.2) ∧
      keyCondition e = .ok (combine (keyComparisons pairs)) := by
  unfold keyFailure? at h
  by_cases hempty : e.primaryKeys.isEmpty = true
  · simp [hempty] at h
  · have hspec := keyConditions_spec e e.primaryKeys
    cases hmissing : e.primaryKeys.find? fun key => (e.value? key).isNone with
    | some key => simp [hempty, hmissing] at h
    | none =>
      rw [hmissing] at hspec
      obtain ⟨pairs, hkeys, hvalues, hconditions⟩ := hspec
      refine ⟨pairs, ?_, hkeys, hvalues, ?_⟩
      · rintro rfl
        exact hempty (by simp [← hkeys])
      · rw [keyCondition, if_neg hempty, hconditions]
        rfl

/-! ## Statements of usable arguments -/

/-- Calls that make a complete statement of usable arguments build it: submitting it comes down to
running the sentence that the calls say. -/
theorem exists_of_valid (calls : List Call) (valid : ∀ call ∈ calls, call.Valid)
    (complete : calls.filterMap Call.part? ∈ completeShapes)
    (trees : ∀ f, Call.filter f ∈ calls → ∃ condition, f = .tree condition)
    (nothing_appended : lastAppended calls = none) :
    ∃ sentence own b, Says (calls.filter (·.part?.isSome)) sentence ∧
      b.params.entries = sentence.bindings ∧
      (∀ m, b.plan m = .ask own (.run m sentence.text b.params) .ok) ∧
      ∀ {α : Type} (next : Builder → Plan α),
        submitPlan (Builder.sequence calls) next = next b := by
  have hbegun : Begun (calls.filterMap Call.part?) := begun_of_complete _ complete
  have haccepts : new.Accepts calls := (outcomes_isOk_iff_begun valid).2 hbegun
  obtain ⟨d, htracks, hshape⟩ := begun_of_run (run_of_outcomes haccepts)
  rw [← Draft.shape_of_ofCalls htracks.draft] at complete
  obtain ⟨sentence, hsays, htext, hentries⟩ := says_of_tracks trees htracks complete
  -- Nobody has asked for the statement yet, so its text is the one that is rendered now.
  have hrender : (new.afterAll calls).currentText = .ok sentence.text := by
    have hopen : (new.afterAll calls).rendered = none := by
      simpa [isRendered] using isRendered_afterAll valid
    rw [currentText, hopen, ← htext]
    show (new.afterAll calls).render = _
    rw [render_of_tracks htracks hshape]
    exact rendering_eq_ok_iff.2 ⟨complete, by simp [nothing_appended]⟩
  obtain ⟨own, hfinish⟩ := finish_of_text hrender
  refine ⟨sentence, own, new.afterAll calls, hsays, ?_, ?_, ?_⟩
  · rw [htracks.agrees.params, hentries]
  · intro m
    rw [plan, hfinish]
  · intro α next
    rw [submitPlan, sequence_of_accepts haccepts]

theorem resolve_target {r : Repository} (table : Text.isBlank r.table = false) (c : Clause) :
    r.target.resolve c = .ok r.table := by
  have hblank : ¬ Text.isBlank r.target.table = true := by
    rw [target, Target.table, table]
    exact Bool.false_ne_true
  rw [Target.resolve, if_neg hblank]
  rfl

theorem resolveTargets_target {r : Repository} (table : Text.isBlank r.table = false) (c : Clause) :
    resolveTargets [r.target] c = .ok [r.table] := by
  rw [resolveTargets, if_neg (by simp), List.mapM_cons, List.mapM_nil, resolve_target table]
  rfl

/-- A complete tree can be written as a condition. -/
theorem valid_filter {c : Condition} (h : c.Complete) : (Call.filter (.tree c)).Valid := by
  have hok := (Condition.compile_isOk_iff c .empty).2 h
  cases htext : (c.compile .empty).1 with
  | ok text => exact ⟨text, htext⟩
  | error e =>
    rw [htext] at hok
    cases hok

/-! ## Operations -/

end Repository

/-- The terms compare the primary key columns of the entity in their order, each with its value in
the entity. -/
structure Entity.KeyedBy (e : Entity) (terms : List KeyTerm) : Prop where
  columns : terms.map KeyTerm.column = e.primaryKeys
  values : ∀ t ∈ terms, e.value? t.column = some t.value

/-- The bindings of a row and of key terms, none of which is under the name of another. -/
structure Params.Holds (params : Params) (row : Pairs Value) (terms : List KeyTerm) : Prop where
  entries : params.entries = row ++ terms.map KeyTerm.binding
  distinct : (Pairs.names row ++ terms.map KeyTerm.name).Nodup
  row : ∀ column value, (column, value) ∈ row → params.get? (placeholder column) = some value
  terms : ∀ t ∈ terms, params.get? (placeholder t.name) = some t.value

theorem Params.holds_of_entries {params : Params} {row : Pairs Value} {terms : List KeyTerm}
    (h : params.entries = row ++ terms.map KeyTerm.binding) : params.Holds row terms := by
  have hfinds : params.Finds (row ++ terms.map KeyTerm.binding) := h ▸ params.finds_entries
  refine ⟨h, ?_, ?_, ?_⟩
  · have hnames : Pairs.names params.entries = Pairs.names row ++ terms.map KeyTerm.name := by
      rw [h, Pairs.names_append]
      simp [Pairs.names, KeyTerm.binding]
    rw [← hnames]
    exact params.distinct
  · intro column value hmem
    exact hfinds.of_append_left (column, value) hmem
  · intro t ht
    exact hfinds.of_append_right t.binding (List.mem_map_of_mem ht)

namespace Repository

open Builder

/-- The calls of the UPDATE of a keyed row. -/
theorem submitPlan_update {r : Repository} {e : Entity} {keys : List (String × Value)}
    (table : Text.isBlank r.table = false) (hkeys : keys ≠ [])
    (key : ∀ pair ∈ keys, Text.isBlank pair.1 = false)
    (columns : ∀ column ∈ Pairs.names e.columns, Text.isBlank column = false)
    (some_value : ∃ pair ∈ e.columns, pair.2.isNull = false) :
    ∃ row terms own params, e.Writes row ∧ terms.map KeyTerm.key = keys ∧
      params.Holds row terms ∧
      submitPlan (r.updateStatement e (combine (keyComparisons keys))) (·.plan .execute) =
        .ask own (.run .execute ("UPDATE " ++ r.table ++ " SET " ++
          Text.join ", " ((Pairs.names row).map fun c => c ++ " = " ++ placeholder c) ++
          " WHERE " ++ keyText terms ++ " ") params) .ok := by
  obtain ⟨row, hrow, hwrites⟩ := RowData.exists_row_of_entity .updateSet columns some_value
  have htable := resolve_target table .update
  have hcomplete := complete_combine hkeys key
  generalize hc : combine (keyComparisons keys) = c at hcomplete ⊢
  obtain ⟨sentence, own, b, hsays, hentries, hplan, hsubmit⟩ :=
    exists_of_valid [.update r.target, .set (.entity e), .filter (.tree c)]
      (by simpa using ⟨⟨_, htable⟩, ⟨_, hrow⟩, valid_filter hcomplete⟩)
      (by simp [Call.part?, Call.clause?, completeShapes]) (by simp) rfl
  -- What the calls say is the table, the row and the terms of the key.
  cases hsays with
  | update htable' hrow' bound =>
    cases htable.symm.trans htable'
    cases hrow.symm.trans hrow'
    obtain ⟨terms, rfl, htext, hbindings⟩ := exists_terms_of_combine hc.symm
    refine ⟨row, terms, own, b.params, hwrites, rfl, Params.holds_of_entries ?_, ?_⟩
    · rw [hentries, ← hbindings]
      rfl
    · rw [updateStatement_eq_sequence, hsubmit, hplan, ← htext]
      rfl

/-- The calls of the DELETE of a keyed row. -/
theorem submitPlan_delete {r : Repository} {keys : List (String × Value)}
    (table : Text.isBlank r.table = false) (hkeys : keys ≠ [])
    (key : ∀ pair ∈ keys, Text.isBlank pair.1 = false) :
    ∃ terms own params, terms.map KeyTerm.key = keys ∧ params.Holds [] terms ∧
      submitPlan (r.deleteStatement (combine (keyComparisons keys))) (·.plan .execute) =
        .ask own (.run .execute
          ("DELETE FROM " ++ r.table ++ " WHERE " ++ keyText terms ++ " ") params) .ok := by
  have htables := resolveTargets_target table .fromTables
  have hcomplete := complete_combine hkeys key
  generalize hc : combine (keyComparisons keys) = c at hcomplete ⊢
  obtain ⟨sentence, own, b, hsays, hentries, hplan, hsubmit⟩ :=
    exists_of_valid [.delete, .fromTables [r.target], .filter (.tree c)]
      (by simpa using ⟨trivial, ⟨_, htables⟩, valid_filter hcomplete⟩)
      (by simp [Call.part?, Call.clause?, completeShapes]) (by simp) rfl
  cases hsays with
  | delete htables' bound =>
    cases htables.symm.trans htables'
    obtain ⟨terms, rfl, htext, hbindings⟩ := exists_terms_of_combine hc.symm
    refine ⟨terms, own, b.params, rfl, Params.holds_of_entries ?_, ?_⟩
    · rw [hentries, ← hbindings]
      rfl
    · rw [deleteStatement_eq_sequence, hsubmit, hplan, ← htext]
      rfl

/-- The calls of the SELECT of a keyed row. -/
theorem submitPlan_select {r : Repository} {keys : List (String × Value)}
    (table : Text.isBlank r.table = false) (hkeys : keys ≠ [])
    (key : ∀ pair ∈ keys, Text.isBlank pair.1 = false) :
    ∃ terms own params, terms.map KeyTerm.key = keys ∧ params.Holds [] terms ∧
      submitPlan (r.selectWhere (combine (keyComparisons keys))) (·.firstAsPlan r.ofRow) =
        .ask own (.run .queryOne
          ("SELECT * FROM " ++ r.table ++ " WHERE " ++ keyText terms ++ " ") params)
          (readFirst r.ofRow) := by
  have htables := resolveTargets_target table .fromTables
  have hcomplete := complete_combine hkeys key
  generalize hc : combine (keyComparisons keys) = c at hcomplete ⊢
  obtain ⟨sentence, own, b, hsays, hentries, hplan, hsubmit⟩ :=
    exists_of_valid [.select .all, .fromTables [r.target], .filter (.tree c)]
      (by simpa using ⟨⟨_, rfl⟩, ⟨_, htables⟩, valid_filter hcomplete⟩)
      (by simp [Call.part?, Call.clause?, completeShapes]) (by simp) rfl
  cases hsays with
  | selectWhere hcolumns htables' bound =>
    cases hcolumns
    cases htables.symm.trans htables'
    obtain ⟨terms, rfl, htext, hbindings⟩ := exists_terms_of_combine hc.symm
    refine ⟨terms, own, b.params, rfl, Params.holds_of_entries ?_, ?_⟩
    · rw [hentries, ← hbindings]
      rfl
    · have hstart : "SELECT * FROM " = "SELECT " ++ "*" ++ " FROM " := by decide
      rw [selectWhere_eq_sequence, hsubmit, firstAsPlan, hplan, ← htext, hstart]
      rfl

/-- A key can be used exactly if the entity has it. -/
theorem keyFailure?_eq_none_iff {e : Entity} : keyFailure? e = none ↔ e.HasKey := by
  have hcolumn : ∀ key, ¬ (e.value? key).isNone = true ↔ key ∈ Pairs.names e.columns := by
    intro key
    rw [← Pairs.find?_isSome_iff, Entity.value?]
    cases Pairs.find? key e.columns <;> simp
  unfold keyFailure?
  constructor
  · intro h
    by_cases hempty : e.primaryKeys.isEmpty = true
    · rw [if_pos hempty] at h
      cases h
    · rw [if_neg hempty, Option.map_eq_none_iff, List.find?_eq_none] at h
      exact ⟨by simpa using hempty, fun key hkey => (hcolumn key).1 (h key hkey)⟩
  · intro h
    have hfound := List.find?_eq_none.2 fun key hkey => (hcolumn key).2 (h.columns key hkey)
    rw [if_neg (by simpa using h.some_key), hfound]
    rfl

/-- A key that cannot be used is an error of the entity. -/
theorem exists_keyFailure? {e : Entity} (h : ¬ e.HasKey) :
    ∃ message, keyFailure? e = some (.entity message) := by
  rw [← keyFailure?_eq_none_iff] at h
  unfold keyFailure? at h ⊢
  by_cases hempty : e.primaryKeys.isEmpty = true
  · exact ⟨_, if_pos hempty⟩
  · rw [if_neg hempty] at h ⊢
    cases hmissing : e.primaryKeys.find? fun key => (e.value? key).isNone with
    | none => exact absurd (by rw [hmissing]; rfl) h
    | some key => exact ⟨_, rfl⟩

/-- The columns of a key with the entity's values, as a condition compares them. -/
theorem exists_key {e : Entity} (h : e.HasKey)
    (columns : ∀ column ∈ Pairs.names e.columns, Text.isBlank column = false) :
    ∃ pairs : List (String × Value), pairs ≠ [] ∧
      (∀ pair ∈ pairs, Text.isBlank pair.1 = false) ∧
      keyCondition e = .ok (combine (keyComparisons pairs)) ∧
      ∀ terms : List KeyTerm, terms.map KeyTerm.key = pairs → e.KeyedBy terms := by
  obtain ⟨pairs, hpairs, hkeys, hvalues, hcondition⟩ :=
    exists_keyCondition (keyFailure?_eq_none_iff.2 h)
  refine ⟨pairs, hpairs, ?_, hcondition, ?_⟩
  · intro pair hpair
    -- The columns of the key are columns of the entity, and none of these is blank.
    have hkey : pair.1 ∈ e.primaryKeys := hkeys ▸ List.mem_map_of_mem hpair
    exact columns _ (h.columns _ hkey)
  · rintro terms rfl
    rw [List.map_map] at hkeys
    exact ⟨hkeys, fun t ht => hvalues t.key (List.mem_map_of_mem ht)⟩

theorem update_asks_once {r : Repository} {e : Entity} (table : Text.isBlank r.table = false)
    (hkey : e.HasKey) (columns : ∀ column ∈ Pairs.names e.columns, Text.isBlank column = false)
    (some_value : ∃ pair ∈ e.columns, pair.2.isNull = false) :
    ∃ row terms params, e.Writes row ∧ e.KeyedBy terms ∧ params.Holds row terms ∧
      AsksOnce (fun _ => r.update e) (.run .execute ("UPDATE " ++ r.table ++ " SET " ++
        Text.join ", " ((Pairs.names row).map fun c => c ++ " = " ++ placeholder c) ++
        " WHERE " ++ keyText terms ++ " ") params) .ok := by
  obtain ⟨pairs, hpairs, hblank, hcondition, hkeyed⟩ := exists_key hkey columns
  obtain ⟨row, terms, own, params, hwrites, hterms, hholds, hplan⟩ :=
    submitPlan_update table hpairs hblank columns some_value
  have hupdate : r.updatePlan e = submitPlan
      (r.updateStatement e (combine (keyComparisons pairs))) (·.plan .execute) := by
    rw [updatePlan, keyedPlan, hcondition]
  exact ⟨row, terms, params, hwrites, hkeyed terms hterms, hholds,
    .of_plan (r.update_eq_carryOut e) (hupdate.trans hplan)⟩

theorem delete_asks_once {r : Repository} {e : Entity} (table : Text.isBlank r.table = false)
    (hkey : e.HasKey) (columns : ∀ column ∈ Pairs.names e.columns, Text.isBlank column = false) :
    ∃ terms params, e.KeyedBy terms ∧ params.Holds [] terms ∧
      AsksOnce (fun _ => r.delete e) (.run .execute
        ("DELETE FROM " ++ r.table ++ " WHERE " ++ keyText terms ++ " ") params) .ok := by
  obtain ⟨pairs, hpairs, hblank, hcondition, hkeyed⟩ := exists_key hkey columns
  obtain ⟨terms, own, params, hterms, hholds, hplan⟩ := submitPlan_delete table hpairs hblank
  have hdelete : r.deletePlan e = submitPlan
      (r.deleteStatement (combine (keyComparisons pairs))) (·.plan .execute) := by
    rw [deletePlan, keyedPlan, hcondition]
  exact ⟨terms, params, hkeyed terms hterms, hholds,
    .of_plan (r.delete_eq_carryOut e) (hdelete.trans hplan)⟩

theorem get_asks_once {r : Repository} {keys : List (String × Value)}
    (table : Text.isBlank r.table = false) (hkeys : keys ≠ [])
    (columns : ∀ key ∈ keys, Text.isBlank key.1 = false) :
    ∃ terms params, terms.map KeyTerm.key = keys ∧ params.Holds [] terms ∧
      AsksOnce (fun _ => r.get keys) (.run .queryOne
        ("SELECT * FROM " ++ r.table ++ " WHERE " ++ keyText terms ++ " ") params)
        (readFirst r.ofRow) := by
  obtain ⟨terms, own, params, hterms, hholds, hplan⟩ := submitPlan_select table hkeys columns
  have hget : r.getPlan keys = submitPlan
      (r.selectWhere (combine (keyComparisons keys))) (·.firstAsPlan r.ofRow) := by
    rw [getPlan, if_neg (by simpa using hkeys)]
  exact ⟨terms, params, hterms, hholds, .of_plan (r.get_eq_carryOut keys) (hget.trans hplan)⟩

/-- An operation on an entity without a usable key fails before it builds anything. -/
theorem refuses_of_keyFailure? {e : Entity} {f : Failure} (h : keyFailure? e = some f)
    (r : Repository) :
    Refuses (fun _ => r.update e) f ∧ Refuses (fun _ => r.delete e) f := by
  have hcondition := keyCondition_of_failure h
  constructor
  · intro σ db s
    show r.update e db s = _
    rw [update, hcondition]
    rfl
  · intro σ db s
    show r.delete e db s = _
    rw [delete, hcondition]
    rfl

/-- An UPDATE or a DELETE of an entity that has its key makes exactly one request. Its condition
compares the primary keys in their order, each with the entity's value for it, and its row binds
every column to that column's own value: no name is bound twice, though the key columns also stand
in the row. Looking up a key does the same with the values given for it. Without a key, or with one
that is not a column, an operation fails with an error of the entity and asks the database
nothing. -/
theorem operations_address_the_keyed_row (r : Repository) :
    (∀ e : Entity, Text.isBlank r.table = false → e.HasKey →
      (∀ column ∈ Pairs.names e.columns, Text.isBlank column = false) →
      (∃ pair ∈ e.columns, pair.2.isNull = false) →
      ∃ row terms params, e.Writes row ∧ e.KeyedBy terms ∧ params.Holds row terms ∧
        AsksOnce (fun _ => r.update e) (.run .execute ("UPDATE " ++ r.table ++ " SET " ++
          Text.join ", " ((Pairs.names row).map fun c => c ++ " = " ++ placeholder c) ++
          " WHERE " ++ keyText terms ++ " ") params) .ok) ∧
    (∀ e : Entity, Text.isBlank r.table = false → e.HasKey →
      (∀ column ∈ Pairs.names e.columns, Text.isBlank column = false) →
      ∃ terms params, e.KeyedBy terms ∧ params.Holds [] terms ∧
        AsksOnce (fun _ => r.delete e) (.run .execute
          ("DELETE FROM " ++ r.table ++ " WHERE " ++ keyText terms ++ " ") params) .ok) ∧
    (∀ keys : List (String × Value), Text.isBlank r.table = false → keys ≠ [] →
      (∀ key ∈ keys, Text.isBlank key.1 = false) →
      ∃ terms params, terms.map KeyTerm.key = keys ∧ params.Holds [] terms ∧
        AsksOnce (fun _ => r.get keys) (.run .queryOne
          ("SELECT * FROM " ++ r.table ++ " WHERE " ++ keyText terms ++ " ") params)
          (readFirst r.ofRow)) ∧
    (∀ e : Entity, ¬ e.HasKey → ∃ message, keyFailure? e = some (.entity message) ∧
      Refuses (fun _ => r.update e) (.entity message) ∧
      Refuses (fun _ => r.delete e) (.entity message)) ∧
    Refuses (fun _ => r.get [])
      (.entity ("no key given to look up a row of " ++ r.table)) := by
  refine ⟨?_, ?_, ?_, ?_, ?_⟩
  · intro e table hkey columns some_value
    exact update_asks_once table hkey columns some_value
  · intro e table hkey columns
    exact delete_asks_once table hkey columns
  · intro keys table hkeys columns
    exact get_asks_once table hkeys columns
  · intro e hkey
    obtain ⟨message, hfailure⟩ := exists_keyFailure? hkey
    exact ⟨message, hfailure, refuses_of_keyFailure? hfailure r⟩
  · intro σ db s
    rfl

/-- A table whose rows have a key of two columns, one named like the other with a number. -/
def editions : Repository where
  table := "editions"
  ofRow := fun row => .ok ⟨row.columns, ["id", "id0"]⟩

/-- An entity of that table with a column that is not set. -/
def secondEdition : Entity where
  columns := [("id", .int 7), ("id0", .int 2), ("note", .null), ("title", .text "Lean")]
  primaryKeys := ["id", "id0"]

/-- The UPDATE of that entity: each key column is bound twice. -/
def secondEditionText : String :=
  "UPDATE editions SET id = :id, id0 = :id0, title = :title WHERE (id = :id1 AND id0 = :id02) "

/-- The bindings of that UPDATE. -/
def secondEditionParams : Params :=
  ⟨[("id", .int 7), ("id0", .int 2), ("title", .text "Lean"), ("id1", .int 7), ("id02", .int 2)],
    by decide⟩

theorem second_edition_is_addressed :
    AsksOnce (fun _ => editions.update secondEdition)
      (.run .execute secondEditionText secondEditionParams) .ok := by
  obtain ⟨row, terms, params, -, -, -, hasks⟩ :=
    (operations_address_the_keyed_row editions).1 secondEdition (by decide)
      ⟨by decide, by decide⟩ (by decide) (by decide)
  have hseen : (editions.update secondEdition (Database.prepared {}).recording ((), [])).state.2 =
      [.run .execute secondEditionText secondEditionParams] := by decide +kernel
  exact hasks.of_seen hseen

end Repository

end BoundSql
