import BoundSql.Proofs.Statement.Coherence
import BoundSql.Proofs.Statement.Sentence

/-!
# Recorded conditions

What becomes of a condition after it was recorded. Its text stays, and so do the values of its
comparisons, unless the rules let a row be given later: SET binds the columns of its row under their
own names and VALUES replaces all bindings. Comparisons take names that are free, and rows do not.

Main statement: `recorded_condition_keeps_its_values`.
-/

namespace BoundSql

/-- The clauses that bind a row. -/
def Clause.rows : List Clause := [insertValues, updateSet]

/-- WHERE starts no statement, and a statement that takes a row as well needs it before WHERE. -/
def RuleTable.RowsBeforeFilter (table : RuleTable) : Prop :=
  ∀ k rules, table.rules? k = some rules → rules.establishing ≠ .filter ∧
    (.filter ∈ rules.order → ∀ c ∈ Clause.rows,
      c ∈ rules.order → c ∈ rules.prerequisitesOf .filter)

/-- The standard rules take rows before conditions. -/
theorem rowsBeforeFilter_standard : RuleTable.standard.RowsBeforeFilter := by
  intro k rules hrules
  cases k <;> cases hrules <;> decide

namespace Builder

/-! ## Names -/

/-- What a name that was bound to `value` is bound to after a call that succeeds. -/
def Call.rebind (name : String) (value : Option Value) : Call → Option Value
  | .values data =>
    match data.bindable .insertValues with
    | .ok row => Pairs.find? name row
    | .error _ => value
  | .set data =>
    match data.bindable .updateSet with
    | .ok row => (Pairs.find? name row).or value
    | .error _ => value
  | _ => value

/-- Whether a call may change what a name is bound to. -/
def Call.Rebinds (name : String) : Call → Prop
  | .values _ => True
  | .set data => ∃ row, data.bindable .updateSet = .ok row ∧ name ∈ Pairs.names row
  | _ => False

/-- Only calls that give a row rebind names. -/
theorem clause?_of_rebinds {name : String} {call : Call} (h : call.Rebinds name) :
    ∃ c ∈ Clause.rows, call.clause? = some c := by
  cases call with
  | values data => exact ⟨.insertValues, by decide, rfl⟩
  | set data => exact ⟨.updateSet, by decide, rfl⟩
  | _ => exact False.elim h

/-- A call without a clause rebinds nothing. -/
theorem not_rebinds_of_no_clause {name : String} {call : Call} (h : call.clause? = none) :
    ¬ call.Rebinds name := by
  intro hrebinds
  obtain ⟨c, -, hc⟩ := clause?_of_rebinds hrebinds
  rw [h] at hc
  cases hc

/-- A call that does not rebind a name leaves what it is bound to. -/
theorem rebind_of_not_rebinds {name : String} {call : Call} (h : ¬ call.Rebinds name)
    (value : Option Value) : call.rebind name value = value := by
  cases call with
  | values data => exact absurd trivial h
  | set data =>
    cases hrow : data.bindable .updateSet with
    | error e => simp [Call.rebind, hrow]
    | ok row =>
      have absent : name ∉ Pairs.names row := fun hname => h ⟨row, hrow, hname⟩
      simp [Call.rebind, hrow, Pairs.find?_of_not_mem absent]
  | _ => rfl

/-- Calls none of which rebinds a name leave it as it was. -/
theorem foldl_rebind_of_not_rebinds {name : String} {calls : List Call}
    (h : ∀ call ∈ calls, ¬ call.Rebinds name) (value : Option Value) :
    calls.foldl (Call.rebind name) value = value := by
  induction calls generalizing value with
  | nil => rfl
  | cons call rest ih =>
    rw [List.forall_mem_cons] at h
    rw [List.foldl_cons, rebind_of_not_rebinds h.1, ih h.2]

/-! ## Recorded conditions -/

/-- A statement that has a WHERE clause with a text. -/
structure Recorded (b : Builder) (text : String) : Prop where
  clause : b.clauses .filter = some text
  kind : b.kind ≠ none

/-- A recorded condition is a WHERE clause. -/
theorem Recorded.has {b : Builder} {text : String} (h : b.Recorded text) :
    b.has .filter = true := by
  rw [Builder.has, h.clause]
  rfl

/-- A recorded condition stays recorded under every call. -/
theorem Recorded.step {b b' : Builder} {text : String} {call : Call} {r : Response}
    (h : b.Recorded text) (hstep : Step b call r b') : b'.Recorded text := by
  obtain ⟨k, hk⟩ := Option.ne_none_iff_exists'.1 h.kind
  exact ⟨hstep.clauses h.clause, by simp [hstep.kind hk]⟩

/-- Once a condition has been recorded, only rows change what a name is bound to. -/
theorem Recorded.get?_step {b b' : Builder} {text : String} {call : Call} {r : Response}
    (h : b.Recorded text) (hstep : Step b call r b') (name : String) :
    b'.params.get? (placeholder name) = call.rebind name (b.params.get? (placeholder name)) := by
  cases hstep with
  | @clause _ c w hc legal written =>
    show w.params.get? (placeholder name) = _
    -- VALUES replaces all bindings, SET adds to them, and the other clauses bind nothing
    cases call with
    | values data =>
      obtain ⟨row, hrow, rfl⟩ := exists_of_map_eq_ok written
      simp only [Call.rebind, hrow]
      exact Params.get?_ofList_marked (RowData.nodup_of_bindable hrow) name
    | set data =>
      obtain ⟨row, hrow, rfl⟩ := exists_of_map_eq_ok written
      simp only [Call.rebind, hrow]
      exact Params.get?_bindAll_marked (RowData.nodup_of_bindable hrow) b.params name
    | filter f =>
      -- There is a WHERE clause already.
      obtain ⟨-, habsent, -⟩ := legal_of_not_refused legal
      cases hc
      rw [h.has] at habsent
      cases habsent
    | insertInto t =>
      obtain ⟨table, -, rfl⟩ := exists_of_map_eq_ok written
      rfl
    | select columns =>
      obtain ⟨columns, -, rfl⟩ := exists_of_map_eq_ok written
      rfl
    | fromTables ts =>
      obtain ⟨tables, -, rfl⟩ := exists_of_map_eq_ok written
      rfl
    | update t =>
      obtain ⟨table, -, rfl⟩ := exists_of_map_eq_ok written
      rfl
    | delete =>
      cases written
      rfl
    | append sql => cases hc
    | setQuery sql bound => cases hc
    | statement => cases hc
    | bindings => cases hc
    | build => cases hc
  | append sql fresh => rfl
  -- a whole statement is taken only where nothing has been started
  | setQuery sql bound fresh hk => exact absurd hk h.kind
  | render ha fresh text =>
    rw [rebind_of_not_rebinds (not_rebinds_of_no_clause (clause?_of_answer ha))]
  | again ha kept =>
    rw [rebind_of_not_rebinds (not_rebinds_of_no_clause (clause?_of_answer ha))]

/-- A recorded condition stays recorded on every run. -/
theorem Recorded.run {b last : Builder} {text : String} {later : List Call}
    (h : b.Recorded text) (hrun : Run b later last) : last.Recorded text := by
  induction hrun with
  | start => exact h
  | call _ hcall ih => exact ih.step (apply_eq_ok_iff.1 hcall)

/-- What a name is bound to after a run is read off the calls. -/
theorem Recorded.get?_run {b last : Builder} {text : String} {later : List Call}
    (h : b.Recorded text) (hrun : Run b later last) (name : String) :
    last.params.get? (placeholder name) =
      later.foldl (Call.rebind name) (b.params.get? (placeholder name)) := by
  induction hrun with
  | start => rfl
  | call hbefore hcall ih =>
    -- The condition is still recorded where the last call is made.
    rw [(h.run hbefore).get?_step (apply_eq_ok_iff.1 hcall), ih, List.foldl_append]
    rfl

/-- Recording a condition gives a WHERE clause whose comparisons are bound to their own values. -/
theorem recorded_of_step {b b' : Builder} {condition : Condition} {r : Response}
    (h : Step b (.filter (.tree condition)) r b') :
    ∃ bound : BoundCondition, bound.condition = condition ∧
      b'.Recorded (filterText bound.text) ∧ b'.params.Finds bound.entries := by
  cases h with
  | @clause _ c w hc legal written =>
    cases hc
    obtain ⟨-, -, hlegal⟩ := legal_of_not_refused legal
    obtain ⟨bound, hcondition, htext, hentries⟩ := exists_of_write_tree written
    refine ⟨bound, hcondition, ⟨?_, hlegal.kind_extend w⟩, ?_⟩
    · show some w.text = _
      rw [htext]
    · show w.params.Finds bound.entries
      -- the bindings of the comparisons were appended to those of the statement
      have hfinds : w.params.Finds (b.params.entries ++ bound.entries) :=
        hentries ▸ w.params.finds_entries
      exact hfinds.of_append_right
  | render ha fresh text => cases ha
  | again ha kept => cases ha

/-! ## Rows before conditions -/

/-- Every row that a statement of this kind takes is there. -/
def Supplied (b : Builder) : Prop :=
  ∃ k rules, b.kind = some k ∧ b.table.rules? k = some rules ∧
    ∀ c ∈ Clause.rows, c ∈ rules.order → b.has c = true

/-- Where rows come before conditions, a statement with a condition has been given its rows. -/
theorem supplied_of_step {b b' : Builder} {f : Filter} {r : Response}
    (table : b.table.RowsBeforeFilter) (h : Step b (.filter f) r b') : b'.Supplied := by
  cases h with
  | @clause _ c w hc legal written =>
    cases hc
    obtain ⟨-, -, hlegal⟩ := legal_of_not_refused legal
    cases hlegal with
    | starts hstart hk =>
      -- WHERE would start a statement of some kind.
      obtain ⟨rules, hrules, hestablishing⟩ := RuleTable.exists_of_startedBy? hstart
      exact absurd hestablishing (table _ rules hrules).1
    -- the rules ask for the rows before WHERE, so that they are there
    | @follows k rules hstart hk hrules allowed supported =>
      refine ⟨k, rules, (kind_extend_of_follows hstart w).trans hk, hrules, ?_⟩
      intro c hc hallowed
      apply has_extend_of_has
      exact supported c ((table k rules hrules).2 allowed c hc hallowed)
  | render ha fresh text => cases ha
  | again ha kept => cases ha

/-- A statement that has its rows keeps them. -/
theorem Supplied.step {b b' : Builder} {call : Call} {r : Response} (h : b.Supplied)
    (hstep : Step b call r b') : b'.Supplied := by
  obtain ⟨k, rules, hk, hrules, hrows⟩ := h
  refine ⟨k, rules, hstep.kind hk, ?_, ?_⟩
  · rw [Draft.table_of_step hstep]
    exact hrules
  · intro c hc hallowed
    exact hstep.has (hrows c hc hallowed)

/-- A statement that has its rows takes no further one. -/
theorem Supplied.not_rebinds {b b' : Builder} {call : Call} {r : Response} (h : b.Supplied)
    (hstep : Step b call r b') (name : String) : ¬ call.Rebinds name := by
  obtain ⟨k, rules, hk, hrules, hrows⟩ := h
  intro hrebinds
  obtain ⟨c, hc, hcall⟩ := clause?_of_rebinds hrebinds
  cases hstep with
  | @clause _ c' w hc' legal written =>
    cases hcall.symm.trans hc'
    obtain ⟨-, habsent, hlegal⟩ := legal_of_not_refused legal
    cases hlegal with
    | starts hstart hnone =>
      rw [hk] at hnone
      cases hnone
    | follows hstart hk' hrules' allowed supported =>
      -- The kind takes the row, so it has been given already.
      cases hk.symm.trans hk'
      cases hrules.symm.trans hrules'
      rw [hrows c hc allowed] at habsent
      cases habsent
  | append sql fresh => cases hcall
  | setQuery sql bound fresh hnone => cases hcall
  | render ha fresh text => exact not_rebinds_of_no_clause (clause?_of_answer ha) hrebinds
  | again ha kept => exact not_rebinds_of_no_clause (clause?_of_answer ha) hrebinds

/-- On no run does a statement that has its rows take another. -/
theorem Supplied.run {b last : Builder} {later : List Call} (h : b.Supplied)
    (hrun : Run b later last) :
    last.Supplied ∧ ∀ call ∈ later, ∀ name, ¬ call.Rebinds name := by
  induction hrun with
  | start => exact ⟨h, by simp⟩
  | @call calls call b b' r _ hcall ih =>
    obtain ⟨hsupplied, hbefore⟩ := ih
    have hstep : Step b call r b' := apply_eq_ok_iff.1 hcall
    refine ⟨hsupplied.step hstep, ?_⟩
    intro next hnext
    rcases List.mem_append.1 hnext with hold | hnew
    · exact hbefore next hold
    · cases List.mem_singleton.1 hnew
      exact hsupplied.not_rebinds hstep

/-! ## Later calls -/

/-- What is left of a recorded condition after further calls. -/
structure Keeps (last : Builder) (bound : BoundCondition) (later : List Call) : Prop where
  clause : last.clauses .filter = some (filterText bound.text)
  /-- The calls say what the placeholder of a comparison is bound to. -/
  follows : ∀ leaf ∈ bound.entries, last.params.get? (placeholder leaf.1) =
    later.foldl (Call.rebind leaf.1) (some leaf.2)
  /-- It is the comparison's own value unless a call rebinds its name. -/
  own : ∀ leaf ∈ bound.entries, (∀ call ∈ later, ¬ call.Rebinds leaf.1) →
    last.params.get? (placeholder leaf.1) = some leaf.2
  /-- A built statement has these bindings, and the condition where its kind writes one. -/
  built : ∀ {q : BuiltQuery} {events : List Event},
    last.outcome .build = .ok ⟨.built q, events⟩ → q.params = last.params ∧
      ∀ k rules, last.kind = some k → last.table.rules? k = some rules → .filter ∈ rules.order →
        ∃ front behind, q.statement = front ++ filterText bound.text ++ behind

/-- The text of a clause that is written stands in the text of the statement. -/
theorem exists_of_mem_order {b : Builder} {c : Clause} {text : String} {order : List Clause}
    (hc : b.clauses c = some text) (horder : c ∈ order) :
    ∃ front behind, String.join (b.fragments order) = front ++ text ++ behind := by
  have hmem : text ∈ b.fragments order := List.mem_filterMap.2 ⟨c, horder, hc⟩
  obtain ⟨before, after, hsplit⟩ := List.append_of_mem hmem
  refine ⟨String.join before, String.join after, ?_⟩
  rw [hsplit, String.join_append, String.join_cons, String.append_assoc]

/-- A built statement has the bindings of the builder, with the condition in its text. -/
theorem Recorded.written {b : Builder} {text : String} {calls : List Call} {d : Draft}
    {q : BuiltQuery} {events : List Event} (h : b.Recorded text)
    (htracks : Draft.Tracks b.table calls d b)
    (hq : b.outcome .build = .ok ⟨.built q, events⟩) :
    q.params = b.params ∧
      ∀ k rules, b.kind = some k → b.table.rules? k = some rules → .filter ∈ rules.order →
        ∃ front behind, q.statement = front ++ text ++ behind := by
  obtain ⟨sql, events', hrender, hanswer⟩ := htracks.render_of_outcome rfl hq
  cases hanswer
  refine ⟨params_built _, ?_⟩
  intro k rules hk hrules horder
  obtain ⟨-, rfl⟩ := (render_eq_ok_iff hk hrules).1 hrender
  -- WHERE is among the clauses that are written, and what is appended comes behind it
  obtain ⟨front, behind, hjoin⟩ := exists_of_mem_order h.clause horder
  refine ⟨front, behind ++ b.appended.getD "", ?_⟩
  simp only [Rendered.built, hjoin, String.append_assoc]

/-- Whatever the rules, a recorded condition stays, and each of its comparisons keeps its own value
until a row is given: SET then gives its columns their values under their own names, and VALUES
replaces all bindings. A statement that is built has these bindings, with the condition as it was
recorded. Under rules that take rows before conditions, every comparison keeps its value. -/
theorem recorded_condition_keeps_its_values (table : RuleTable) {start b : Builder}
    {condition : Condition} {r : Response} (hstart : Uses (withRules table) start)
    (h : apply (.filter (.tree condition)) start = .ok r b) :
    ∃ bound : BoundCondition, bound.condition = condition ∧
      ∀ later last, Run b later last → last.Keeps bound later ∧
        (table.RowsBeforeFilter → ∀ call ∈ later, ∀ name, ¬ call.Rebinds name) := by
  obtain ⟨calls, hcalls⟩ := run_of_uses hstart
  have hstep : Step start (.filter (.tree condition)) r b := apply_eq_ok_iff.1 h
  obtain ⟨bound, hcondition, hrecorded, hfinds⟩ := recorded_of_step hstep
  refine ⟨bound, hcondition, ?_⟩
  intro later last hlater
  have hlast : last.Recorded (filterText bound.text) := hrecorded.run hlater
  have hfollows : ∀ leaf ∈ bound.entries, last.params.get? (placeholder leaf.1) =
      later.foldl (Call.rebind leaf.1) (some leaf.2) := by
    intro leaf hleaf
    rw [hrecorded.get?_run hlater, hfinds leaf hleaf]
  -- The builder at the end tracks all calls, from the first to the last.
  obtain ⟨d, htracks⟩ := Draft.tracks_of_run ((hcalls.call h).trans hlater)
  obtain ⟨d₀, htracks₀⟩ := Draft.tracks_of_run hcalls
  refine ⟨⟨hlast.clause, hfollows, ?_, ?_⟩, ?_⟩
  · intro leaf hleaf hown
    rw [hfollows leaf hleaf, foldl_rebind_of_not_rebinds hown]
  · intro q events hq
    have htable : last.table = table := htracks.table_eq
    rw [← htable] at htracks
    exact hlast.written htracks hq
  · intro hrows
    have htable : start.table = table := htracks₀.table_eq
    rw [← htable] at hrows
    exact ((supplied_of_step hrows hstep).run hlater).2

/-! ## Conditions before rows -/

/-- An UPDATE that takes its condition before its row. -/
def filterFirst : RuleTable :=
  { RuleTable.standard with
    update :=
      { establishing := .update
        order := [.update, .updateSet, .filter]
        required := [.update, .updateSet]
        prerequisites := [(.updateSet, [.update])] } }

/-- An UPDATE before its condition. -/
def begunUpdate : Builder :=
  (withRules filterFirst).afterAll [.update (.name "t")]

/-- The same UPDATE with the condition that `id` is 1. -/
def filteredUpdate : Builder :=
  begunUpdate.after (.filter (.tree (.eq "id" (.int 1))))

theorem apply_filter_begunUpdate :
    apply (.filter (.tree (.eq "id" (.int 1)))) begunUpdate = .ok ⟨.done, []⟩ filteredUpdate := rfl

/-- The text of the clause tells the name that the comparison has taken. -/
theorem entries_of_filteredUpdate {bound : BoundCondition}
    (hcondition : bound.condition = .eq "id" (.int 1))
    (hclause : filteredUpdate.clauses .filter = some (filterText bound.text)) :
    bound.entries = [("id", .int 1)] := by
  cases bound with
  | group connective members => cases hcondition
  | compare column operator value name =>
    cases hcondition
    have hwritten : filteredUpdate.clauses .filter =
        some (filterText ("id" ++ " " ++ "=" ++ " " ++ placeholder "id")) := by decide +kernel
    rw [hwritten, Option.some.injEq] at hclause
    have hname : "id" = name := by
      simpa only [filterText, BoundCondition.text, String.append_left_inj, String.append_right_inj,
        placeholder_inj] using hclause
    rw [BoundCondition.entries, ← hname]

/-- A row with another column leaves the comparison as it was. -/
theorem another_column_leaves_the_comparison :
    ∃ last, Run filteredUpdate [.set (.mapping [("title", .text "x")])] last ∧
      last.params.get? (placeholder "id") = some (.int 1) := by
  obtain ⟨bound, hcondition, hkeeps⟩ := recorded_condition_keeps_its_values filterFirst
    (uses_afterAll _ [.update (.name "t")]) apply_filter_begunUpdate
  have hentries : bound.entries = [("id", .int 1)] :=
    entries_of_filteredUpdate hcondition (hkeeps [] filteredUpdate .start).1.clause
  have hrun : Run filteredUpdate [.set (.mapping [("title", .text "x")])]
      (filteredUpdate.after (.set (.mapping [("title", .text "x")]))) := .call .start rfl
  refine ⟨_, hrun, (hkeeps _ _ hrun).1.own ("id", .int 1) (by simp [hentries]) ?_⟩
  intro call hcall hrebinds
  cases List.mem_singleton.1 hcall
  obtain ⟨row, hrow, hname⟩ := hrebinds
  have hother : row = [("title", .text "x")] := by
    cases hrow
    rfl
  rw [hother] at hname
  simp at hname

/-- An INSERT that takes its condition before its row. -/
def filterBeforeValues : RuleTable :=
  { RuleTable.standard with
    insert :=
      { establishing := .insertInto
        order := [.insertInto, .insertValues, .filter]
        required := [.insertInto, .insertValues]
        prerequisites := [(.insertValues, [.insertInto])] } }

/-- The INSERT before its condition. -/
def begunInsert : Builder :=
  (withRules filterBeforeValues).afterAll [.insertInto (.name "t")]

/-- The same INSERT with the condition that `id` is 1. -/
def filteredInsert : Builder :=
  begunInsert.after (.filter (.tree (.eq "id" (.int 1))))

/-- The INSERT with a row of another column. -/
def filledInsert : Builder :=
  filteredInsert.after (.values (.mapping [("title", .text "x")]))

/-- Two rows given after the condition that `id` is 1. In SET the same column takes the placeholder
over, and the condition is built as the condition that `id` is the new value. VALUES drops all
bindings, whatever its columns, and the placeholder is built without a value. -/
theorem same_column_takes_the_comparison_over :
    (¬ ∀ (table : RuleTable) (start b : Builder) (condition : Condition) (r : Response),
      Uses (withRules table) start → apply (.filter (.tree condition)) start = .ok r b →
        ∃ bound : BoundCondition, bound.condition = condition ∧
          b.clauses .filter = some (filterText bound.text) ∧
          ∀ later last, Run b later last → ∀ leaf ∈ bound.entries,
            last.params.get? (placeholder leaf.1) = some leaf.2) ∧
    Uses (withRules filterBeforeValues) begunInsert ∧
    apply (.filter (.tree (.eq "id" (.int 1)))) begunInsert = .ok ⟨.done, []⟩ filteredInsert ∧
    Run filteredInsert [.values (.mapping [("title", .text "x")])] filledInsert ∧
    (filledInsert.outcome .build).map Response.answer =
      .ok (.built ⟨"INSERT INTO t (title) VALUES (:title)WHERE id = :id ",
        some ⟨[("title", .text "x")], by decide⟩⟩) := by
  refine ⟨?set, uses_afterAll _ _, rfl, .call .start rfl, by decide +kernel⟩
  -- The UPDATE would have to keep the value of its condition through the row.
  intro h
  obtain ⟨bound, hcondition, hclause, hkeeps⟩ := h filterFirst begunUpdate filteredUpdate
    (.eq "id" (.int 1)) ⟨.done, []⟩ (uses_afterAll _ _) apply_filter_begunUpdate
  have hentries : bound.entries = [("id", .int 1)] := entries_of_filteredUpdate hcondition hclause
  have hrun : Run filteredUpdate [.set (.mapping [("id", .int 2)])]
      (filteredUpdate.after (.set (.mapping [("id", .int 2)]))) := .call .start rfl
  have hkept : (filteredUpdate.after (.set (.mapping [("id", .int 2)]))).params.get?
      (placeholder "id") = some (.int 1) :=
    hkeeps _ _ hrun ("id", .int 1) (by simp [hentries])
  have htaken : (filteredUpdate.after (.set (.mapping [("id", .int 2)]))).params.get?
      (placeholder "id") = some (.int 2) := by decide +kernel
  rw [htaken] at hkept
  cases hkept

end Builder

end BoundSql
