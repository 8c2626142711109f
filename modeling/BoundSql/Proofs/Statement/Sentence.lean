import BoundSql.Proofs.DistinctNames
import BoundSql.Proofs.Statement.Grammar

/-!
# Sentences

A sentence is a whole statement as its calls describe it: the tables, the columns, the row and the
condition, in which every comparison knows the name that its value is bound to. The text of a
sentence and its bindings are read off it side by side.

Main statement: `built_statement_matches_bindings`. Whatever the calls, a statement that is built
has the text of the sentence that its calls describe, and its bindings are exactly those of the
sentence, under distinct names.
-/

namespace BoundSql

/-- The bindings of a built statement, of which none are left out. -/
def BuiltQuery.params (q : BuiltQuery) : Params :=
  q.values.getD .empty

namespace Builder

/-! ## Texts and bindings -/

/-- A whole statement. -/
inductive Sentence where
  | insert (table : String) (row : Pairs Value)
  | select (columns : String) (tables : List String)
  | selectWhere (columns : String) (tables : List String) (condition : BoundCondition)
  | update (table : String) (row : Pairs Value) (condition : BoundCondition)
  | delete (tables : List String) (condition : BoundCondition)
  | custom (sql : String) (values : Params)

namespace Sentence

/-- The text of a sentence. -/
def text : Sentence → String
  | insert table row =>
    "INSERT INTO " ++ table ++ " (" ++ Text.join ", " (Pairs.names row) ++ ") VALUES (" ++
      Text.join ", " ((Pairs.names row).map placeholder) ++ ")"
  | select columns tables => "SELECT " ++ columns ++ " FROM " ++ Text.join ", " tables ++ " "
  | selectWhere columns tables condition =>
    "SELECT " ++ columns ++ " FROM " ++ Text.join ", " tables ++ " WHERE " ++ condition.text ++ " "
  | update table row condition =>
    "UPDATE " ++ table ++ " SET " ++
      Text.join ", " ((Pairs.names row).map fun c => c ++ " = " ++ placeholder c) ++
      " WHERE " ++ condition.text ++ " "
  | delete tables condition =>
    "DELETE FROM " ++ Text.join ", " tables ++ " WHERE " ++ condition.text ++ " "
  | custom sql _ => sql

/-- The values of a sentence under their names: those of the row in its order, and then those of
the condition, depth first and from left to right. -/
def bindings : Sentence → Pairs Value
  | insert _ row => row
  | select _ _ => []
  | selectWhere _ _ condition => condition.entries
  | update _ row condition => row ++ condition.entries
  | delete _ condition => condition.entries
  | custom _ values => values.entries

/-- Every name in the condition of a sentence is the column of its comparison or a suffixed one. -/
def NamedByColumn : Sentence → Prop
  | selectWhere _ _ condition | update _ _ condition | delete _ condition =>
    condition.NamedByColumn
  | insert _ _ | select _ _ | custom _ _ => True

end Sentence

/-- The calls that describe a sentence, with what their arguments stand for. -/
inductive Says : List Call → Sentence → Prop where
  | insert {t : Target} {data : RowData} {table : String} {row : Pairs Value}
      (ht : t.resolve .insertInto = .ok table) (hrow : data.bindable .insertValues = .ok row) :
      Says [.insertInto t, .values data] (.insert table row)
  | select {columns : Columns} {ts : List Target} {text : String} {tables : List String}
      (hc : columns.render .select = .ok text) (ht : resolveTargets ts .fromTables = .ok tables) :
      Says [.select columns, .fromTables ts] (.select text tables)
  | selectWhere {columns : Columns} {ts : List Target} {text : String} {tables : List String}
      (hc : columns.render .select = .ok text) (ht : resolveTargets ts .fromTables = .ok tables)
      (condition : BoundCondition) :
      Says [.select columns, .fromTables ts, .filter (.tree condition.condition)]
        (.selectWhere text tables condition)
  | update {t : Target} {data : RowData} {table : String} {row : Pairs Value}
      (ht : t.resolve .update = .ok table) (hrow : data.bindable .updateSet = .ok row)
      (condition : BoundCondition) :
      Says [.update t, .set data, .filter (.tree condition.condition)] (.update table row condition)
  | delete {ts : List Target} {tables : List String}
      (ht : resolveTargets ts .fromTables = .ok tables) (condition : BoundCondition) :
      Says [.delete, .fromTables ts, .filter (.tree condition.condition)] (.delete tables condition)
  | custom (sql : String) (values : Params) : Says [.setQuery sql values] (.custom sql values)

/-! ## Drafts of sentences -/

/-- What a condition writes: the text of the condition with names, and behind the bindings that
were there exactly those of the condition. -/
theorem exists_named_of_write_tree {k : Option Kind} {p : Params} {condition : Condition}
    {w : Writing} (h : Call.write k p (.filter (.tree condition)) = .ok w) :
    ∃ bound : BoundCondition, bound.condition = condition ∧ w.text = filterText bound.text ∧
      w.params.entries = p.entries ++ bound.entries ∧ bound.NamedByColumn := by
  obtain ⟨text, htext, rfl⟩ := exists_of_map_eq_ok h
  obtain ⟨bound, hcondition, rfl, hentries, hnamed⟩ := Condition.compile_eq_ok htext
  exact ⟨bound, hcondition, rfl, hentries, hnamed⟩

theorem exists_of_write_tree {k : Option Kind} {p : Params} {condition : Condition} {w : Writing}
    (h : Call.write k p (.filter (.tree condition)) = .ok w) :
    ∃ bound : BoundCondition, bound.condition = condition ∧ w.text = filterText bound.text ∧
      w.params.entries = p.entries ++ bound.entries := by
  obtain ⟨bound, hcondition, htext, hentries, -⟩ := exists_named_of_write_tree h
  exact ⟨bound, hcondition, htext, hentries⟩

/-- The call that puts down a part is the one that is named like it. -/
theorem call_of_part? {call : Call} {part : Part} (h : call.part? = some part) :
    match part with
    | .clause .insertInto => ∃ t, call = .insertInto t
    | .clause .insertValues => ∃ data, call = .values data
    | .clause .select => ∃ columns, call = .select columns
    | .clause .fromTables => ∃ ts, call = .fromTables ts
    | .clause .update => ∃ t, call = .update t
    | .clause .updateSet => ∃ data, call = .set data
    | .clause .delete => call = .delete
    | .clause .filter => ∃ f, call = .filter f
    | .custom => ∃ sql values, call = .setQuery sql values := by
  cases call <;> cases h <;> simp

namespace Draft

variable {table : RuleTable}

/-- The calls of a draft are put down one after another. -/
theorem exists_of_foldlM_cons {call : Call} {rest : List Call} {d d' : Draft}
    (h : (call :: rest).foldlM (add table) d = .ok d') :
    ∃ next, d.add table call = .ok next ∧ rest.foldlM (add table) next = .ok d' := by
  rw [List.foldlM_cons] at h
  cases hadd : d.add table call with
  | error e =>
    rw [hadd] at h
    cases h
  | ok next =>
    rw [hadd] at h
    exact ⟨next, rfl, h⟩

/-- The calls that put nothing down do not count. -/
theorem ofCalls_filter_part? {calls : List Call} {d : Draft} (h : ofCalls table calls = .ok d) :
    ofCalls table (calls.filter (·.part?.isSome)) = .ok d := by
  unfold ofCalls at h ⊢
  -- The induction is over the calls from any draft on, not only from the empty one.
  generalize empty = start at h ⊢
  induction calls generalizing start with
  | nil => exact h
  | cons call rest ih =>
    obtain ⟨next, hadd, hrest⟩ := exists_of_foldlM_cons h
    cases hp : call.part? with
    -- The call puts nothing down, so the draft is the one before it.
    | none =>
      rw [List.filter_cons_of_neg (by simp [hp])]
      rw [add_of_part?_eq_none hp] at hadd
      cases hadd
      exact ih start hrest
    | some part =>
      rw [List.filter_cons_of_pos (by simp [hp]), List.foldlM_cons, hadd]
      exact ih next hrest

/-- The last call of a draft has been written behind the text and the bindings of the others. -/
theorem exists_of_ofCalls_append (calls : List Call) {call : Call} {c : Clause} {d : Draft}
    (hc : call.clause? = some c) (h : ofCalls table (calls ++ [call]) = .ok d) :
    ∃ before k w, ofCalls table calls = .ok before ∧ call.write k before.params = .ok w ∧
      d.text = before.text ++ w.text ∧ d.params = w.params := by
  rw [ofCalls_append] at h
  cases hbefore : ofCalls table calls with
  | error e =>
    rw [hbefore] at h
    cases h
  | ok before =>
    rw [hbefore] at h
    obtain ⟨w, hw, rfl⟩ := exists_of_add hc h
    exact ⟨before, _, w, rfl, hw, by simp [text], rfl⟩

/-- Two calls write one behind the other, the second with what the first has bound. -/
theorem writings_of_two {call₁ call₂ : Call} {c₁ c₂ : Clause} {d : Draft}
    (hc₁ : call₁.clause? = some c₁) (hc₂ : call₂.clause? = some c₂)
    (h : ofCalls table [call₁, call₂] = .ok d) :
    ∃ k₁ k₂ w₁ w₂, call₁.write k₁ .empty = .ok w₁ ∧ call₂.write k₂ w₁.params = .ok w₂ ∧
      d.text = w₁.text ++ w₂.text ∧ d.params = w₂.params := by
  obtain ⟨d₁, k₂, w₂, hd₁, hw₂, htext₂, hparams₂⟩ := exists_of_ofCalls_append [call₁] hc₂ h
  obtain ⟨d₀, k₁, w₁, hd₀, hw₁, htext₁, hparams₁⟩ := exists_of_ofCalls_append [] hc₁ hd₁
  -- The first call starts from the empty draft.
  cases hd₀
  rw [hparams₁] at hw₂
  refine ⟨k₁, k₂, w₁, w₂, hw₁, hw₂, ?_, hparams₂⟩
  rw [htext₂, htext₁]
  simp [text, empty]

/-- Three calls write one behind the other, each with what those before have bound. -/
theorem writings_of_three {call₁ call₂ call₃ : Call} {c₁ c₂ c₃ : Clause} {d : Draft}
    (hc₁ : call₁.clause? = some c₁) (hc₂ : call₂.clause? = some c₂)
    (hc₃ : call₃.clause? = some c₃) (h : ofCalls table [call₁, call₂, call₃] = .ok d) :
    ∃ k₁ k₂ k₃ w₁ w₂ w₃, call₁.write k₁ .empty = .ok w₁ ∧ call₂.write k₂ w₁.params = .ok w₂ ∧
      call₃.write k₃ w₂.params = .ok w₃ ∧
      d.text = w₁.text ++ w₂.text ++ w₃.text ∧ d.params = w₃.params := by
  obtain ⟨d₂, k₃, w₃, hd₂, hw₃, htext₃, hparams₃⟩ := exists_of_ofCalls_append [call₁, call₂] hc₃ h
  obtain ⟨k₁, k₂, w₁, w₂, hw₁, hw₂, htext, hparams⟩ := writings_of_two hc₁ hc₂ hd₂
  rw [hparams] at hw₃
  exact ⟨k₁, k₂, k₃, w₁, w₂, w₃, hw₁, hw₂, hw₃, by rw [htext₃, htext], hparams₃⟩

end Draft

/-! ## What complete calls say

One lemma for each kind of sentence: the text of the draft is that of the sentence, and so are its
bindings. The names of a condition come from its columns. -/

/-- The bindings of an INSERT are those of the row alone. -/
theorem says_insert {t : Target} {data : RowData} {d : Draft}
    (hd : Draft.ofCalls .standard [.insertInto t, .values data] = .ok d) :
    ∃ s, Says [.insertInto t, .values data] s ∧ d.text = s.text ∧
      d.params.entries = s.bindings ∧ s.NamedByColumn := by
  obtain ⟨_, _, _, _, hw₁, hw₂, htext, hparams⟩ := Draft.writings_of_two rfl rfl hd
  obtain ⟨table, ht, rfl⟩ := exists_of_map_eq_ok hw₁
  obtain ⟨row, hrow, rfl⟩ := exists_of_map_eq_ok hw₂
  refine ⟨_, .insert ht hrow, ?_, ?_, trivial⟩
  · rw [htext]
    unfold Sentence.text
    simp [valuesText, String.append_assoc]
  · rw [hparams]
    exact Params.entries_ofList_marked (RowData.nodup_of_bindable hrow)

/-- A SELECT without a condition binds nothing. -/
theorem says_select {columns : Columns} {ts : List Target} {d : Draft}
    (hd : Draft.ofCalls .standard [.select columns, .fromTables ts] = .ok d) :
    ∃ s, Says [.select columns, .fromTables ts] s ∧ d.text = s.text ∧
      d.params.entries = s.bindings ∧ s.NamedByColumn := by
  obtain ⟨_, _, _, _, hw₁, hw₂, htext, hparams⟩ := Draft.writings_of_two rfl rfl hd
  obtain ⟨text, hcolumns, rfl⟩ := exists_of_map_eq_ok hw₁
  obtain ⟨tables, ht, rfl⟩ := exists_of_map_eq_ok hw₂
  refine ⟨_, .select hcolumns ht, ?_, ?_, trivial⟩
  · rw [htext]
    unfold Sentence.text
    simp [← String.toList_inj]
  · rw [hparams]
    rfl

/-- A SELECT with a condition binds the values of the condition. -/
theorem says_selectWhere {columns : Columns} {ts : List Target} {condition : Condition} {d : Draft}
    (hd : Draft.ofCalls .standard
      [.select columns, .fromTables ts, .filter (.tree condition)] = .ok d) :
    ∃ s, Says [.select columns, .fromTables ts, .filter (.tree condition)] s ∧ d.text = s.text ∧
      d.params.entries = s.bindings ∧ s.NamedByColumn := by
  obtain ⟨_, _, _, _, _, _, hw₁, hw₂, hw₃, htext, hparams⟩ :=
    Draft.writings_of_three rfl rfl rfl hd
  obtain ⟨text, hcolumns, rfl⟩ := exists_of_map_eq_ok hw₁
  obtain ⟨tables, ht, rfl⟩ := exists_of_map_eq_ok hw₂
  obtain ⟨bound, rfl, hfilter, hentries, hnamed⟩ := exists_named_of_write_tree hw₃
  refine ⟨_, .selectWhere hcolumns ht bound, ?_, ?_, hnamed⟩
  · rw [htext, hfilter]
    unfold Sentence.text
    simp [filterText, ← String.toList_inj]
  · rw [hparams, hentries]
    rfl

/-- The bindings of the condition of an UPDATE stand behind those of the row. -/
theorem says_update {t : Target} {data : RowData} {condition : Condition} {d : Draft}
    (hd : Draft.ofCalls .standard [.update t, .set data, .filter (.tree condition)] = .ok d) :
    ∃ s, Says [.update t, .set data, .filter (.tree condition)] s ∧ d.text = s.text ∧
      d.params.entries = s.bindings ∧ s.NamedByColumn := by
  obtain ⟨_, _, _, _, _, _, hw₁, hw₂, hw₃, htext, hparams⟩ :=
    Draft.writings_of_three rfl rfl rfl hd
  obtain ⟨table, ht, rfl⟩ := exists_of_map_eq_ok hw₁
  obtain ⟨row, hrow, rfl⟩ := exists_of_map_eq_ok hw₂
  obtain ⟨bound, rfl, hfilter, hentries, hnamed⟩ := exists_named_of_write_tree hw₃
  -- The row has distinct columns, so binding it keeps all of its pairs.
  have hset : (Params.ofList (marked row)).entries = row :=
    Params.entries_ofList_marked (RowData.nodup_of_bindable hrow)
  refine ⟨_, .update ht hrow bound, ?_, ?_, hnamed⟩
  · rw [htext, hfilter]
    unfold Sentence.text
    simp [filterText, setText, ← String.toList_inj]
  · rw [hparams, hentries]
    show (Params.ofList (marked row)).entries ++ bound.entries = _
    rw [hset]
    rfl

/-- A DELETE binds the values of its condition. -/
theorem says_delete {ts : List Target} {condition : Condition} {d : Draft}
    (hd : Draft.ofCalls .standard [.delete, .fromTables ts, .filter (.tree condition)] = .ok d) :
    ∃ s, Says [.delete, .fromTables ts, .filter (.tree condition)] s ∧ d.text = s.text ∧
      d.params.entries = s.bindings ∧ s.NamedByColumn := by
  obtain ⟨_, _, _, _, _, _, hw₁, hw₂, hw₃, htext, hparams⟩ :=
    Draft.writings_of_three rfl rfl rfl hd
  cases hw₁
  obtain ⟨tables, ht, rfl⟩ := exists_of_map_eq_ok hw₂
  obtain ⟨bound, rfl, hfilter, hentries, hnamed⟩ := exists_named_of_write_tree hw₃
  refine ⟨_, .delete ht bound, ?_, ?_, hnamed⟩
  · rw [htext, hfilter]
    unfold Sentence.text
    simp [filterText, ← String.toList_inj]
  · rw [hparams, hentries]
    rfl

/-- Literal SQL brings its own bindings. -/
theorem says_custom {sql : String} {values : Params} {d : Draft}
    (hd : Draft.ofCalls .standard [.setQuery sql values] = .ok d) :
    ∃ s, Says [.setQuery sql values] s ∧ d.text = s.text ∧
      d.params.entries = s.bindings ∧ s.NamedByColumn := by
  cases hd
  refine ⟨_, .custom sql values, ?_, rfl, trivial⟩
  unfold Sentence.text
  simp [Draft.text, Draft.empty]

/-- Calls with a complete shape say the sentence that their draft holds. -/
theorem says_of_ofCalls {calls : List Call} {shape : List Part} {d : Draft}
    (trees : ∀ f, Call.filter f ∈ calls → ∃ condition, f = .tree condition)
    (hparts : calls.map Call.part? = shape.map some) (hc : shape ∈ completeShapes)
    (hd : Draft.ofCalls .standard calls = .ok d) :
    ∃ s, Says calls s ∧ d.text = s.text ∧ d.params.entries = s.bindings ∧ s.NamedByColumn := by
  simp only [completeShapes, List.mem_cons, List.not_mem_nil, or_false] at hc
  -- The shape names the calls.
  rcases hc with rfl | rfl | rfl | rfl | rfl | rfl <;>
    simp only [List.map_cons, List.map_nil, List.map_eq_cons_iff, List.map_eq_nil_iff] at hparts
  · obtain ⟨_, _, rfl, h₁, _, _, rfl, h₂, rfl⟩ := hparts
    obtain ⟨t, rfl⟩ := call_of_part? h₁
    obtain ⟨data, rfl⟩ := call_of_part? h₂
    exact says_insert hd
  · obtain ⟨_, _, rfl, h₁, _, _, rfl, h₂, rfl⟩ := hparts
    obtain ⟨columns, rfl⟩ := call_of_part? h₁
    obtain ⟨ts, rfl⟩ := call_of_part? h₂
    exact says_select hd
  · obtain ⟨_, _, rfl, h₁, _, _, rfl, h₂, _, _, rfl, h₃, rfl⟩ := hparts
    obtain ⟨columns, rfl⟩ := call_of_part? h₁
    obtain ⟨ts, rfl⟩ := call_of_part? h₂
    obtain ⟨f, rfl⟩ := call_of_part? h₃
    obtain ⟨condition, rfl⟩ := trees f (by simp)
    exact says_selectWhere hd
  · obtain ⟨_, _, rfl, h₁, _, _, rfl, h₂, _, _, rfl, h₃, rfl⟩ := hparts
    obtain ⟨t, rfl⟩ := call_of_part? h₁
    obtain ⟨data, rfl⟩ := call_of_part? h₂
    obtain ⟨f, rfl⟩ := call_of_part? h₃
    obtain ⟨condition, rfl⟩ := trees f (by simp)
    exact says_update hd
  · obtain ⟨_, _, rfl, h₁, _, _, rfl, h₂, _, _, rfl, h₃, rfl⟩ := hparts
    cases call_of_part? h₁
    obtain ⟨ts, rfl⟩ := call_of_part? h₂
    obtain ⟨f, rfl⟩ := call_of_part? h₃
    obtain ⟨condition, rfl⟩ := trees f (by simp)
    exact says_delete hd
  · obtain ⟨_, _, rfl, h₁, rfl⟩ := hparts
    obtain ⟨sql, values, rfl⟩ := call_of_part? h₁
    exact says_custom hd

/-! ## Built statements -/

/-- A built query without bindings stands for one that binds nothing. -/
theorem params_built (r : Rendered) : r.built.params = r.params := by
  show (if r.params.isEmpty then none else some r.params).getD .empty = r.params
  by_cases h : r.params.isEmpty = true
  · have hempty : r.params.entries = [] := by simpa [Params.isEmpty] using h
    rw [if_pos h]
    exact Params.ext hempty.symm
  · rw [if_neg h]
    rfl

theorem map_part?_filter (calls : List Call) :
    (calls.filter (·.part?.isSome)).map Call.part? = (calls.filterMap Call.part?).map some := by
  induction calls with
  | nil => rfl
  | cons call rest ih => cases hp : call.part? <;> simp [hp, ih]

/-- A run with a complete shape says a sentence with the text and the bindings of its draft. -/
theorem named_of_tracks {calls : List Call} {d : Draft} {b : Builder}
    (trees : ∀ f, Call.filter f ∈ calls → ∃ condition, f = .tree condition)
    (h : Draft.Tracks .standard calls d b) (hc : d.shape ∈ completeShapes) :
    ∃ s, Says (calls.filter (·.part?.isSome)) s ∧ d.text = s.text ∧
      d.params.entries = s.bindings ∧ s.NamedByColumn := by
  have hparts : (calls.filter (·.part?.isSome)).map Call.part? = d.shape.map some := by
    rw [Draft.shape_of_ofCalls h.draft, map_part?_filter]
  exact says_of_ofCalls (fun f hf => trees f (List.mem_of_mem_filter hf)) hparts hc
    (Draft.ofCalls_filter_part? h.draft)

theorem says_of_tracks {calls : List Call} {d : Draft} {b : Builder}
    (trees : ∀ f, Call.filter f ∈ calls → ∃ condition, f = .tree condition)
    (h : Draft.Tracks .standard calls d b) (hc : d.shape ∈ completeShapes) :
    ∃ s, Says (calls.filter (·.part?.isSome)) s ∧ d.text = s.text ∧
      d.params.entries = s.bindings := by
  obtain ⟨s, hsays, htext, hentries, -⟩ := named_of_tracks trees h hc
  exact ⟨s, hsays, htext, hentries⟩

/-- A statement that is built after any calls, with its conditions given as trees, has the text and
the bindings of the sentence that its calls describe, with the text appended last behind it. The
names are distinct, so that every placeholder stands for its own value. -/
theorem built_statement_matches_bindings (calls : List Call) (r : Response)
    (trees : ∀ f, Call.filter f ∈ new.accepted calls → ∃ condition, f = .tree condition)
    (h : (new.afterAll calls).outcome .build = .ok r) :
    ∃ q s, r.answer = .built q ∧ Says ((new.accepted calls).filter (·.part?.isSome)) s ∧
      q.statement = s.text ++ (lastAppended (new.accepted calls)).getD "" ∧
      q.params.toList = marked s.bindings ∧ q.params.placeholders.Nodup ∧
      q.params.Finds s.bindings := by
  -- Calls that failed left nothing behind, so the run is that of the accepted calls.
  obtain ⟨d, htracks, hbegun⟩ := begun_of_run (run_accepted new calls)
  obtain ⟨hcomplete, events, rfl⟩ := outcome_of_tracks htracks hbegun rfl h
  obtain ⟨s, hsays, htext, hentries⟩ := says_of_tracks trees htracks hcomplete
  refine ⟨_, s, rfl, hsays, ?_, ?_, ?_, ?_⟩
  · simp only [Rendered.built, htext]
  · rw [params_built, Params.toList, hentries]
  · rw [params_built]
    exact d.params.nodup_placeholders
  · rw [params_built, ← hentries]
    exact d.params.finds_entries

/-- An UPDATE whose condition repeats the columns of its row, one of which is named like a column
with a number. The call in the middle fails. -/
def overlapping : List Call :=
  [.update (.name "t"), .set (.mapping [("id", .int 1), ("id0", .int 2)]), .delete,
    .append "RETURNING id",
    .filter (.tree (.all [.eq "id" (.int 3), .any [.eq "id" (.int 4), .eq "id0" (.int 5)]]))]

/-- What the run of these calls builds. -/
def overlappingQuery : BuiltQuery :=
  ⟨"UPDATE t SET id = :id, id0 = :id0 WHERE " ++
      "(id = :id1 AND (id = :id2 OR id0 = :id03)) RETURNING id",
    some ⟨[("id", .int 1), ("id0", .int 2), ("id1", .int 3), ("id2", .int 4), ("id03", .int 5)],
      by decide⟩⟩

theorem overlapping_names_are_told_apart :
    ∃ s, Says ((new.accepted overlapping).filter (·.part?.isSome)) s ∧
      overlappingQuery.statement = s.text ++ "RETURNING id" ∧
      overlappingQuery.params.toList = marked s.bindings ∧
      overlappingQuery.params.Finds s.bindings := by
  have hanswer : ((new.afterAll overlapping).outcome .build).map Response.answer =
      .ok (.built overlappingQuery) := by decide +kernel
  obtain ⟨r, hr, hquery⟩ := exists_of_map_eq_ok hanswer
  have haccepted : new.accepted overlapping =
      [.update (.name "t"), .set (.mapping [("id", .int 1), ("id0", .int 2)]),
        .append "RETURNING id",
        .filter (.tree (.all [.eq "id" (.int 3), .any [.eq "id" (.int 4), .eq "id0" (.int 5)]]))] :=
    rfl
  have trees : ∀ f, Call.filter f ∈ new.accepted overlapping → ∃ c, f = .tree c := by
    intro f hf
    rw [haccepted] at hf
    simp only [List.mem_cons, List.not_mem_nil, or_false, reduceCtorEq, false_or,
      Call.filter.injEq] at hf
    exact ⟨_, hf⟩
  obtain ⟨q, s, hq, hsays, htext, hbound, -, hvalues⟩ :=
    built_statement_matches_bindings overlapping r trees hr
  rw [hquery] at hq
  cases hq
  exact ⟨s, hsays, htext, hbound, hvalues⟩

end Builder

end BoundSql
