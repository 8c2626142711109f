import BoundSql.Proofs.Collapse
import BoundSql.Proofs.Condition.Documents

/-!
# Documents that write filters

A filter is written as the document of a condition, bare or as the member `conditions`, or as literal
SQL in that member with its bindings in the member `values`. Names in `values` with and without the
marker mean the same binding, and the last one of them counts.

Main statement: `documents_are_read_as_filters`. It rests on `writes_or_refused`, one case for each
form of the member `conditions`, and on `bindsLast_ofList` for the bindings.
-/

namespace BoundSql

/-! ## Bindings -/

namespace Params

/-- Bindings as pairs make them one after another: a name is bound to the value of the last pair that
means it, at the place of the first one. -/
structure BindsLast (p : Params) (pairs : List (String × Value)) : Prop where
  values : ∀ name value, p.get? name = some value ↔
    ∃ before same after, pairs = before ++ (same, value) :: after ∧ bareName same = bareName name ∧
      ∀ later ∈ after, bareName later.1 ≠ bareName name
  order : Pairs.names p.entries = (pairs.map fun pair => bareName pair.1).eraseDups
  /-- Where no two pairs mean the same name, every pair is a binding of its own. -/
  whole : (pairs.map fun pair => bareName pair.1).Nodup →
    p.toList = pairs.map fun pair => (placeholder (bareName pair.1), pair.2)

/-- The bare names of pairs are their names without markers. -/
theorem names_bare (pairs : List (String × Value)) :
    Pairs.names (bare pairs) = pairs.map fun pair => bareName pair.1 := by
  simp [Pairs.names, bare]

/-- The last of the bare pairs with a name is the last pair that means it. -/
theorem exists_bare_iff {pairs : List (String × Value)} {name : String} {value : Value} :
    (∃ before after, bare pairs = before ++ (name, value) :: after ∧ name ∉ Pairs.names after) ↔
      ∃ before same after, pairs = before ++ (same, value) :: after ∧ bareName same = name ∧
        ∀ later ∈ after, bareName later.1 ≠ name := by
  constructor
  · rintro ⟨_, _, hpairs, habsent⟩
    -- the split of the bare pairs is undone to one of the pairs themselves
    obtain ⟨before, rest, rfl, rfl, hrest⟩ := List.map_eq_append_iff.1 hpairs
    obtain ⟨⟨same, value'⟩, after, rfl, hsame, rfl⟩ := List.map_eq_cons_iff.1 hrest
    cases hsame
    refine ⟨before, same, after, rfl, rfl, ?_⟩
    intro later hlater hname
    exact habsent (hname ▸ List.mem_map_of_mem (List.mem_map_of_mem hlater))
  · rintro ⟨before, same, after, rfl, rfl, hlater⟩
    refine ⟨bare before, bare after, by simp [bare], ?_⟩
    rw [names_bare]
    intro hmem
    obtain ⟨later, hmem, hname⟩ := List.mem_map.1 hmem
    exact hlater later hmem hname

/-- Collected pairs bind a name to the value of the last pair that means it. -/
theorem bindsLast_ofList (pairs : List (String × Value)) : (ofList pairs).BindsLast pairs := by
  have hentries : (ofList pairs).entries = Pairs.putAll [] (bare pairs) :=
    entries_bindAll empty pairs
  refine ⟨?_, ?_, ?_⟩
  · intro name value
    rw [get?, hentries, Pairs.find?_putAll, ← exists_bare_iff, ← Pairs.find?_reverse_eq_some_iff]
    simp [Pairs.find?]
  · rw [hentries, Pairs.names_putAll, names_bare]
    simp
  · intro hdistinct
    have hnames : (Pairs.names ([] ++ bare pairs)).Nodup := by
      rwa [List.nil_append, names_bare]
    rw [toList, hentries, Pairs.putAll_of_nodup hnames]
    simp [marked, bare]

end Params

namespace Filter

/-! ## Documents -/

/-- A document that lists names with values: an object of scalars, or null, which lists none. -/
inductive Lists : Json → List (String × Value) → Prop where
  | null : Lists .null []
  | members {members : List (String × Json)} {pairs : List (String × Value)}
    (scalars : List.Forall₂ Value.IsMember members pairs) : Lists (.object members) pairs

/-- A document writes a filter: it writes a condition, or it is an object whose only member
`conditions` does, or an object of SQL in that member and its bindings in the member `values`, which
may be absent. -/
inductive Writes : Json → Filter → Prop where
  | bare {j : Json} {c : Condition} (tree : Condition.Writes j c) : Writes j (.tree c)
  | wrapped {j : Json} {c : Condition} (tree : Condition.Writes j c) :
    Writes (.object [("conditions", j)]) (.tree c)
  | sql (sql : String) : Writes (.object [("conditions", .string sql)]) (.raw sql .empty)
  | sqlThenValues (sql : String) {j : Json} {pairs : List (String × Value)} (values : Lists j pairs) :
    Writes (.object [("conditions", .string sql), ("values", j)]) (.raw sql (Params.ofList pairs))
  | valuesThenSql (sql : String) {j : Json} {pairs : List (String × Value)} (values : Lists j pairs) :
    Writes (.object [("values", j), ("conditions", .string sql)]) (.raw sql (Params.ofList pairs))

/-- Beside a member `conditions` there is no other one, except `values` where that is SQL. -/
def IsExact (j : Json) : Prop :=
  ∀ members conditions, j = .object members →
    Pairs.find? "conditions" members = some conditions →
    Pairs.names members = ["conditions"] ∨
      (∃ sql, conditions = .string sql) ∧
        (Pairs.names members = ["conditions", "values"] ∨
          Pairs.names members = ["values", "conditions"])

/-! ## Values -/

/-- Members that stand for pairs are bound as those pairs. -/
theorem bindMembers_of_forall₂ {members : List (String × Json)} {pairs : List (String × Value)}
    (h : List.Forall₂ Value.IsMember members pairs) (p : Params) :
    bindMembers members p = .ok (p.bindAll pairs) := by
  induction h generalizing p with
  | nil => rfl
  | @cons member pair members pairs hfirst hrest ih =>
    obtain ⟨name, j⟩ := member
    obtain ⟨name', value⟩ := pair
    obtain ⟨rfl, hvalue⟩ : name = name' ∧ Value.ofJson? j = some value := hfirst
    simp only [bindMembers, hvalue, ih]
    rfl

/-- The members of an object are bound, or one of them is refused. -/
theorem bindMembers_spec (members : List (String × Json)) (p : Params) :
    (∃ pairs, List.Forall₂ Value.IsMember members pairs) ∨
      ∃ reason, bindMembers members p = .error (.badConditionShape reason) := by
  induction members generalizing p with
  | nil => exact .inl ⟨[], .nil⟩
  | cons member rest ih =>
    obtain ⟨name, j⟩ := member
    cases hvalue : Value.ofJson? j with
    | none => exact .inr ⟨_, by simp only [bindMembers, hvalue]; rfl⟩
    | some value =>
      rcases ih (p.bind name value) with ⟨pairs, hrest⟩ | ⟨reason, hrest⟩
      · exact .inl ⟨(name, value) :: pairs, .cons ⟨rfl, hvalue⟩ hrest⟩
      · exact .inr ⟨reason, by simp only [bindMembers, hvalue, hrest]⟩

/-- A document that lists pairs binds them. -/
theorem valuesOfJson_of_lists {j : Json} {pairs : List (String × Value)} (h : Lists j pairs) :
    valuesOfJson (some j) = .ok (Params.ofList pairs) := by
  cases h with
  | null => rfl
  | members scalars => exact bindMembers_of_forall₂ scalars .empty

/-- Values are listed, or they are refused. -/
theorem lists_or_refused (j : Json) :
    (∃ pairs, Lists j pairs) ∨
      ∃ reason, valuesOfJson (some j) = .error (.badConditionShape reason) := by
  cases j with
  | null => exact .inl ⟨[], .null⟩
  | object members =>
    rcases bindMembers_spec members .empty with ⟨pairs, hscalars⟩ | hrefused
    · exact .inl ⟨pairs, .members hscalars⟩
    · exact .inr hrefused
  | _ => exact .inr ⟨_, rfl⟩

/-! ## Reading -/

/-- A document is read as the filter that it writes. -/
theorem Writes.ofJson_eq {j : Json} {f : Filter} (h : Writes j f) : ofJson j = .ok f := by
  cases h with
  | bare tree => exact ofJson_of_writes tree
  | wrapped tree => exact ofJson_member_of_writes tree
  | sql => rfl
  -- members are looked up by name, so that either order is read alike
  | sqlThenValues sql values =>
    show (valuesOfJson (some _)).map (Filter.raw sql) = _
    rw [valuesOfJson_of_lists values]
    rfl
  | valuesThenSql sql values =>
    show (valuesOfJson (some _)).map (Filter.raw sql) = _
    rw [valuesOfJson_of_lists values]
    rfl

/-- A member `conditions` that is no SQL has to write a condition. -/
theorem ofJson_of_no_condition {j conditions : Json}
    (member : j.member? "conditions" = some conditions) (text : ∀ sql, conditions ≠ .string sql)
    (h : ¬ Condition.IsCondition conditions) :
    ∃ reason, ofJson j = .error (.badConditionShape reason) := by
  rcases Condition.ofJson_spec conditions with ⟨c, -, htree⟩ | ⟨-, reason, hread⟩
  · exact absurd htree.isCondition h
  · refine ⟨reason, ?_⟩
    -- text would be SQL, whatever it says
    cases conditions with
    | string sql => exact absurd rfl (text sql)
    | _ => simp only [ofJson, member, hread]; rfl

/-- Values beside SQL have to list pairs. -/
theorem ofJson_of_no_lists {j values : Json} {sql : String}
    (member : j.member? "conditions" = some (.string sql))
    (hvalues : j.member? "values" = some values) (h : ∀ pairs, ¬ Lists values pairs) :
    ∃ reason, ofJson j = .error (.badConditionShape reason) := by
  rcases lists_or_refused values with ⟨pairs, hlists⟩ | ⟨reason, hrefused⟩
  · exact absurd hlists (h pairs)
  · exact ⟨reason, by simp only [ofJson, member, hvalues, hrefused]; rfl⟩

/-- SQL with values behind it or before it writes a filter, or it is refused. -/
theorem writes_or_refused_of_values (sql : String) (values : Json) {members : List (String × Json)}
    (h : members = [("conditions", .string sql), ("values", values)] ∨
      members = [("values", values), ("conditions", .string sql)]) :
    (∃ f, Writes (.object members) f) ∨
      ∃ reason, ofJson (.object members) = .error (.badConditionShape reason) := by
  -- all hangs on whether the values list pairs
  by_cases hlists : ∃ pairs, Lists values pairs
  · obtain ⟨pairs, hlists⟩ := hlists
    rcases h with rfl | rfl
    · exact .inl ⟨_, .sqlThenValues sql hlists⟩
    · exact .inl ⟨_, .valuesThenSql sql hlists⟩
  · have hnone : ∀ pairs, ¬ Lists values pairs := not_exists.1 hlists
    rcases h with rfl | rfl
    · exact .inr (ofJson_of_no_lists rfl rfl hnone)
    · exact .inr (ofJson_of_no_lists rfl rfl hnone)

/-- Two names in order are the names of two members. -/
theorem eq_pair_of_names {members : List (String × Json)} {first second : String}
    (h : Pairs.names members = [first, second]) :
    ∃ j k, members = [(first, j), (second, k)] := by
  obtain ⟨⟨_, j⟩, rest, rfl, rfl, hrest⟩ := List.map_eq_cons_iff.1 h
  obtain ⟨⟨_, k⟩, rfl, rfl⟩ := List.map_eq_singleton_iff.1 hrest
  exact ⟨j, k, rfl⟩

/-- A document without a member that nothing reads writes a filter, or it is refused. -/
theorem writes_or_refused {j : Json} (h : IsExact j) :
    (∃ f, Writes j f) ∨ ∃ reason, ofJson j = .error (.badConditionShape reason) := by
  cases hmember : j.member? "conditions" with
  | none =>
    rcases Condition.ofJson_spec j with ⟨c, -, htree⟩ | ⟨-, reason, hread⟩
    · exact .inl ⟨.tree c, .bare htree⟩
    · exact .inr ⟨reason, by simp only [ofJson, hmember, hread]; rfl⟩
  | some conditions =>
    cases j with
    | object members =>
      -- the member stands alone, or beside the values of its SQL
      rcases h members conditions rfl hmember with honly | ⟨⟨sql, rfl⟩, hboth⟩
      · obtain ⟨⟨_, only⟩, rfl, rfl⟩ := List.map_eq_singleton_iff.1 honly
        obtain rfl : only = conditions := by simpa [Json.member?, Pairs.find?] using hmember
        -- Any text is SQL, so that only what is no text has to write a condition.
        by_cases htext : ∃ sql, only = .string sql
        · obtain ⟨sql, rfl⟩ := htext
          exact .inl ⟨_, .sql sql⟩
        · rcases Condition.ofJson_spec only with ⟨c, -, htree⟩ | ⟨houtside, -⟩
          · exact .inl ⟨.tree c, .wrapped htree⟩
          · exact .inr (ofJson_of_no_condition hmember (by simpa using htext) houtside)
      · rcases hboth with hnames | hnames
        · obtain ⟨first, values, rfl⟩ := eq_pair_of_names hnames
          obtain rfl : first = .string sql := by simpa [Json.member?, Pairs.find?] using hmember
          exact writes_or_refused_of_values sql values (.inl rfl)
        · obtain ⟨values, second, rfl⟩ := eq_pair_of_names hnames
          obtain rfl : second = .string sql := by simpa [Json.member?, Pairs.find?] using hmember
          exact writes_or_refused_of_values sql values (.inr rfl)
    | _ => cases hmember

/-- Whatever is refused is refused for its shape. -/
theorem accepted_or_refused (j : Json) :
    (∃ f, ofJson j = .ok f) ∨ ∃ reason, ofJson j = .error (.badConditionShape reason) := by
  cases hmember : j.member? "conditions" with
  | none =>
    rcases Condition.ofJson_spec j with ⟨c, hread, -⟩ | ⟨-, reason, hread⟩
    · exact .inl ⟨.tree c, by simp only [ofJson, hmember, hread]; rfl⟩
    · exact .inr ⟨reason, by simp only [ofJson, hmember, hread]; rfl⟩
  | some conditions =>
    by_cases htext : ∃ sql, conditions = .string sql
    · obtain ⟨sql, rfl⟩ := htext
      cases hvalues : j.member? "values" with
      | none => exact .inl ⟨_, by simp only [ofJson, hmember, hvalues]; rfl⟩
      | some values =>
        rcases lists_or_refused values with ⟨pairs, hlists⟩ | ⟨reason, hrefused⟩
        · have hread := valuesOfJson_of_lists hlists
          exact .inl ⟨_, by simp only [ofJson, hmember, hvalues, hread]; rfl⟩
        · exact .inr ⟨reason, by simp only [ofJson, hmember, hvalues, hrefused]; rfl⟩
    · have htext : ∀ sql, conditions ≠ .string sql := not_exists.1 htext
      rcases Condition.ofJson_spec conditions with ⟨c, hread, -⟩ | ⟨houtside, -⟩
      · refine .inl ⟨.tree c, ?_⟩
        cases conditions with
        | string sql => exact absurd rfl (htext sql)
        | _ => simp only [ofJson, hmember, hread]; rfl
      · exact .inr (ofJson_of_no_condition hmember htext houtside)

/-- Documents are accepted that write filters, each as the filter that it writes. If a document has
no member that nothing reads, it is accepted only then. -/
theorem documents_are_read_as_filters (j : Json) :
    (∀ f, Writes j f → ofJson j = .ok f) ∧
    (IsExact j → ∀ f, ofJson j = .ok f → Writes j f) ∧
    (∀ pairs, (Params.ofList pairs).BindsLast pairs) ∧
    (∀ conditions, j.member? "conditions" = some conditions → (∀ sql, conditions ≠ .string sql) →
      ¬ Condition.IsCondition conditions → ∃ reason, ofJson j = .error (.badConditionShape reason)) ∧
    (∀ sql values, j.member? "conditions" = some (.string sql) →
      j.member? "values" = some values → (∀ pairs, ¬ Lists values pairs) →
      ∃ reason, ofJson j = .error (.badConditionShape reason)) ∧
    (∀ e, ofJson j = .error e → ∃ reason, e = .badConditionShape reason) := by
  refine ⟨fun f h => h.ofJson_eq, ?_, Params.bindsLast_ofList, ?_, ?_, ?_⟩
  · intro hexact f hread
    rcases writes_or_refused hexact with ⟨f', hwrites⟩ | ⟨reason, hrefused⟩
    · rw [hwrites.ofJson_eq] at hread
      cases hread
      exact hwrites
    · rw [hrefused] at hread
      cases hread
  · intro conditions hmember htext houtside
    exact ofJson_of_no_condition hmember htext houtside
  · intro sql values hmember hvalues hnone
    exact ofJson_of_no_lists hmember hvalues hnone
  · intro e hread
    rcases accepted_or_refused j with ⟨f, h⟩ | ⟨reason, h⟩
    · rw [h] at hread
      cases hread
    · rw [h] at hread
      cases hread
      exact ⟨reason, rfl⟩

/-- SQL with two bindings, one of them named with the marker. -/
def marking : Json :=
  .object [("conditions", .string "a = :a AND b = :b"),
    ("values", .object [("a", .integer 1), (":b", .null)])]

theorem marking_is_read_whole :
    Writes marking (.raw "a = :a AND b = :b" (Params.ofList [("a", .int 1), (":b", .null)])) ∧
      IsExact marking ∧
      (Params.ofList [("a", .int 1), (":b", .null)]).toList = [(":a", .int 1), (":b", .null)] ∧
      ofJson marking =
        .ok (.raw "a = :a AND b = :b" (Params.ofList [("a", .int 1), (":b", .null)])) ∧
      (∃ reason, ofJson (.object [("conditions", .integer 5)]) =
        .error (.badConditionShape reason)) ∧
      (∃ reason, ofJson (.object [("conditions", .string "a"), ("values", .array [])]) =
        .error (.badConditionShape reason)) := by
  have hwrites : Writes marking
      (.raw "a = :a AND b = :b" (Params.ofList [("a", .int 1), (":b", .null)])) :=
    .sqlThenValues _ (.members (.cons ⟨rfl, rfl⟩ (.cons ⟨rfl, rfl⟩ .nil)))
  have hexact : IsExact marking := by
    rintro members conditions ⟨⟩ ⟨⟩
    exact .inr ⟨⟨_, rfl⟩, .inl rfl⟩
  obtain ⟨haccepted, hwhole, hlast, -, -, -⟩ := documents_are_read_as_filters marking
  have hread := haccepted _ hwrites
  obtain ⟨-, -, -, hconditions, -, -⟩ :=
    documents_are_read_as_filters (.object [("conditions", .integer 5)])
  obtain ⟨-, -, -, -, hvalues, -⟩ :=
    documents_are_read_as_filters (.object [("conditions", .string "a"), ("values", .array [])])
  refine ⟨hwhole hexact _ hread, hexact, (hlast _).whole (by decide), hread, ?_, ?_⟩
  · exact hconditions (.integer 5) rfl (by simp) (by rintro ⟨⟩)
  · exact hvalues "a" (.array []) rfl rfl (by rintro pairs ⟨⟩)

/-- Two names of one binding, of which the marker makes the difference. -/
def twins : Json :=
  .object [("conditions", .string "x = :a"),
    ("values", .object [("a", .integer 1), (":a", .integer 2)])]

/-- A comparison beside a group that nothing reads. -/
def flanked : Json :=
  .object [("conditions", .array [.string "id", .string "=", .integer 7]),
    ("OR", .array [.array [.string "a", .string "=", .integer 1]])]

/-- The values of twin names are one binding, and what stands beside a condition is not read. -/
theorem twins_share_a_binding :
    (∃ p, ofJson twins = .ok (.raw "x = :a" p) ∧ p.toList = [(":a", .int 2)] ∧
      (.int 1) ∉ p.toList.map Prod.snd) ∧
    ofJson flanked = .ok (.tree (.eq "id" (.int 7))) := by
  refine ⟨⟨Params.ofList [("a", .int 1), (":a", .int 2)], ?_, ?_, ?_⟩, ?_⟩
  · rfl
  · decide
  · decide
  · rfl

end Filter

end BoundSql
