import Mathlib.Data.List.Forall2
import BoundSql.Proofs.Statement.Frozen
import BoundSql.Proofs.Statement.Sentence

/-!
# Phrases

A phrase is what one call adds to a statement: the tables, the columns or the condition that it
lists, as its argument names them. Every clause checks its argument in its own place, whatever form
it was given in, and a phrase is filled if nothing that it lists is missing or blank.

Main statement: `phrases_are_filled`. A statement that renders is the phrases of its calls, and all
of them are filled but for the lists of columns given to SELECT: such a list is not empty, but its
members are written as they are (`blank_column_is_selected`).
-/

namespace BoundSql

/-! ## Visible text -/

/-- Some character is not white space. -/
def Text.Visible (s : String) : Prop :=
  ∃ c ∈ s.toList, Text.isWhiteSpace c = false

namespace Text

/-- What is not blank shows something. -/
theorem visible_of_not_isBlank {s : String} (h : ¬ isBlank s = true) : Visible s :=
  not_isBlank_iff.1 (by simpa using h)

/-- What shows something still does with a text behind it. -/
theorem Visible.append_left {s : String} (h : Visible s) (t : String) : Visible (s ++ t) := by
  obtain ⟨c, hc, hvisible⟩ := h
  exact ⟨c, by simp [hc], hvisible⟩

/-- What shows something still does with a text in front of it. -/
theorem Visible.append_right {t : String} (h : Visible t) (s : String) : Visible (s ++ t) := by
  obtain ⟨c, hc, hvisible⟩ := h
  exact ⟨c, by simp [hc], hvisible⟩

end Text

open Text (Visible)

/-! ## Arguments -/

/-- A table that is resolved is the one that the target names, and is not blank. -/
theorem Target.visible_of_resolve {t : Target} {c : Clause} {table : String}
    (h : t.resolve c = .ok table) : table = t.table ∧ Visible table := by
  unfold Target.resolve at h
  by_cases hblank : Text.isBlank t.table = true
  · rw [if_pos hblank] at h
    cases h
  · rw [if_neg hblank] at h
    cases h
    exact ⟨rfl, Text.visible_of_not_isBlank hblank⟩

/-- Tables that are all resolved are those that the targets name, and none of them is blank. -/
theorem visible_of_mapM_resolve {ts : List Target} {c : Clause} {tables : List String}
    (h : ts.mapM (·.resolve c) = .ok tables) :
    tables = ts.map Target.table ∧ ∀ table ∈ tables, Visible table := by
  induction ts generalizing tables with
  | nil =>
    cases h
    simp
  | cons t rest ih =>
    rw [List.mapM_cons] at h
    -- one blank table refuses all, so that each of them has been resolved
    cases ht : t.resolve c with
    | error e => simp [ht, bind, Except.bind] at h
    | ok table =>
      cases hrest : rest.mapM (·.resolve c) with
      | error e => simp [ht, hrest, bind, Except.bind] at h
      | ok others =>
        simp only [ht, hrest, bind, Except.bind, pure, Except.pure, Except.ok.injEq] at h
        obtain ⟨rfl, hvisible⟩ := Target.visible_of_resolve ht
        obtain ⟨rfl, hothers⟩ := ih hrest
        rw [← h]
        exact ⟨rfl, List.forall_mem_cons.2 ⟨hvisible, hothers⟩⟩

/-- A list of tables that is resolved is not empty, and none of its tables is blank. -/
theorem visible_of_resolveTargets {ts : List Target} {c : Clause} {tables : List String}
    (h : resolveTargets ts c = .ok tables) :
    tables = ts.map Target.table ∧ tables ≠ [] ∧ ∀ table ∈ tables, Visible table := by
  unfold resolveTargets at h
  by_cases hempty : ts.isEmpty = true
  · rw [if_pos hempty] at h
    cases h
  · rw [if_neg hempty] at h
    obtain ⟨rfl, hvisible⟩ := visible_of_mapM_resolve h
    exact ⟨rfl, by simpa using hempty, hvisible⟩

namespace RowData

/-- The columns that are collected are not blank, if those collected before are not. -/
theorem visible_of_collect {c : Clause} {pairs acc row : Pairs Value}
    (hacc : ∀ column ∈ Pairs.names acc, Visible column) (h : collect c pairs acc = .ok row) :
    ∀ column ∈ Pairs.names row, Visible column := by
  induction pairs generalizing acc with
  | nil =>
    cases h
    exact hacc
  | cons pair rest ih =>
    obtain ⟨name, value⟩ := pair
    rw [collect] at h
    -- a blank column is refused, even where its value is null
    by_cases hblank : Text.isBlank name = true
    · rw [if_pos hblank] at h
      cases h
    · rw [if_neg hblank] at h
      by_cases hnull : value.isNull = true
      · rw [if_pos hnull] at h
        exact ih hacc h
      · rw [if_neg hnull] at h
        -- The column is put among those collected, which have to stay visible.
        refine ih ?_ h
        intro column hcolumn
        rw [Pairs.names_put] at hcolumn
        split at hcolumn
        · exact hacc column hcolumn
        · rcases List.mem_append.1 hcolumn with hold | hnew
          · exact hacc column hold
          · rw [List.mem_singleton.1 hnew]
            exact Text.visible_of_not_isBlank hblank

/-- Whatever form the data of a row has, a row to write has columns and none of them is blank. -/
theorem visible_of_bindable {data : RowData} {c : Clause} {row : Pairs Value}
    (h : data.bindable c = .ok row) :
    Pairs.names row ≠ [] ∧ ∀ column ∈ Pairs.names row, Visible column := by
  rw [bindable] at h
  split at h
  · cases h
  · rename_i pairs hpairs
    split at h
    · cases h
    · cases h
    · -- an empty row was refused, and of any other the columns were looked at one by one
      rename_i kept hnonempty hcollect
      cases h
      refine ⟨?_, visible_of_collect (by simp) hcollect⟩
      intro hnone
      exact hnonempty (List.map_eq_nil_iff.1 hnone)

end RowData

/-- A compiled condition shows a placeholder or a parenthesis. -/
theorem BoundCondition.visible_text (bound : BoundCondition) : Visible bound.text := by
  cases bound with
  | compare column operator value name =>
    have hmarker : Visible (placeholder name) :=
      Text.Visible.append_left ⟨':', by decide, by decide⟩ name
    rw [BoundCondition.text]
    exact hmarker.append_right _
  | group connective members =>
    have hparenthesis : Visible ")" := ⟨')', by decide, by decide⟩
    rw [BoundCondition.text]
    exact hparenthesis.append_right _

namespace Builder

/-! ## Phrases -/

/-- What one call adds to a statement. -/
inductive Phrase where
  | insertInto (table : String)
  | values (columns : List String)
  | selectAll
  | selectText (text : String)
  | selectList (names : List String)
  | fromTables (tables : List String)
  | update (table : String)
  | set (columns : List String)
  | delete
  | filter (conditions : String)

namespace Phrase

/-- The clause that the phrase is. -/
def clause : Phrase → Clause
  | insertInto _ => .insertInto
  | values _ => .insertValues
  | selectAll | selectText _ | selectList _ => .select
  | fromTables _ => .fromTables
  | update _ => .update
  | set _ => .updateSet
  | delete => .delete
  | filter _ => .filter

/-- The text of the phrase. -/
def text : Phrase → String
  | insertInto table => "INSERT INTO " ++ table
  | values columns => valuesText columns
  | selectAll => "SELECT * "
  | selectText text => "SELECT " ++ text ++ " "
  | selectList names => "SELECT " ++ Text.join ", " names ++ " "
  | fromTables tables => "FROM " ++ Text.join ", " tables ++ " "
  | update table => "UPDATE " ++ table ++ " "
  | set columns => setText columns
  | delete => "DELETE "
  | filter conditions => filterText conditions

/-- The tables, the columns or the condition that the phrase lists. -/
def items : Phrase → List String
  | insertInto table | update table => [table]
  | values columns | set columns => columns
  | selectAll => ["*"]
  | selectText text => [text]
  | selectList names => names
  | fromTables tables => tables
  | delete => []
  | filter conditions => [conditions]

/-- Nothing that the phrase lists is missing or blank. -/
def Filled (phrase : Phrase) : Prop :=
  (phrase ≠ .delete → phrase.items ≠ []) ∧ ∀ item ∈ phrase.items, Visible item

/-- The phrase is a list of columns for SELECT, and the list is not empty. -/
def ListsColumns (phrase : Phrase) : Prop :=
  ∃ names, phrase = .selectList names ∧ names ≠ []

/-- A phrase of one item is filled when that item shows something. -/
theorem filled_of_single {phrase : Phrase} {item : String} (h : phrase.items = [item])
    (hvisible : Visible item) : phrase.Filled := by
  unfold Filled
  rw [h]
  exact ⟨fun _ => List.cons_ne_nil _ _, by simpa using hvisible⟩

end Phrase

/-- The phrase lists what the argument of the call names. -/
inductive Describes : Call → Phrase → Prop where
  | insertInto (t : Target) : Describes (.insertInto t) (.insertInto t.table)
  | values {data : RowData} {row : Pairs Value} (h : data.bindable .insertValues = .ok row) :
      Describes (.values data) (.values (Pairs.names row))
  | selectAll : Describes (.select .all) .selectAll
  | selectText (text : String) : Describes (.select (.raw text)) (.selectText text)
  | selectList (names : List String) : Describes (.select (.list names)) (.selectList names)
  | fromTables (ts : List Target) :
      Describes (.fromTables ts) (.fromTables (ts.map Target.table))
  | update (t : Target) : Describes (.update t) (.update t.table)
  | set {data : RowData} {row : Pairs Value} (h : data.bindable .updateSet = .ok row) :
      Describes (.set data) (.set (Pairs.names row))
  | delete : Describes .delete .delete
  | raw (conditions : String) (bound : Params) :
      Describes (.filter (.raw conditions bound)) (.filter conditions)
  | tree (bound : BoundCondition) :
      Describes (.filter (.tree bound.condition)) (.filter bound.text)

/-- Each form of the columns of a SELECT is checked in its own way, and the members of a list are
not. -/
theorem exists_phrase_of_columns {columns : Columns} {text : String}
    (h : columns.render .select = .ok text) :
    ∃ phrase, Describes (.select columns) phrase ∧ phrase.text = "SELECT " ++ text ++ " " ∧
      (phrase.Filled ∨ phrase.ListsColumns) := by
  cases columns with
  -- the star stands for itself
  | all =>
    cases h
    have hstar : Visible "*" := ⟨'*', by decide, by decide⟩
    exact ⟨_, .selectAll, rfl, .inl (Phrase.filled_of_single rfl hstar)⟩
  -- a text is checked like any other item
  | raw literal =>
    rw [Columns.render] at h
    by_cases hblank : Text.isBlank literal = true
    · rw [if_pos hblank] at h
      cases h
    · rw [if_neg hblank] at h
      cases h
      have hvisible := Text.visible_of_not_isBlank hblank
      exact ⟨_, .selectText _, rfl, .inl (Phrase.filled_of_single rfl hvisible)⟩
  -- a list is checked for having members, but they are not looked at
  | list names =>
    rw [Columns.render] at h
    by_cases hempty : names.isEmpty = true
    · rw [if_pos hempty] at h
      cases h
    · rw [if_neg hempty] at h
      cases h
      exact ⟨_, .selectList names, rfl, .inr ⟨names, rfl, by simpa using hempty⟩⟩

/-- What a call writes is a phrase of its argument, and it is filled unless it is a list of columns
for SELECT. -/
theorem exists_phrase_of_write {call : Call} {c : Clause} {k : Option Kind} {p : Params}
    {w : Writing} (hc : call.clause? = some c) (h : call.write k p = .ok w) :
    ∃ phrase, Describes call phrase ∧ w.text = phrase.text ∧
      (phrase.Filled ∨ phrase.ListsColumns) := by
  -- One case for each call, as each checks its own argument: what is written could be resolved, and
  -- what could be resolved is not blank.
  cases call with
  | insertInto t =>
    cases hc
    obtain ⟨table, ht, rfl⟩ := exists_of_map_eq_ok h
    obtain ⟨rfl, hvisible⟩ := Target.visible_of_resolve ht
    exact ⟨_, .insertInto t, rfl, .inl (Phrase.filled_of_single rfl hvisible)⟩
  | values data =>
    cases hc
    -- the columns of the row, of which there is one at least
    obtain ⟨row, hrow, rfl⟩ := exists_of_map_eq_ok h
    obtain ⟨hsome, hvisible⟩ := RowData.visible_of_bindable hrow
    exact ⟨_, .values hrow, rfl, .inl ⟨fun _ => hsome, hvisible⟩⟩
  | select columns =>
    cases hc
    obtain ⟨text, ht, rfl⟩ := exists_of_map_eq_ok h
    -- SELECT is the one clause that may be written without being filled
    obtain ⟨phrase, hdescribes, htext, hfilled⟩ := exists_phrase_of_columns ht
    exact ⟨phrase, hdescribes, htext.symm, hfilled⟩
  | fromTables ts =>
    cases hc
    obtain ⟨tables, ht, rfl⟩ := exists_of_map_eq_ok h
    obtain ⟨rfl, hsome, hvisible⟩ := visible_of_resolveTargets ht
    exact ⟨_, .fromTables ts, rfl, .inl ⟨fun _ => hsome, hvisible⟩⟩
  | update t =>
    cases hc
    obtain ⟨table, ht, rfl⟩ := exists_of_map_eq_ok h
    obtain ⟨rfl, hvisible⟩ := Target.visible_of_resolve ht
    exact ⟨_, .update t, rfl, .inl (Phrase.filled_of_single rfl hvisible)⟩
  | set data =>
    cases hc
    obtain ⟨row, hrow, rfl⟩ := exists_of_map_eq_ok h
    obtain ⟨hsome, hvisible⟩ := RowData.visible_of_bindable hrow
    exact ⟨_, .set hrow, rfl, .inl ⟨fun _ => hsome, hvisible⟩⟩
  | delete =>
    cases hc
    cases h
    -- DELETE lists nothing, and needs nothing
    exact ⟨_, .delete, rfl, .inl ⟨fun hother => absurd rfl hother, by simp [Phrase.items]⟩⟩
  | filter f =>
    cases hc
    cases f with
    -- literal SQL is refused where it is blank
    | raw conditions bound =>
      rw [Call.write] at h
      by_cases hblank : Text.isBlank conditions = true
      · rw [if_pos hblank] at h
        cases h
      · rw [if_neg hblank] at h
        cases h
        exact ⟨_, .raw conditions bound, rfl,
          .inl (Phrase.filled_of_single rfl (Text.visible_of_not_isBlank hblank))⟩
    | tree condition =>
      -- a tree that compiles shows its placeholders or its parentheses
      obtain ⟨bound, rfl, htext, -⟩ := exists_of_write_tree h
      exact ⟨_, .tree bound, htext,
        .inl (Phrase.filled_of_single rfl bound.visible_text)⟩
  -- the other calls put down no clause
  | append sql => cases hc
  | setQuery sql values => cases hc
  | statement => cases hc
  | bindings => cases hc
  | build => cases hc

/-! ## Runs -/

/-- What describes a phrase puts its clause down. -/
theorem Describes.part? {call : Call} {phrase : Phrase} (h : Describes call phrase) :
    call.part? = some (.clause phrase.clause) := by
  cases h <;> rfl

/-- The calls of a draft that is not a custom statement write phrases one after another. -/
theorem exists_phrases_of_ofCalls {table : RuleTable} {calls : List Call} {d : Draft}
    (h : Draft.ofCalls table calls = .ok d) (structured : Part.custom ∉ d.shape) :
    ∃ phrases, List.Forall₂ Describes (calls.filter (·.part?.isSome)) phrases ∧
      d.text = String.join (phrases.map Phrase.text) ∧
      ∀ phrase ∈ phrases, phrase.Filled ∨ phrase.ListsColumns := by
  -- The induction takes the last call off: it writes one phrase or none.
  induction calls using List.reverseRecOn generalizing d with
  | nil =>
    cases h
    exact ⟨[], .nil, rfl, by simp⟩
  | append_singleton calls call ih =>
    rw [Draft.ofCalls_append] at h
    cases hbefore : Draft.ofCalls table calls with
    | error e =>
      rw [hbefore] at h
      cases h
    | ok before =>
      rw [hbefore] at h
      have hshape := Draft.shape_of_add h
      rw [hshape, List.mem_append, not_or] at structured
      obtain ⟨phrases, hphrases, htext, hfilled⟩ := ih hbefore structured.1
      cases hc : call.clause? with
      | some c =>
        obtain ⟨w, hw, rfl⟩ := Draft.exists_of_add hc h
        obtain ⟨phrase, hdescribes, hwritten, hlast⟩ := exists_phrase_of_write hc hw
        refine ⟨phrases ++ [phrase], ?_, ?_, ?_⟩
        · -- calls: the last one is described by the phrase behind the others
          rw [List.filter_append, List.filter_cons_of_pos (by simp [hdescribes.part?])]
          exact List.rel_append hphrases (.cons hdescribes .nil)
        · -- text: it grows by what the call writes
          have hgrown : Draft.text ⟨before.parts ++ [(.clause c, w.text)], w.params⟩ =
              before.text ++ w.text := by simp [Draft.text]
          rw [hgrown, htext, hwritten]
          simp
        · -- filled: by the induction, or by the call itself
          intro other hother
          rcases List.mem_append.1 hother with hold | hnew
          · exact hfilled other hold
          · cases List.mem_singleton.1 hnew
            exact hlast
      | none =>
        -- a call without a clause puts nothing down, as no part is a custom statement
        have hp : call.part? = none := Draft.part?_of_no_clause hc (by simpa using structured.2)
        rw [Except.bind, Draft.add_of_part?_eq_none hp] at h
        cases h
        refine ⟨phrases, ?_, htext, hfilled⟩
        rw [List.filter_append, List.filter_cons_of_neg (by simp [hp])]
        simpa using hphrases

/-- The parts of calls are the clauses of the phrases that describe them. -/
theorem map_part?_of_describes {calls : List Call} {phrases : List Phrase}
    (h : List.Forall₂ Describes calls phrases) :
    calls.map Call.part? = phrases.map fun phrase => some (.clause phrase.clause) := by
  induction h with
  | nil => rfl
  | cons hdescribes _ ih => rw [List.map_cons, List.map_cons, hdescribes.part?, ih]

/-- Among all calls the phrases are those of the calls that put something down. -/
theorem clauses_of_describes {calls : List Call} {phrases : List Phrase}
    (h : List.Forall₂ Describes (calls.filter (·.part?.isSome)) phrases) :
    phrases.map (fun phrase => Part.clause phrase.clause) = calls.filterMap Call.part? := by
  have hparts := map_part?_of_describes h
  rw [map_part?_filter] at hparts
  rw [← List.map_inj_right (f := some) fun x y => Option.some.inj, hparts, List.map_map]
  rfl

/-- A complete statement of another kind has no custom part. -/
theorem custom_not_mem_of_complete : ∀ shape ∈ completeShapes,
    kindOf .standard shape ≠ some .custom → Part.custom ∉ shape := by
  decide

/-- A statement that renders, other than a custom one, is the phrases of the calls that succeeded,
in their order and with the text appended last behind them. No table, no column, no column text and
no condition that they list is blank, and no list is empty, in whatever form the arguments were
given; only a list of columns for SELECT is written with whatever members it has. -/
theorem phrases_are_filled (calls : List Call) (sql : String)
    (structured : (new.afterAll calls).kind ≠ some .custom)
    (h : (new.afterAll calls).currentText = .ok sql) :
    ∃ phrases : List Phrase,
      List.Forall₂ Describes ((new.accepted calls).filter (·.part?.isSome)) phrases ∧
      phrases.map (fun phrase => Part.clause phrase.clause) ∈ completeShapes ∧
      sql = String.join (phrases.map Phrase.text) ++
        (lastAppended (new.accepted calls)).getD "" ∧
      ∀ phrase ∈ phrases, phrase.Filled ∨ phrase.ListsColumns := by
  obtain ⟨d, htracks, hbegun⟩ := begun_of_run (run_accepted new calls)
  -- A text that was kept is the one that would be rendered now.
  have hrender : (new.afterAll calls).render = .ok sql := by
    unfold currentText at h
    cases hkept : (new.afterAll calls).rendered with
    | some kept =>
      rw [hkept] at h
      cases h
      exact htracks.kept _ hkept
    | none =>
      rw [hkept] at h
      exact h
  rw [render_of_tracks htracks hbegun, rendering_eq_ok_iff] at hrender
  obtain ⟨hcomplete, hsql⟩ := hrender
  -- The kind is that of the shape, and a complete shape of another kind holds no custom text.
  rw [htracks.agrees.kind, htracks.table_eq] at structured
  obtain ⟨phrases, hdescribes, htext, hfilled⟩ := exists_phrases_of_ofCalls htracks.draft
    (custom_not_mem_of_complete _ hcomplete structured)
  refine ⟨phrases, hdescribes, ?_, ?_, hfilled⟩
  · rw [clauses_of_describes hdescribes, ← Draft.shape_of_ofCalls htracks.draft]
    exact hcomplete
  · rw [hsql, htext]

/-- A DELETE from two tables with a literal condition. -/
def deletion : List Call :=
  [.delete, .fromTables [.name "drafts", .handle "notes"],
    .filter (.raw "drafts.id = notes.draft" .empty), .append "LIMIT 1"]

theorem deletion_is_filled :
    ∃ phrases : List Phrase, List.Forall₂ Describes (deletion.take 3) phrases ∧
      "DELETE FROM drafts, notes WHERE drafts.id = notes.draft LIMIT 1" =
        String.join (phrases.map Phrase.text) ++ "LIMIT 1" ∧
      ∀ phrase ∈ phrases, phrase.Filled ∨ phrase.ListsColumns := by
  have htext : (new.afterAll deletion).currentText =
      .ok "DELETE FROM drafts, notes WHERE drafts.id = notes.draft LIMIT 1" := by
    decide +kernel
  have hkind : (new.afterAll deletion).kind ≠ some .custom := by decide
  obtain ⟨phrases, hdescribes, -, hsql, hfilled⟩ := phrases_are_filled deletion _ hkind htext
  exact ⟨phrases, hdescribes, hsql, hfilled⟩

/-- A blank column in a list is selected like any other. -/
theorem blank_column_is_selected :
    ¬ ∀ (calls : List Call) (sql : String), (new.afterAll calls).kind ≠ some .custom →
      (new.afterAll calls).currentText = .ok sql →
        ∃ phrases : List Phrase,
          List.Forall₂ Describes ((new.accepted calls).filter (·.part?.isSome)) phrases ∧
          ∀ phrase ∈ phrases, phrase.Filled := by
  intro h
  have htext : (new.afterAll [.select (.list [" "]), .fromTables [.name "t"]]).currentText =
      .ok "SELECT   FROM t " := by decide +kernel
  obtain ⟨phrases, hdescribes, hfilled⟩ := h _ _ (by decide) htext
  have hcalls : List.Forall₂ Describes
      [.select (.list [" "]), .fromTables [.name "t"]] phrases := hdescribes
  cases hcalls with
  | cons hselect hrest =>
    cases hselect
    obtain ⟨c, hc, hvisible⟩ := (hfilled _ (.head _)).2 " " (by simp [Phrase.items])
    have hspace : c = ' ' := by simpa using hc
    rw [hspace] at hvisible
    cases hvisible

end Builder

end BoundSql
