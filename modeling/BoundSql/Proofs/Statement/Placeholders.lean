import Mathlib.Data.List.Dedup
import Mathlib.Data.Option.Basic
import BoundSql.Proofs.Condition.Tokens
import BoundSql.Proofs.Engine.Placeholders
import BoundSql.Proofs.Statement.NormalRow
import BoundSql.Proofs.Statement.Phrases

/-!
# The placeholders of a statement

A statement and its bindings go to an engine, which looks for parameters in the text and gives each
of them the value that is bound under its name. The statement names its parameters after columns. In
the placeholder of a column without a point the engine finds just that placeholder, so each binding
has its parameter and each parameter its binding. The placeholder of a column with its table before
it, `:t.x`, is no name for the engine: it finds `:t`, which is another parameter, and passes the
binding over.

Main statement: `placeholders_are_seen_up_to_the_first_point`. It rests on `isRead_of_says`, which
reads the text of a sentence piece by piece.
-/

namespace BoundSql

open Engine Engine.Token

/-! ## Conditions -/

namespace Condition

/-- Every column is a name, with or without its table, every operator is one of the usual, and no
group is empty. -/
def Named (c : Condition) : Prop :=
  c.Every fun column operator => IsColumnName column ∧ operator ∈ operators

/-- Every condition of a list is named. -/
def NamedEach (cs : List Condition) : Prop :=
  EveryEach (fun column operator => IsColumnName column ∧ operator ∈ operators) cs

end Condition

namespace BoundCondition

/-- A column with a number behind it is a column name too. -/
theorem isColumnName_of_named {column name : String} (hcolumn : IsColumnName column)
    (hname : name = column ∨ ∃ n, name = Params.suffixed column n) : IsColumnName name := by
  rcases hname with rfl | ⟨n, rfl⟩
  · exact hcolumn
  · exact hcolumn.append fun d hd => isNameChar_of_mem_number hd

/-- An operator has no parameters. -/
theorem reads_operator {operator : String} (h : operator ∈ Condition.operators) :
    Reads operator [] := by
  rcases List.mem_cons.1 h with rfl | h
  · exact Reads.word (by decide)
  · exact Reads.comparisonMark h

/-- Two conditions with a connective between them. -/
theorem reads_connective (connective : Connective) {a b : String} {ps qs : List String}
    (ha : Reads a ps) (hb : Reads b qs) :
    Reads (a ++ (" " ++ connective.keyword ++ " ") ++ b) (ps ++ qs) := by
  have hkeyword : Reads connective.keyword [] := by
    cases connective <;> exact Reads.word (by decide)
  have hboth := (ha.space hkeyword).space hb
  simpa [String.append_assoc] using hboth

/-- What is found of the placeholders of a condition. -/
def seenOf (c : BoundCondition) : List String :=
  (Pairs.names c.entries).map seen

/-- The texts of members are the texts of each. -/
theorem texts_eq_map (members : List BoundCondition) : texts members = members.map text := by
  induction members with
  | nil => rfl
  | cons c rest ih => rw [texts, ih, List.map_cons]

/-- What is found of a group is found of its members in order. -/
theorem seenOf_group (connective : Connective) (members : List BoundCondition) :
    (group connective members).seenOf = members.flatMap seenOf := by
  rw [seenOf, entries]
  induction members with
  | nil => rfl
  | cons c rest ih =>
    rw [entriesEach, Pairs.names_append, List.map_append, ih, List.flatMap_cons]
    rfl

mutual

/-- In the text of a condition its placeholders are found, each up to its first point. -/
theorem reads_text (c : BoundCondition) (h : c.condition.Named) (hnamed : c.NamedByColumn) :
    Reads c.text c.seenOf := by
  match c with
  -- the column and the operator have no parameters, the placeholder has one
  | .compare column operator value name =>
    obtain ⟨hcolumn, hoperator⟩ := h
    have hname := isColumnName_of_named hcolumn hnamed
    exact ((Reads.column hcolumn).space (reads_operator hoperator)).space (Reads.placeholder hname)
  | .group connective members =>
    have hne := members_ne_nil h.1
    -- between the parentheses the members are read one after another
    have hmembers := Reads.join (reads_connective connective) hne
      (reads_members members h.2 hnamed)
    rw [seenOf_group, text, texts_eq_map]
    exact hmembers.opened.closed

/-- The same for every member of a group. -/
theorem reads_members (members : List BoundCondition)
    (h : Condition.NamedEach (conditions members)) (hnamed : NamedByColumnEach members) :
    ∀ c ∈ members, Reads c.text c.seenOf := by
  match members with
  | [] => exact nofun
  | first :: rest =>
    exact List.forall_mem_cons.2
      ⟨reads_text first h.1 hnamed.1, reads_members rest h.2 hnamed.2⟩

end

mutual

/-- The names of a condition are column names. -/
theorem isColumnName_of_mem (c : BoundCondition) (h : c.condition.Named)
    (hnamed : c.NamedByColumn) : ∀ name ∈ Pairs.names c.entries, IsColumnName name := by
  match c with
  | .compare column operator value name =>
    rintro _ (_ | ⟨_, ⟨⟩⟩)
    exact isColumnName_of_named h.1 hnamed
  | .group connective members => exact isColumnName_of_memEach members h.2 hnamed

/-- The same for the names of several conditions. -/
theorem isColumnName_of_memEach (members : List BoundCondition)
    (h : Condition.NamedEach (conditions members)) (hnamed : NamedByColumnEach members) :
    ∀ name ∈ Pairs.names (entriesEach members), IsColumnName name := by
  match members with
  | [] => exact nofun
  | first :: rest =>
    rw [entriesEach, Pairs.names_append]
    exact List.forall_mem_append.2 ⟨isColumnName_of_mem first h.1 hnamed.1,
      isColumnName_of_memEach rest h.2 hnamed.2⟩

end

end BoundCondition

/-! ## Lists of columns -/

section Lists

variable {columns : List String}

/-- A list of columns has no parameters. -/
theorem reads_columns (hne : columns ≠ []) (h : ∀ c ∈ columns, IsColumnName c) :
    Reads (Text.join ", " columns) [] := by
  have hjoined := Reads.join (f := id) (g := fun _ => []) Reads.comma hne
    fun c hc => Reads.column (h c hc)
  have hnone : columns.flatMap (fun _ => ([] : List String)) = [] := by
    simp [List.flatMap_eq_nil_iff]
  rwa [hnone, List.map_id] at hjoined

/-- In a list of placeholders each is found up to its first point. -/
theorem reads_placeholders (hne : columns ≠ []) (h : ∀ c ∈ columns, IsColumnName c) :
    Reads (Text.join ", " (columns.map placeholder)) (columns.map seen) := by
  have hjoined := Reads.join (g := fun c => [seen c]) Reads.comma hne
    fun c hc => Reads.placeholder (h c hc)
  rwa [← List.map_eq_flatMap] at hjoined

/-- In a list of assignments each placeholder is found up to its first point. -/
theorem reads_assignments (hne : columns ≠ []) (h : ∀ c ∈ columns, IsColumnName c) :
    Reads (Text.join ", " (columns.map fun c => c ++ " = " ++ placeholder c))
      (columns.map seen) := by
  have hassignment : ∀ c ∈ columns, Reads (c ++ " = " ++ placeholder c) [seen c] := by
    intro c hc
    have hequals : Reads "=" [] := Reads.comparisonMark (by decide)
    have hboth := ((Reads.column (h c hc)).space hequals).space (Reads.placeholder (h c hc))
    simpa [String.append_assoc] using hboth
  have hjoined := Reads.join Reads.comma hne hassignment
  rwa [← List.map_eq_flatMap] at hjoined

end Lists

namespace Builder

/-! ## Calls and sentences -/

/-- The tables of a call are identifiers, its columns are names with or without their table, and its
condition is a tree with the usual operators. What a SELECT lists may be any text that is read on
its own, and whatever is appended may be any text. -/
def Call.Named : Call → Prop
  | .insertInto t | .update t => isIdentifier t.table = true
  | .fromTables ts => ∀ t ∈ ts, isIdentifier t.table = true
  | .values data | .set data =>
    ∀ c row, data.bindable c = .ok row → ∀ column ∈ Pairs.names row, IsColumnName column
  | .select columns => ∀ text, columns.render .select = .ok text → ∃ params, Reads text params
  | .filter f => ∃ condition, f = .tree condition ∧ condition.Named
  | .setQuery _ _ => False
  | .delete | .append _ | .statement | .bindings | .build => True

/-- Whatever columns are listed by their names, and the star for all of them, are read on their
own. -/
theorem named_select_list {columns : Columns}
    (h : columns = .all ∨ ∃ names, columns = .list names ∧ ∀ c ∈ names, IsColumnName c) :
    Call.Named (.select columns) := by
  intro text htext
  rcases h with rfl | ⟨names, rfl, hnames⟩
  · cases htext
    exact ⟨[], Reads.star⟩
  · rw [Columns.render] at htext
    split at htext
    · cases htext
    · -- an empty list was refused, so that there are columns to join
      rename_i hempty
      cases htext
      exact ⟨[], reads_columns (by simpa using hempty) hnames⟩

/-- A row whose data gives named columns is written with named columns. -/
theorem named_row {data : RowData} {pairs : Pairs Value} (hpairs : data.Presents pairs)
    (h : ∀ column ∈ Pairs.names pairs, IsColumnName column) : Call.Named (.set data) := by
  intro c row hrow column hcolumn
  have hnormal := RowData.normalForm_of_bindable hpairs hrow
  obtain ⟨value, hmem, -⟩ := (hnormal.columns column).1 hcolumn
  exact h column (List.mem_map_of_mem hmem)

namespace Sentence

/-- The parameters in the text of a sentence that stand for none of its bindings: those in what a
SELECT lists. -/
def own : Sentence → List String
  | select columns _ | selectWhere columns _ _ => (found? columns).getD []
  | insert _ _ | update _ _ _ | delete _ _ | custom _ _ => []

/-- The character that ends the text of a sentence. -/
def closing : Sentence → String
  | insert _ _ => ")"
  | _ => " "

/-- What is found of the placeholders of a sentence. -/
def seenOf (s : Sentence) : List String :=
  (Pairs.names s.bindings).map seen

/-- Up to the character that ends it, the text of a sentence is a piece in which just the
placeholders of its bindings are found. -/
def IsRead (s : Sentence) : Prop :=
  ∃ piece, s.text = piece ++ s.closing ∧ Reads piece (s.own ++ s.seenOf)

/-- A sentence ends with a space or with a closing parenthesis. -/
theorem closing_cases (s : Sentence) : s.closing = " " ∨ s.closing = ")" := by
  cases s <;> simp [closing]

/-- What ends a sentence separates it from whatever is appended. -/
theorem separates_closing (s : Sentence) (rest : String) :
    Separates (s.closing ++ rest).toList := by
  rcases s.closing_cases with h | h
  · rw [h, String.toList_append]
    exact separates_cons (c := ' ') (by decide) _
  · rw [h, String.toList_append]
    exact separates_cons (c := ')') (by decide) _

/-- There are no parameters in the character that ends a sentence. -/
theorem found?_closing (s : Sentence) : found? s.closing = some [] := by
  rcases s.closing_cases with h | h
  · rw [h, found?_eq]
    exact (foundFrom_space (by decide)).trans foundFrom_nil
  · rw [h, found?_eq]
    exact (foundFrom_mark (by decide) []).trans foundFrom_nil

/-- A sentence is read when the piece in front of its last character is. -/
theorem IsRead.of_reads {s : Sentence} {piece : String} {params : List String}
    (h : Reads piece params) (hparams : params = s.own ++ s.seenOf)
    (htext : s.text = piece ++ s.closing) : s.IsRead :=
  ⟨piece, htext, hparams ▸ h⟩

end Sentence

/-! ## Reading sentences -/

/-- The tables of a statement are read on their own. -/
theorem reads_tables {ts : List Target} {tables : List String}
    (h : resolveTargets ts .fromTables = .ok tables) (named : Call.Named (.fromTables ts)) :
    Reads (Text.join ", " tables) [] := by
  obtain ⟨rfl, hne, -⟩ := visible_of_resolveTargets h
  refine reads_columns hne ?_
  intro table htable
  obtain ⟨t, ht, rfl⟩ := List.mem_map.1 htable
  exact .plain (named t ht)

/-- A table has no parameters. -/
theorem reads_table {t : Target} {c : Clause} {table : String} (h : t.resolve c = .ok table)
    (named : isIdentifier t.table = true) : Reads table [] := by
  obtain ⟨rfl, -⟩ := Target.visible_of_resolve h
  exact Reads.word named

/-- An INSERT is read as the placeholders of its row. -/
theorem isRead_insert {t : Target} {data : RowData} {table : String} {row : Pairs Value}
    (ht : t.resolve .insertInto = .ok table) (hrow : data.bindable .insertValues = .ok row)
    (htable : Call.Named (.insertInto t)) (hdata : Call.Named (.values data)) :
    (Sentence.insert table row).IsRead := by
  have hne := (RowData.visible_of_bindable hrow).1
  have hcolumns := hdata .insertValues row hrow
  have hinsert : Reads "INSERT" [] := Reads.word (by decide)
  have hinto : Reads "INTO" [] := Reads.word (by decide)
  have hvalues : Reads "VALUES" [] := Reads.word (by decide)
  -- the closing parenthesis of the placeholders is the character that ends the sentence
  have hpiece := ((((hinsert.space hinto).space (reads_table ht htable)).space
    (reads_columns hne hcolumns).opened.closed).space hvalues).space
    (reads_placeholders hne hcolumns).opened
  refine .of_reads hpiece rfl ?_
  unfold Sentence.text Sentence.closing
  simp [← String.toList_inj]

/-- SELECT, what it lists, FROM and the tables. -/
theorem reads_selection {columns : Columns} {ts : List Target} {text : String}
    {tables : List String} (hc : columns.render .select = .ok text)
    (ht : resolveTargets ts .fromTables = .ok tables) (hcolumns : Call.Named (.select columns))
    (htables : Call.Named (.fromTables ts)) :
    Reads ("SELECT" ++ " " ++ text ++ " " ++ "FROM" ++ " " ++ Text.join ", " tables)
      ((found? text).getD []) := by
  obtain ⟨params, htext⟩ := hcolumns text hc
  have hselect : Reads "SELECT" [] := Reads.word (by decide)
  have hfrom : Reads "FROM" [] := Reads.word (by decide)
  have hpiece := ((hselect.space htext).space hfrom).space (reads_tables ht htables)
  rw [htext.found?_eq]
  simpa using hpiece

/-- WHERE and a condition behind a piece. -/
theorem reads_where {piece : String} {params : List String} (h : Reads piece params)
    {condition : BoundCondition} (hcondition : condition.condition.Named)
    (hnamed : condition.NamedByColumn) :
    Reads (piece ++ " " ++ "WHERE" ++ " " ++ condition.text) (params ++ condition.seenOf) := by
  have hwhere : Reads "WHERE" [] := Reads.word (by decide)
  have hpiece := (h.space hwhere).space (condition.reads_text hcondition hnamed)
  simpa using hpiece

/-- An UPDATE is read as the placeholders of its row and then of its condition. -/
theorem isRead_update {t : Target} {data : RowData} {table : String} {row : Pairs Value}
    {condition : BoundCondition} (ht : t.resolve .update = .ok table)
    (hrow : data.bindable .updateSet = .ok row) (htable : Call.Named (.update t))
    (hdata : Call.Named (.set data)) (hcondition : condition.condition.Named)
    (hnamed : condition.NamedByColumn) : (Sentence.update table row condition).IsRead := by
  have hne := (RowData.visible_of_bindable hrow).1
  have hupdate : Reads "UPDATE" [] := Reads.word (by decide)
  have hset : Reads "SET" [] := Reads.word (by decide)
  have hassignments := reads_assignments hne (hdata .updateSet row hrow)
  have hpiece := reads_where (((hupdate.space (reads_table ht htable)).space hset).space
    hassignments) hcondition hnamed
  refine .of_reads hpiece ?params ?text
  case params =>
    simp [Sentence.own, Sentence.seenOf, Sentence.bindings, BoundCondition.seenOf]
  case text =>
    unfold Sentence.text Sentence.closing
    simp [← String.toList_inj]

/-- A DELETE is read as the placeholders of its condition. -/
theorem isRead_delete {ts : List Target} {tables : List String} {condition : BoundCondition}
    (ht : resolveTargets ts .fromTables = .ok tables) (htables : Call.Named (.fromTables ts))
    (hcondition : condition.condition.Named) (hnamed : condition.NamedByColumn) :
    (Sentence.delete tables condition).IsRead := by
  have hdelete : Reads "DELETE" [] := Reads.word (by decide)
  have hfrom : Reads "FROM" [] := Reads.word (by decide)
  have hpiece := reads_where ((hdelete.space hfrom).space (reads_tables ht htables)) hcondition
    hnamed
  refine .of_reads hpiece rfl ?_
  unfold Sentence.text Sentence.closing
  simp [← String.toList_inj]

/-- The condition of a call with columns named is named. -/
theorem condition_named {condition : BoundCondition}
    (h : Call.Named (.filter (.tree condition.condition))) :
    condition.condition.Named := by
  obtain ⟨_, htree, hnamed⟩ := h
  cases htree
  exact hnamed

/-- The sentence that named calls say is read as its placeholders. -/
theorem isRead_of_says {calls : List Call} {s : Sentence} (h : Says calls s)
    (named : ∀ call ∈ calls, call.Named) (hnamed : s.NamedByColumn) : s.IsRead := by
  -- one case for each sentence; literal SQL is no call with columns named
  cases h with
  | insert ht hrow => exact isRead_insert ht hrow (named _ (by simp)) (named _ (by simp))
  | select hc ht =>
    have hpiece := reads_selection hc ht (named _ (by simp)) (named _ (by simp))
    refine .of_reads hpiece ?params ?text
    case params => simp [Sentence.own, Sentence.seenOf, Sentence.bindings]
    case text =>
      unfold Sentence.text Sentence.closing
      simp [← String.toList_inj]
  | selectWhere hc ht condition =>
    have hpiece := reads_where (reads_selection hc ht (named _ (by simp)) (named _ (by simp)))
      (condition_named (named _ (by simp))) hnamed
    refine .of_reads hpiece rfl ?_
    unfold Sentence.text Sentence.closing
    simp [← String.toList_inj]
  | update ht hrow condition =>
    exact isRead_update ht hrow (named _ (by simp)) (named _ (by simp))
      (condition_named (named _ (by simp))) hnamed
  | delete ht condition =>
    exact isRead_delete ht (named _ (by simp)) (condition_named (named _ (by simp))) hnamed
  | custom sql values => exact (named (.setQuery sql values) (by simp)).elim

/-- The bindings of a sentence that named calls say have column names. -/
theorem isColumnName_of_says {calls : List Call} {s : Sentence} (h : Says calls s)
    (named : ∀ call ∈ calls, call.Named) (hnamed : s.NamedByColumn) :
    ∀ name ∈ Pairs.names s.bindings, IsColumnName name := by
  cases h with
  | @insert t data table row ht hrow =>
    have hdata : Call.Named (.values data) := named _ (by simp)
    exact hdata .insertValues row hrow
  | select hc ht => exact nofun
  | selectWhere hc ht condition =>
    exact condition.isColumnName_of_mem (condition_named (named _ (by simp))) hnamed
  | @update t data table row ht hrow condition =>
    have hdata : Call.Named (.set data) := named _ (by simp)
    rw [Sentence.bindings, Pairs.names_append]
    exact List.forall_mem_append.2 ⟨hdata .updateSet row hrow,
      condition.isColumnName_of_mem (condition_named (named _ (by simp))) hnamed⟩
  | delete ht condition =>
    exact condition.isColumnName_of_mem (condition_named (named _ (by simp))) hnamed
  | custom sql values => exact (named (.setQuery sql values) (by simp)).elim

/-! ## Built statements -/

/-- No name of a binding has a point in it. -/
def Sentence.IsPlain (s : Sentence) : Prop :=
  ∀ name ∈ Pairs.names s.bindings, '.' ∉ name.toList

/-- What an engine makes of a statement that is a sentence with a text appended. -/
structure Sentence.SeenAs (s : Sentence) (appended : String) (q : BuiltQuery) : Prop where
  bindings : q.params.toList = marked s.bindings
  /-- The placeholders of the bindings are found one after another, each up to its first point.
  Before them come the parameters of what a SELECT lists, and behind them those of the text
  appended. -/
  found : found? q.statement =
    (found? (s.closing ++ appended)).map (s.own ++ s.seenOf ++ ·)
  /-- If there are no parameters in what a SELECT lists and nothing is appended, nothing else is
  found. -/
  quiet : s.own = [] → appended = "" → found? q.statement = some s.seenOf
  /-- Without a point in any name, what is found of the placeholders is the placeholders. -/
  plain : s.IsPlain → s.seenOf = q.params.placeholders
  /-- If nothing else is found, every engine whose prepared statement has the parameters found in
  its text takes the bindings accordingly. -/
  taken : found? q.statement = some s.seenOf →
    ∀ {σ : Type} (c : Connection σ) (state : σ) (statement : Engine.Statement σ),
      c.prepare q.statement state = .ok statement →
      (∀ found, found? q.statement = some found → statement.parameters.Declares found) →
      ∀ method, c.Takes method q.statement q.params state statement (Pairs.names s.bindings) ∧
        (s.IsPlain → (∃ values, c.runs method q.statement q.params state = [values]) ∧
          ∀ text ∈ q.params.placeholders, some text ∈ statement.parameters)

/-- What an engine makes of a sentence follows from how it is read. -/
theorem Sentence.IsRead.seenAs {s : Sentence} (h : s.IsRead)
    (hcolumns : ∀ name ∈ Pairs.names s.bindings, IsColumnName name) {q : BuiltQuery}
    {appended : String} (htext : q.statement = s.text ++ appended)
    (hentries : q.params.entries = s.bindings) : s.SeenAs appended q := by
  obtain ⟨piece, hpiece, hreads⟩ := h
  have hplaceholders : q.params.placeholders = (Pairs.names s.bindings).map placeholder := by
    rw [← hentries, Params.placeholders, Pairs.names, List.map_map]
    rfl
  -- what is appended follows the character that ends the sentence
  have hfound : found? q.statement =
      (found? (s.closing ++ appended)).map (s.own ++ s.seenOf ++ ·) := by
    rw [htext, hpiece, String.append_assoc, hreads.found?_append (s.separates_closing appended)]
  constructor
  case bindings => rw [Params.toList, hentries]
  case found => exact hfound
  case quiet =>
    rintro hown rfl
    rw [hfound, String.append_empty, s.found?_closing, hown]
    simp
  case plain =>
    intro hplain
    rw [hplaceholders]
    refine List.map_congr_left ?_
    intro name hname
    exact (hcolumns name hname).seen_eq_iff.2 (hplain name hname)
  case taken =>
    intro hquiet σ c state statement hprepare hdeclares method
    have htakes := Connection.takes_of_declares hcolumns hprepare (hdeclares _ hquiet) method
      q.params
    exact ⟨htakes, htakes.all_of_plain hcolumns hplaceholders⟩

/-- Of a statement that is built after any calls, with tables and columns named and its condition
given as a tree, an engine sees the placeholders of the bindings up to their first points. So if no
column is named with its table, the parameters of the statement are the placeholders of its
bindings: it runs, each parameter has received its value, and no binding is passed over. -/
theorem placeholders_are_seen_up_to_the_first_point (calls : List Call) (r : Response)
    (named : ∀ call ∈ new.accepted calls, call.Named)
    (h : (new.afterAll calls).outcome .build = .ok r) :
    ∃ q s, r.answer = .built q ∧ Says ((new.accepted calls).filter (·.part?.isSome)) s ∧
      s.SeenAs ((lastAppended (new.accepted calls)).getD "") q := by
  have trees : ∀ f, Call.filter f ∈ new.accepted calls → ∃ condition, f = .tree condition := by
    intro f hf
    obtain ⟨condition, htree, -⟩ := named _ hf
    exact ⟨condition, htree⟩
  -- Calls that failed left nothing behind, so the run is that of the accepted calls.
  obtain ⟨d, htracks, hbegun⟩ := begun_of_run (run_accepted new calls)
  obtain ⟨hcomplete, events, rfl⟩ := outcome_of_tracks htracks hbegun rfl h
  obtain ⟨s, hsays, htext, hentries, hnamed⟩ := named_of_tracks trees htracks hcomplete
  have hcalls : ∀ call ∈ (new.accepted calls).filter (·.part?.isSome), call.Named :=
    fun call hcall => named call (List.mem_of_mem_filter hcall)
  have hread := isRead_of_says hsays hcalls hnamed
  have hcolumns := isColumnName_of_says hsays hcalls hnamed
  refine ⟨_, s, rfl, hsays, hread.seenAs hcolumns ?text ?entries⟩
  case text => simp only [Rendered.built, htext]
  case entries => rw [params_built, hentries]

/-- A statement with the parameters found in its text, which does nothing. -/
def reading (found : List String) : Engine.Statement Unit where
  parameters := found.dedup.map some
  columns := []
  perform _ state := (.ok 0, state)
  rows _ state := .done state

/-- An engine that prepares every text that can be cut into tokens. -/
def reader : Connection Unit where
  prepare sql _ :=
    match found? sql with
    | none => .error .engine
    | some found => .ok (reading found)
  lastId _ := 0

/-- Such an engine prepares every text that can be cut. -/
theorem prepare_reader {sql : String} {found : List String} (h : found? sql = some found) :
    reader.prepare sql () = .ok (reading found) := by
  simp only [reader, h]

/-- Its statements have the parameters found, each of them once. -/
theorem declares_reading (found : List String) : (reading found).parameters.Declares found := by
  constructor
  · have hnodup : (found.dedup.map some).Nodup :=
      found.nodup_dedup.map (Option.some_injective String)
    have hdistinct : (found.dedup.map some).Pairwise fun a b => a ≠ none → a ≠ b := by
      refine List.Pairwise.imp ?_ hnodup
      intro a b hne _
      exact hne
    exact hdistinct
  · intro name?
    simp [reading, eq_comm]

/-- A condition that repeats a column of the row, and a text behind it. -/
def retitling : List Call :=
  [.update (.name "notes"), .set (.mapping [("title", .text "b")]), .append "RETURNING id",
    .filter (.tree (.all [.eq "id" (.int 1), .like "title" (.text "a%")]))]

def retitlingQuery : BuiltQuery :=
  ⟨"UPDATE notes SET title = :title WHERE (id = :id AND title LIKE :title0) RETURNING id",
    some ⟨[("title", .text "b"), ("id", .int 1), ("title0", .text "a%")], by decide⟩⟩

/-- Every call of `retitling` names its columns. -/
theorem named_retitling : ∀ call ∈ retitling, call.Named := by
  simp only [retitling, List.forall_mem_cons]
  have htitle : IsColumnName "title" := .plain (by decide)
  have hid : IsColumnName "id" := .plain (by decide)
  refine ⟨?table, named_row (.mapping _) ?row, trivial, ⟨_, rfl, ?condition⟩, nofun⟩
  case table =>
    show isIdentifier "notes" = true
    decide
  case row => simpa using htitle
  case condition => exact ⟨nofun, ⟨hid, by decide⟩, ⟨htitle, by decide⟩, trivial⟩

theorem retitling_runs_with_its_bindings :
    found? retitlingQuery.statement = some [":title", ":id", ":title0"] ∧
      reader.database.answer (.run .execute retitlingQuery.statement retitlingQuery.params) () =
        ⟨.ok 0, (), []⟩ := by
  have hanswer : ((new.afterAll retitling).outcome .build).map Response.answer =
      .ok (.built retitlingQuery) := by decide +kernel
  obtain ⟨r, hr, hquery⟩ := exists_of_map_eq_ok hanswer
  have haccepted : new.accepted retitling = retitling := rfl
  have named : ∀ call ∈ new.accepted retitling, call.Named := haccepted ▸ named_retitling
  obtain ⟨q, s, hq, hsays, hbindings, hfound, -, hplain, htaken⟩ :=
    placeholders_are_seen_up_to_the_first_point retitling r named hr
  rw [hquery] at hq
  cases hq
  have hnames : Pairs.names s.bindings = ["title", "id", "title0"] := by
    refine List.map_injective_iff.2 (fun _ _ => placeholder_inj.1) ?_
    rw [← names_marked, ← hbindings]
    decide
  have hpoints : s.IsPlain := by
    rw [Sentence.IsPlain, hnames]
    decide
  have hseen : s.seenOf = [":title", ":id", ":title0"] := by
    rw [hplain hpoints]
    decide
  -- which sentence it is is settled by the calls that say it
  have hupdate : s.own = [] ∧ s.closing = " " := by
    generalize hcalls : (new.accepted retitling).filter (·.part?.isSome) = calls at hsays
    cases hsays <;> first | exact ⟨rfl, rfl⟩ | cases hcalls
  have hbehind : found? (" " ++ (lastAppended (new.accepted retitling)).getD "") = some [] := by
    rw [haccepted]
    decide +kernel
  rw [hupdate.1, hupdate.2, hbehind, hseen] at hfound
  have hdeclares : ∀ found, found? retitlingQuery.statement = some found →
      (reading [":title", ":id", ":title0"]).parameters.Declares found := by
    intro found hsame
    cases hfound.symm.trans hsame
    exact declares_reading _
  obtain ⟨htakes, hruns⟩ := htaken (hseen ▸ hfound) reader () _ (prepare_reader hfound) hdeclares
    .execute
  obtain ⟨⟨values, hvalues⟩, -⟩ := hruns hpoints
  exact ⟨hfound, (htakes.receives values hvalues).2⟩

/-- A SELECT from two tables, whose condition says of which table the column is. -/
def joining : List Call :=
  [.select (.list ["u.title"]), .fromTables [.name "notes", .name "u"],
    .filter (.tree (.eq "u.id" (.int 7)))]

def joiningQuery : BuiltQuery :=
  ⟨"SELECT u.title FROM notes, u WHERE u.id = :u.id ", some ⟨[("u.id", .int 7)], by decide⟩⟩

/-- What is bound is `:u.id`, but the parameter in the text is `:u`. Nothing is bound to that one,
and the value goes nowhere. -/
theorem qualified_column_loses_its_binding :
    (∀ call ∈ joining, call.Named) ∧
      ((new.afterAll joining).outcome .build).map Response.answer = .ok (.built joiningQuery) ∧
      joiningQuery.params.toList = [(":u.id", .int 7)] ∧
      found? joiningQuery.statement = some [":u"] ∧
      reader.database.answer (.run .queryMany joiningQuery.statement joiningQuery.params) () =
        ⟨.error (.database (.invalidParameterName ":u")), (), []⟩ := by
  have hid : IsColumnName ("u" ++ "." ++ "id") := .qualified (by decide) (.plain (by decide))
  have htitle : IsColumnName ("u" ++ "." ++ "title") := .qualified (by decide) (.plain (by decide))
  have hfound : found? joiningQuery.statement = some [":u"] := by decide +kernel
  refine ⟨?named, by decide +kernel, by decide, hfound, ?refused⟩
  case named =>
    simp only [joining, List.forall_mem_cons]
    refine ⟨named_select_list (.inr ⟨_, rfl, ?_⟩), ?_, ⟨_, rfl, hid, by decide⟩, nofun⟩
    · simpa using htitle
    · show ∀ t ∈ [Target.name "notes", Target.name "u"], isIdentifier t.table = true
      decide
  case refused =>
    have hassign : (reading [":u"]).parameters.assign joiningQuery.params =
        .error (.invalidParameterName ":u") := by decide
    exact Connection.answer_of_error (prepare_reader hfound) hassign .queryMany

end Builder

end BoundSql
