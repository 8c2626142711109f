import BoundSql.Database
import BoundSql.Filter
import BoundSql.Statement.Argument

/-!
# Building statements

A `Builder` holds a statement while it is put together clause by clause. A call changes it in
place: it checks whether its clause may be added and whether its argument can be used, and writes
the clause and the bindings. An error is raised at the point where it is found and undoes nothing.
Rendering writes the clauses in the order of the rule table; a statement that was rendered does
not change any more.

`Call` names every call with its argument and `Builder.apply` makes it.
-/

namespace BoundSql

/-- A statement under construction. -/
structure Builder where
  /-- The rules that calls are checked against. -/
  table : RuleTable
  /-- What the statement does, once a call has said so. -/
  kind : Option Kind
  /-- The text of each clause that is present. -/
  clauses : Clause → Option String
  /-- The text of a custom statement. -/
  custom : Option String
  /-- Literal text after all clauses. -/
  appended : Option String
  params : Params
  /-- The text of the statement, once it was rendered. -/
  rendered : Option String

/-- A rendered statement with its bindings, which are left out if there are none. -/
structure BuiltQuery where
  statement : String
  values : Option Params
deriving DecidableEq

namespace Builder

/-! ## Starting -/

/-- An empty statement checked against a rule table. -/
def withRules (table : RuleTable) : Builder :=
  ⟨table, none, fun _ => none, none, none, .empty, none⟩

/-- An empty statement. -/
def new : Builder :=
  withRules .standard

/-- A custom statement of literal SQL with its bindings. -/
def raw (sql : String) (values : Params) : Builder :=
  { new with kind := some .custom, custom := some sql, params := values }

/-- Whether a clause is present. -/
def has (b : Builder) (c : Clause) : Bool :=
  (b.clauses c).isSome

/-- The present clauses. -/
def present (b : Builder) : List Clause :=
  Clause.all.filter b.has

/-- Whether the statement was rendered. -/
def isRendered (b : Builder) : Bool :=
  b.rendered.isSome

/-! ## Edits -/

/-- A change of a builder in place. One that fails leaves what it has changed so far. -/
abbrev Edit := EStateM QueryError Builder

/-- A computation without a builder as a step of an edit, which its error ends. -/
def Edit.lift {α : Type} (x : Except QueryError α) : Edit α := fun b =>
  match x with
  | .ok a => .ok a b
  | .error e => .error e b

/-! ## Legality -/

/-- Why a clause may not be added. -/
inductive Refusal where
  | rendered
  | customStatement
  | present
  /-- The statement has a kind, and the clause would start one. -/
  | alreadyStarted (k : Kind)
  | nothingStarted
  | notAllowedIn (k : Kind)
  | missing (c : Clause)
deriving DecidableEq, Repr

/-- The builder error for a refusal, about the clause that `word` names. -/
def Refusal.error (word : String) : Refusal → QueryError
  | rendered => .finalized word
  | present => .duplicateClause word
  | customStatement => .prerequisiteMissing word "statement is a custom query"
  | alreadyStarted k => .prerequisiteMissing word ("statement is already " ++ k.name)
  | nothingStarted => .prerequisiteMissing word "no statement started"
  | notAllowedIn k => .prerequisiteMissing word ("not allowed in a " ++ k.name ++ " statement")
  | missing c => .prerequisiteMissing word (c.keyword ++ " is missing")

/-- Why a clause that starts no statement may not be added to a statement of kind `k`. -/
def dependentRefusal? (b : Builder) (k : Kind) (c : Clause) : Option Refusal :=
  match b.table.rules? k with
  | none => some (.notAllowedIn k)
  | some rules =>
    if rules.allows c then
      ((rules.prerequisitesOf c).find? fun before => !b.has before).map .missing
    else some (.notAllowedIn k)

/-- Why a clause may not be added now, if so. -/
def refusal? (b : Builder) (c : Clause) : Option Refusal :=
  if b.isRendered then some .rendered
  else if b.kind = some .custom then some .customStatement
  else if b.has c then some .present
  else match b.table.startedBy? c, b.kind with
    | some _, some k => some (.alreadyStarted k)
    | some _, none => none
    | none, none => some .nothingStarted
    | none, some k => b.dependentRefusal? k c

/-- Goes on only if a clause may be added. -/
def allow (c : Clause) : Edit Unit := do
  match (← get).refusal? c with
  | some r => throw (r.error c.keyword)
  | none => return

/-- Records the text of a clause; one that starts a statement also sets the kind. -/
def record (c : Clause) (text : String) : Edit Unit :=
  modify fun b =>
    { b with
      kind := (b.table.startedBy? c).or b.kind
      clauses := fun d => if d = c then some text else b.clauses d }

/-! ## Clauses -/

/-- `INSERT INTO table` -/
def insertInto (t : Target) : Edit Unit := do
  allow .insertInto
  let table ← Edit.lift (t.resolve .insertInto)
  record .insertInto ("INSERT INTO " ++ table)

/-- The text of a VALUES clause. -/
def valuesText (columns : List String) : String :=
  " (" ++ Text.join ", " columns ++ ") VALUES (" ++
    Text.join ", " (columns.map placeholder) ++ ")"

/-- ` (columns) VALUES (placeholders)`. The bindings are those of the row alone. -/
def values (data : RowData) : Edit Unit := do
  allow .insertValues
  let pairs ← Edit.lift (data.bindable .insertValues)
  modify fun b => { b with params := Params.ofList (marked pairs) }
  record .insertValues (valuesText (Pairs.names pairs))

/-- `SELECT columns ` -/
def select (columns : Columns) : Edit Unit := do
  allow .select
  let text ← Edit.lift (columns.render .select)
  record .select ("SELECT " ++ text ++ " ")

/-- `FROM table, … ` -/
def fromTables (ts : List Target) : Edit Unit := do
  allow .fromTables
  let tables ← Edit.lift (resolveTargets ts .fromTables)
  record .fromTables ("FROM " ++ Text.join ", " tables ++ " ")

/-- `UPDATE table ` -/
def update (t : Target) : Edit Unit := do
  allow .update
  let table ← Edit.lift (t.resolve .update)
  record .update ("UPDATE " ++ table ++ " ")

/-- The text of a SET clause. -/
def setText (columns : List String) : String :=
  "SET " ++ Text.join ", " (columns.map fun c => c ++ " = " ++ placeholder c) ++ " "

/-- `SET column = placeholder, … `. The bindings are added under the columns' own names. -/
def set (data : RowData) : Edit Unit := do
  allow .updateSet
  let pairs ← Edit.lift (data.bindable .updateSet)
  modify fun b => { b with params := b.params.bindAll (marked pairs) }
  record .updateSet (setText (Pairs.names pairs))

/-- `DELETE ` -/
def delete : Edit Unit := do
  allow .delete
  record .delete "DELETE "

/-- The text of a WHERE clause. -/
def filterText (conditions : String) : String :=
  "WHERE " ++ conditions ++ " "

/-- `WHERE conditions `. A condition is compiled with names that are free. The bindings of
literal conditions are added to those of an UPDATE and replace those of any other statement. -/
def filter (f : Filter) : Edit Unit := do
  allow .filter
  match f with
  | .raw conditions values =>
    if Text.isBlank conditions then throw (.badConditionShape "empty WHERE conditions")
    modify fun b =>
      { b with params := if b.kind = some .update then b.params.merge values else values }
    record .filter (filterText conditions)
  | .tree condition =>
    -- A defect leaves the bindings half made, so they are made on a copy.
    let (result, params) := condition.compile (← get).params
    let text ← Edit.lift result
    modify fun b => { b with params := params }
    record .filter (filterText text)

/-- Literal text after all clauses; a second call replaces it. -/
def append (sql : String) : Edit Unit := do
  if (← get).isRendered then throw (Refusal.rendered.error "append")
  modify fun b => { b with appended := some sql }

/-- Literal SQL as the whole statement, on a builder without a kind. -/
def setQuery (sql : String) (values : Params) : Edit Unit := do
  if (← get).isRendered then throw (Refusal.rendered.error "custom")
  match (← get).kind with
  | some k => throw ((Refusal.alreadyStarted k).error "custom")
  | none =>
    modify fun b => { b with kind := some .custom }
    modify fun b => { b with custom := some sql }
    modify fun b => { b with params := values }

/-! ## Rendering -/

/-- The texts of the clauses in an order, without those that are absent. -/
def fragments (b : Builder) (order : List Clause) : List String :=
  order.filterMap b.clauses

/-- The text of the statement, which has to be complete. -/
def render (b : Builder) : Except QueryError String :=
  match b.kind with
  | none => .error (.incompleteStatement "empty")
  | some k =>
    let body : Except QueryError String :=
      match b.table.rules? k with
      | none => .ok (b.custom.getD "")
      | some rules =>
        if rules.required.all b.has then .ok (String.join (b.fragments rules.order))
        else .error (.incompleteStatement k.name)
    body.map (· ++ b.appended.getD "")

/-- A rendered statement: its text and its bindings, and the events reported. -/
structure Rendered where
  sql : String
  params : Params
  events : List Event

/-- A kind as it is logged. -/
def kindText : Option Kind → String
  | none => "None"
  | some .custom => "Some(Custom)"
  | some .insert => "Some(Insert)"
  | some .select => "Some(Select)"
  | some .update => "Some(Update)"
  | some .delete => "Some(Delete)"

/-- The event that a first rendering reports. -/
def renderEvent (b : Builder) (sql : String) : Event where
  level := .trace
  fields :=
    [("message", "rendered statement"), ("kind", kindText b.kind),
      ("param_count", toString b.params.size), ("sql", sql)]

/-- Renders the statement, unless it was rendered before, and freezes it. -/
def finish : Edit Rendered := do
  let b ← get
  match b.rendered with
  | some sql => return ⟨sql, b.params, []⟩
  | none =>
    let sql ← Edit.lift b.render
    modify fun b => { b with rendered := some sql }
    return ⟨sql, b.params, [b.renderEvent sql]⟩

/-- The statement and its bindings as one value. -/
def Rendered.built (r : Rendered) : BuiltQuery :=
  ⟨r.sql, if r.params.isEmpty then none else some r.params⟩

/-- What `finish` would give, without freezing the statement. -/
def peek (b : Builder) : Except QueryError BuiltQuery :=
  match finish b with
  | .ok r _ => .ok r.built
  | .error e _ => .error e

/-! ## Calls -/

/-- A call on a builder. -/
inductive Call where
  | insertInto (t : Target)
  | values (data : RowData)
  | select (columns : Columns)
  | fromTables (ts : List Target)
  | update (t : Target)
  | set (data : RowData)
  | delete
  | filter (f : Filter)
  | append (sql : String)
  | setQuery (sql : String) (values : Params)
  /-- Asks for the text. -/
  | statement
  /-- Asks for the bindings. -/
  | bindings
  /-- Asks for both. -/
  | build

/-- What a successful call answers. -/
inductive Answer where
  | done
  | text (sql : String)
  | bound (params : Params)
  | built (query : BuiltQuery)
deriving DecidableEq

/-- What a call gives: its answer and the events reported. -/
structure Response where
  answer : Answer
  events : List Event
deriving DecidableEq

/-- A call that only changes the builder. -/
def Edit.done (edit : Edit Unit) : Edit Response := do
  edit
  return ⟨.done, []⟩

/-- A call that renders the statement. -/
def Edit.rendered (answer : Rendered → Answer) : Edit Response := do
  let r ← finish
  return ⟨answer r, r.events⟩

/-- Makes a call. -/
def apply : Call → Edit Response
  | .insertInto t => (insertInto t).done
  | .values data => (values data).done
  | .select columns => (select columns).done
  | .fromTables ts => (fromTables ts).done
  | .update t => (update t).done
  | .set data => (set data).done
  | .delete => delete.done
  | .filter f => (filter f).done
  | .append sql => (append sql).done
  | .setQuery sql values => (setQuery sql values).done
  | .statement => .rendered fun r => .text r.sql
  | .bindings => .rendered fun r => .bound r.params
  | .build => .rendered fun r => .built r.built

/-- What a call gives on a builder. -/
def outcome (b : Builder) (c : Call) : Except QueryError Response :=
  match apply c b with
  | .ok response _ => .ok response
  | .error e _ => .error e

/-- The builder after a call, whether it succeeds or fails. -/
def after (b : Builder) (c : Call) : Builder :=
  match apply c b with
  | .ok _ b => b
  | .error _ b => b

end Builder

end BoundSql
