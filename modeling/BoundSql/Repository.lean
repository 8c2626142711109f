import BoundSql.Statement.Execution

/-!
# Repositories

A repository is a table with a way to read its rows as entities. Each operation is one statement
on the table. An operation on an entity that the statement must find by its primary key checks
the key before it builds anything.
-/

namespace BoundSql

/-- A table of entities. -/
structure Repository where
  table : String
  ofRow : Row → Except Failure Entity

/-- What an operation leaves: the result, the state of the database and the events. -/
structure Effect (σ α : Type) where
  result : Except Failure α
  state : σ
  events : List Event

/-- The part of an outcome that is left when its builder is dropped. -/
def Outcome.effect {σ α : Type} (o : Outcome σ α) : Effect σ α :=
  ⟨o.result, o.state, o.events⟩

namespace Repository

open Builder (Edit)

variable {σ α : Type}

/-- A failure before the database is asked. -/
def refuse (s : σ) (f : Failure) : Effect σ α :=
  ⟨.error f, s, []⟩

/-- Runs a statement that is built anew, if building it succeeds. -/
def submit (statement : Edit Unit) (s : σ) (run : Builder → Outcome σ α) : Effect σ α :=
  match statement .new with
  | .error e _ => refuse s (.query e)
  | .ok _ b => (run b).effect

/-- A single condition stands for itself; several must all hold. -/
def combine : List Condition → Condition
  | [c] => c
  | cs => .all cs

/-- The condition that each key column has its value in the entity. -/
def keyConditions (e : Entity) : List String → Except Failure (List Condition)
  | [] => .ok []
  | key :: rest =>
    match e.value? key with
    | none => .error (.entity ("primary key '" ++ key ++ "' is not a column of the entity"))
    | some value => (keyConditions e rest).map (.eq key value :: ·)

/-- The condition that picks the row of an entity. -/
def keyCondition (e : Entity) : Except Failure Condition :=
  if e.primaryKeys.isEmpty then
    .error (.entity "incorrect primary key setup: no primary key")
  else (keyConditions e e.primaryKeys).map combine

/-- The primary keys without a value. -/
def unsetKeys (e : Entity) : List String :=
  e.primaryKeys.filter fun key =>
    match e.value? key with
    | none => true
    | some value => value.isNull

/-! ## Statements -/

/-- The table as an argument of a clause. -/
def target (r : Repository) : Target :=
  .handle r.table

/-- `SELECT * FROM table` -/
def selectStatement (r : Repository) : Edit Unit := do
  Builder.select .all
  Builder.fromTables [r.target]

/-- `SELECT * FROM table WHERE …` -/
def selectWhere (r : Repository) (c : Condition) : Edit Unit := do
  r.selectStatement
  Builder.filter (.tree c)

/-- `INSERT INTO table … VALUES …` -/
def insertStatement (r : Repository) (e : Entity) : Edit Unit := do
  Builder.insertInto r.target
  Builder.values (.entity e)

/-- `UPDATE table SET … WHERE …` -/
def updateStatement (r : Repository) (e : Entity) (c : Condition) : Edit Unit := do
  Builder.update r.target
  Builder.set (.entity e)
  Builder.filter (.tree c)

/-- `DELETE FROM table WHERE …` -/
def deleteStatement (r : Repository) (c : Condition) : Edit Unit := do
  Builder.delete
  Builder.fromTables [r.target]
  Builder.filter (.tree c)

/-! ## Operations -/

/-- Every row of the table. -/
def all (r : Repository) (db : Database σ) (s : σ) : Effect σ (List Entity) :=
  submit r.selectStatement s fun b => b.findAs r.ofRow db s

/-- The row whose columns have the given values, if there is one. -/
def get (r : Repository) (keys : List (String × Value)) (db : Database σ) (s : σ) :
    Effect σ (Option Entity) :=
  if keys.isEmpty then refuse s (.entity ("no key given to look up a row of " ++ r.table))
  else
    let conditions := keys.map fun (column, value) => Condition.eq column value
    submit (r.selectWhere (combine conditions)) s fun b => b.firstAs r.ofRow db s

/-- Inserts an entity; columns without a value are left to the table's defaults. -/
def add (r : Repository) (e : Entity) (db : Database σ) (s : σ) : Effect σ Nat :=
  submit (r.insertStatement e) s fun b => b.execute db s

/-- Updates the row that has the entity's primary key. -/
def update (r : Repository) (e : Entity) (db : Database σ) (s : σ) : Effect σ Nat :=
  match keyCondition e with
  | .error f => refuse s f
  | .ok c => submit (r.updateStatement e c) s fun b => b.execute db s

/-- Deletes the row that has the entity's primary key. -/
def delete (r : Repository) (e : Entity) (db : Database σ) (s : σ) : Effect σ Nat :=
  match keyCondition e with
  | .error f => refuse s f
  | .ok c => submit (r.deleteStatement c) s fun b => b.execute db s

/-- Updates an entity whose primary key is set, and inserts one whose only key is not. -/
def save (r : Repository) (e : Entity) (db : Database σ) (s : σ) : Effect σ Nat :=
  match e.primaryKeys.length, (unsetKeys e).length with
  | 0, _ => refuse s (.entity ("entity of " ++ r.table ++ " has no primary key"))
  | _, 0 => r.update e db s
  | 1, 1 => r.add e db s
  | _, _ =>
    refuse s (.entity
      ("cannot add an entity of " ++ r.table ++ " with a partially set composite primary key"))

/-- The id of the row inserted last. -/
def lastInsertId (db : Database σ) (s : σ) : Effect σ Int64 :=
  let reply := db.answer .lastInsertId s
  ⟨reply.result, reply.state, reply.events⟩

end Repository

end BoundSql
