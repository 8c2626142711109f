import BoundSql.Statement.Builder

/-!
# Running statements

A statement is rendered and handed to a database. Errors of the builder come first and reach no
database; the answer of the database comes back as it is.
-/

namespace BoundSql

/-- What a run leaves: the result, the builder, the state of the database and the events. -/
structure Outcome (σ α : Type) where
  result : Except Failure α
  builder : Builder
  state : σ
  events : List Event

/-- A whole SELECT in one value. -/
structure FindOptions where
  select : Columns := .all
  tables : List Target
  filter : Option Filter := none
  append : Option String := none

namespace Outcome

variable {σ α β : Type}

/-- The outcome with a result computed from an answer. -/
def mapResult (f : α → Except Failure β) (o : Outcome σ α) : Outcome σ β :=
  { o with result := o.result.bind f }

end Outcome

namespace Builder

variable {σ α : Type}

/-- Renders the statement and runs it. -/
def run (b : Builder) (db : Database σ) (s : σ) (method : Method) : Outcome σ method.Answer :=
  match finish b with
  | .error e b => ⟨.error (.query e), b, s, []⟩
  | .ok r b =>
    let reply := db.answer (.run method r.sql r.params) s
    ⟨reply.result, b, reply.state, r.events ++ reply.events⟩

/-- Runs the statement for its effect; the answer is the count of affected rows. -/
def execute (b : Builder) (db : Database σ) (s : σ) : Outcome σ Nat :=
  b.run db s .execute

/-- Runs the statement for all its rows. -/
def find (b : Builder) (db : Database σ) (s : σ) : Outcome σ (List Row) :=
  b.run db s .queryMany

/-- Runs the statement for its first row. -/
def first (b : Builder) (db : Database σ) (s : σ) : Outcome σ (Option Row) :=
  b.run db s .queryOne

/-- `find` with every row read as a record, up to the first row that cannot be. -/
def findAs (b : Builder) (read : Row → Except Failure α) (db : Database σ) (s : σ) :
    Outcome σ (List α) :=
  (b.find db s).mapResult fun rows => rows.mapM read

/-- `first` with the row read as a record. -/
def firstAs (b : Builder) (read : Row → Except Failure α) (db : Database σ) (s : σ) :
    Outcome σ (Option α) :=
  (b.first db s).mapResult fun
    | none => .ok none
    | some row => (read row).map some

/-- Adds the clauses of a whole SELECT, one after another. -/
def selectAll (o : FindOptions) : Edit Unit := do
  select o.select
  fromTables o.tables
  if let some f := o.filter then filter f
  if let some sql := o.append then append sql

/-- Adds the clauses of a whole SELECT to a copy of the builder, which then takes its place and is
run. If a clause is refused, the builder stays as it was and the database is not asked. -/
def findWith (b : Builder) (o : FindOptions) (db : Database σ) (s : σ) :
    Outcome σ (List Row) :=
  match selectAll o b with
  | .error e _ => ⟨.error (.query e), b, s, []⟩
  | .ok _ staged => staged.find db s

end Builder

end BoundSql
