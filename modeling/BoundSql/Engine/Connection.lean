import BoundSql.Database
import BoundSql.Engine.Parameter

/-!
# Connections

A connection is what an engine offers: it prepares a statement, which says what its parameters and
columns are called, and the statement runs with a value for each of its parameters. What a run does
is the engine's own affair. A connection makes a database: a statement is prepared, the bindings are
given to its parameters, and it runs only if none of them is left without a value.
-/

namespace BoundSql.Engine

variable {σ τ : Type}

/-! ## Rows -/

/-- The rows of a running statement, one after another, with the state of the engine after each. The
rest of the rows is there only for those who ask for it. -/
inductive Cursor (σ : Type) where
  | done (state : σ)
  | failed (fault : DatabaseFault) (state : σ)
  | row (cells : List Cell) (state : σ) (rest : Cursor σ)

namespace Cursor

/-- The rows behind those `taken` before, at most `limit` in all if there is a limit. -/
def collect (limit : Option Nat) (taken : List (List Cell)) :
    Cursor σ → Except DatabaseFault (List (List Cell)) × σ
  | done state => (.ok taken, state)
  | failed fault state => (.error fault, state)
  | row cells state rest =>
    let taken := taken ++ [cells]
    if limit.any (· ≤ taken.length) then (.ok taken, state) else rest.collect limit taken

/-- The same rows with other states. -/
def map (f : σ → τ) : Cursor σ → Cursor τ
  | done state => done (f state)
  | failed fault state => failed fault (f state)
  | row cells state rest => row cells (f state) (rest.map f)

end Cursor

/-! ## Statements -/

/-- A prepared statement of an engine with states of type `σ`. -/
structure Statement (σ : Type) where
  parameters : Parameters
  columns : List String
  /-- Runs the statement for the count of affected rows. -/
  perform : List Value → σ → Except DatabaseFault Nat × σ
  /-- Runs the statement for its rows. -/
  rows : List Value → σ → Cursor σ

namespace Statement

/-- The rows of the statement under the names of its columns. -/
def fetch (statement : Statement σ) (limit : Option Nat) (values : List Value) (state : σ) :
    Except DatabaseFault (List Row) × σ :=
  let (rows, state) := (statement.rows values state).collect limit []
  (rows.map (·.map fun cells => ⟨statement.columns.zip (cells.map Cell.value)⟩), state)

/-- What the statement gives when it is run. -/
def run (statement : Statement σ) (values : List Value) (state : σ) :
    (method : Method) → Except DatabaseFault method.Answer × σ
  | .execute => statement.perform values state
  | .queryMany => statement.fetch none values state
  | .queryOne =>
    let (rows, state) := statement.fetch (some 1) values state
    (rows.map List.head?, state)

/-- The reply to a request that runs the statement. -/
def reply (statement : Statement σ) (values : List Value) (state : σ) (method : Method) :
    Reply σ method.Answer :=
  let (answer, state) := statement.run values state method
  ⟨answer.mapError .database, state, []⟩

end Statement

/-! ## Connections -/

/-- A connection to an engine with states of type `σ`. -/
structure Connection (σ : Type) where
  prepare : String → σ → Except DatabaseFault (Statement σ)
  /-- The id of the row inserted last. -/
  lastId : σ → Int64

namespace Connection

/-- The statement that a text writes, with a value for each of its parameters. -/
def bind (c : Connection σ) (sql : String) (params : Params) (state : σ) :
    Except DatabaseFault (Statement σ × List Value) := do
  let statement ← c.prepare sql state
  let values ← statement.parameters.assign params
  return (statement, values)

/-- The database behind a connection. -/
def database (c : Connection σ) : Database σ where
  answer r state :=
    match r with
    | .run method sql params =>
      match c.bind sql params state with
      | .error fault => ⟨.error (.database fault), state, []⟩
      | .ok (statement, values) => statement.reply values state method
    | .lastInsertId => ⟨.ok (c.lastId state), state, []⟩

end Connection

/-! ## Observation -/

/-- The same statement, which keeps the values of every run, the latest last. -/
def Statement.recording (statement : Statement σ) : Statement (σ × List (List Value)) where
  parameters := statement.parameters
  columns := statement.columns
  perform values state :=
    let (affected, after) := statement.perform values state.1
    (affected, after, state.2 ++ [values])
  rows values state :=
    (statement.rows values state.1).map fun after => (after, state.2 ++ [values])

/-- The same connection, which keeps the values of every run of a statement. -/
def Connection.recording (c : Connection σ) : Connection (σ × List (List Value)) where
  prepare sql state := (c.prepare sql state.1).map Statement.recording
  lastId state := c.lastId state.1

end BoundSql.Engine
