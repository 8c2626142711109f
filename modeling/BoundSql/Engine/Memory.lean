import BoundSql.Engine.Connection
import BoundSql.Engine.Selection

/-!
# The empty database in memory

A database without tables answers the selections that need none. Text that it cannot prepare is
refused before the bindings are looked at, and a parameter without a binding before anything runs.
-/

namespace BoundSql.Engine

/-- Rows that come one after another and then end. -/
def Cursor.ofList : List (List Cell) → Cursor Unit
  | [] => done ()
  | cells :: rest => row cells () (ofList rest)

/-- A selection as a statement. Only one without rows can be run for its effect. -/
def Selection.statement (s : Selection) : Statement Unit where
  parameters := s.parameters
  columns := s.columns
  perform values _ := (if (s.cells values).isEmpty then .ok 0 else .error .engine, ())
  rows values _ := .ofList (s.cells values)

/-- A connection to a database without tables. -/
def emptyDatabase : Connection Unit where
  prepare sql _ :=
    match Selection.ofText? sql with
    | none => .error .engine
    | some selection => .ok selection.statement
  lastId _ := 0

/-- A database without tables. -/
def memory : Database Unit :=
  emptyDatabase.database

end BoundSql.Engine
