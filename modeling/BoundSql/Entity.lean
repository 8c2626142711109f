import BoundSql.Value

/-!
# Entities

An entity is what one row of a table holds: its columns with their values in order, and the
names of the columns that are its primary key.
-/

namespace BoundSql

/-- A record as a database sees it. -/
structure Entity where
  columns : Pairs Value
  primaryKeys : List String
deriving DecidableEq

/-- The value of the first column called `column`. -/
def Entity.value? (e : Entity) (column : String) : Option Value :=
  Pairs.find? column e.columns

end BoundSql
