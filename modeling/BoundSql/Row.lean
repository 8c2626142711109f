import BoundSql.Error
import BoundSql.Value

/-!
# Rows

A row of a result: column names and values in the order of the statement. Of two columns with
one name the first is found.
-/

namespace BoundSql

/-- A result row. -/
structure Row where
  columns : Pairs Value
deriving DecidableEq

namespace Row

/-- The value of the first column called `column`. -/
def get? (row : Row) (column : String) : Option Value :=
  Pairs.find? column row.columns

/-- The column names, in order. -/
def columnNames (row : Row) : List String :=
  Pairs.names row.columns

/-- The value of a column as the type that `decode` reads, or a failure that names the column. -/
def decode {α : Type} (row : Row) (column : String) (read : Value → Except String α) :
    Except Failure α :=
  match row.get? column with
  | none => .error (.decode column "no such column")
  | some value =>
    match read value with
    | .error reason => .error (.decode column reason)
    | .ok a => .ok a

end Row

end BoundSql
