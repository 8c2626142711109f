import BoundSql.Entity
import BoundSql.Error
import BoundSql.Json.Inspect
import BoundSql.Statement.Rules
import BoundSql.Text.Blank

/-!
# Arguments of clauses

What the clauses of a statement are given: tables, columns and row data. Each kind of argument
has one function that checks it for a clause and answers with what the clause writes.
-/

namespace BoundSql

/-! ## Tables -/

/-- A table: its name, or something that knows its name. -/
inductive Target where
  | name (table : String)
  | handle (table : String)
deriving DecidableEq, Repr

namespace Target

/-- The name of the table. -/
def table : Target → String
  | name t => t
  | handle t => t

/-- The name of the table, which must not be blank. -/
def resolve (t : Target) (c : Clause) : Except QueryError String :=
  if Text.isBlank t.table then .error (.unsupportedTarget c.keyword (Text.quoted t.table))
  else .ok t.table

/-- The table in the notation of its constructor. -/
def inspect : Target → String
  | name t => "Name(" ++ Text.quoted t ++ ")"
  | handle t => "Handle(" ++ Text.quoted t ++ ")"

end Target

/-- The names of several tables, of which there must be one. -/
def resolveTargets (ts : List Target) (c : Clause) : Except QueryError (List String) :=
  if ts.isEmpty then .error (.unsupportedTarget c.keyword "no table given")
  else ts.mapM (·.resolve c)

/-- Tables in the notation of their constructors. -/
def inspectTargets (ts : List Target) : String :=
  "Targets([" ++ Text.join ", " (ts.map Target.inspect) ++ "])"

/-! ## Columns -/

/-- The columns that a SELECT reads. -/
inductive Columns where
  | all
  /-- Literal text. -/
  | raw (text : String)
  | list (names : List String)
deriving DecidableEq, Repr

/-- The text of a column list, which must not be empty. -/
def Columns.render (columns : Columns) (c : Clause) : Except QueryError String :=
  match columns with
  | .all => .ok "*"
  | .raw text =>
    if Text.isBlank text then .error (.badDataShape c.keyword "empty column list") else .ok text
  | .list names =>
    if names.isEmpty then .error (.badDataShape c.keyword "empty column list")
    else .ok (Text.join ", " names)

/-! ## Row data -/

/-- The values for the columns of an INSERT or an UPDATE. -/
inductive RowData where
  | mapping (pairs : Pairs Value)
  | entity (e : Entity)
  /-- An object of columns and scalars. -/
  | json (j : Json)

namespace RowData

/-- The members of an object as values, up to the first that is no scalar. -/
def scalarMembers (c : Clause) : List (String × Json) → Except QueryError (Pairs Value)
  | [] => .ok []
  | (column, j) :: rest =>
    match Value.ofJson? j with
    | none => .error (.badDataShape c.keyword ("value of '" ++ column ++ "' is not a scalar"))
    | some value => (scalarMembers c rest).map ((column, value) :: ·)

/-- The columns and values as they were given. -/
def pairs (data : RowData) (c : Clause) : Except QueryError (Pairs Value) :=
  match data with
  | .mapping pairs => .ok pairs
  | .entity e => .ok e.columns
  | .json (.object members) => scalarMembers c members
  | .json other =>
    .error (.badDataShape c.keyword ("expected a mapping or an entity, found " ++ other.write))

/-- Puts the values that are not null, one after another. A blank column is an error even if its
value is null. -/
def collect (c : Clause) : Pairs Value → Pairs Value → Except QueryError (Pairs Value)
  | [], acc => .ok acc
  | (column, value) :: rest, acc =>
    if Text.isBlank column then .error (.badDataShape c.keyword "empty column name")
    else if value.isNull then collect c rest acc
    else collect c rest (Pairs.put column value acc)

/-- The columns to write with their values: nulls are left out, a repeated column keeps its first
place and takes its last value, and something has to be left. -/
def bindable (data : RowData) (c : Clause) : Except QueryError (Pairs Value) :=
  match data.pairs c with
  | .error e => .error e
  | .ok pairs =>
    match collect c pairs [] with
    | .error e => .error e
    | .ok [] => .error (.badDataShape c.keyword "no non-null values")
    | .ok kept => .ok kept

/-- Columns with their values in the notation of a list. -/
def inspectPairs (pairs : Pairs Value) : String :=
  "[" ++ Text.join ", " (pairs.map fun (column, value) =>
    "(" ++ Text.quoted column ++ ", " ++ value.inspect ++ ")") ++ "]"

/-- Row data in the notation of its constructor. -/
def inspect : RowData → String
  | mapping pairs => "Mapping(" ++ inspectPairs pairs ++ ")"
  | entity e => "Entity(" ++ inspectPairs e.columns ++ ")"
  | json j => "Json(" ++ j.inspect ++ ")"

end RowData

end BoundSql
