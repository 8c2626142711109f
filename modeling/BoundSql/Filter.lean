import BoundSql.Condition.Json

/-!
# Filters

The argument of a WHERE clause: literal SQL with its own bindings, or a condition.
-/

namespace BoundSql

/-- What restricts the rows of a statement. -/
inductive Filter where
  /-- Literal SQL, passed through. -/
  | raw (conditions : String) (values : Params)
  /-- A condition, compiled when the clause is added. -/
  | tree (condition : Condition)

namespace Filter

/-- Binds the members of an object, which all have to be scalars. -/
def bindMembers : List (String × Json) → Params → Except QueryError Params
  | [], p => .ok p
  | (name, j) :: rest, p =>
    match Value.ofJson? j with
    | none => shapeError ("value for '" ++ name ++ "' must be a scalar")
    | some value => bindMembers rest (p.bind name value)

/-- The bindings beside literal conditions; none if they are absent or null. -/
def valuesOfJson : Option Json → Except QueryError Params
  | none | some .null => .ok .empty
  | some (.object members) => bindMembers members .empty
  | some other =>
    shapeError ("values must be a map of names to values, found " ++ other.write)

/-- The filter that a document describes. With a member `conditions`, a string there is literal
SQL whose bindings are the member `values`, and anything else there is a condition. Without it
the document is a condition itself. -/
def ofJson (j : Json) : Except QueryError Filter :=
  match j.member? "conditions" with
  | none => (Condition.ofJson j).map .tree
  | some (.string sql) => (valuesOfJson (j.member? "values")).map (.raw sql)
  | some other => (Condition.ofJson other).map .tree

end Filter

end BoundSql
