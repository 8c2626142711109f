import BoundSql.Engine.Token

/-!
# Keywords and names

Most keywords are names where no keyword can stand.
-/

namespace BoundSql.Engine

namespace Token

/-- The keywords that are no names. -/
def reserved : List String :=
  ["ADD", "ALL", "ALTER", "AND", "AS", "AUTOINCREMENT", "BETWEEN", "CASE", "CHECK", "COLLATE",
    "COMMIT", "CONSTRAINT", "CREATE", "DEFAULT", "DEFERRABLE", "DELETE", "DISTINCT", "DROP", "ELSE",
    "ESCAPE", "EXCEPT", "EXISTS", "FOREIGN", "FROM", "GROUP", "HAVING", "IN", "INDEX", "INSERT",
    "INTERSECT", "INTO", "IS", "ISNULL", "JOIN", "LIMIT", "NOT", "NOTHING", "NOTNULL", "NULL", "ON",
    "OR", "ORDER", "PRIMARY", "REFERENCES", "RETURNING", "SELECT", "SET", "TABLE", "THEN", "TO",
    "TRANSACTION", "UNION", "UNIQUE", "UPDATE", "USING", "VALUES", "WHEN", "WHERE"]

/-- The keywords that join tables; they are names only where nothing but a name can stand. -/
def joining : List String :=
  ["CROSS", "FULL", "INDEXED", "INNER", "LEFT", "NATURAL", "OUTER", "RIGHT"]

/-- The keywords that join two operands; right after an operand they are no names. -/
def matching : List String :=
  ["GLOB", "LIKE", "MATCH", "REGEXP"]

/-- The name that a token gives, if it is none of some keywords. -/
def name? (keywords : List String) (t : Token) : Option String :=
  match t.lexeme with
  | .word => if keywords.any t.isKeyword then none else some t.text
  | .name content | .doubleQuoted content | .string content => some content
  | _ => none

end Token

end BoundSql.Engine
