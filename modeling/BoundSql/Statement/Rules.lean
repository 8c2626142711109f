/-!
# Clause rules

Which clauses a statement of each kind may hold, in which order they are written, which of them
it needs, and which have to be there before another one may be added. The rules are data: a
`RuleTable` gives them for the four kinds, and `RuleTable.standard` is the usual one.
-/

namespace BoundSql

/-- What a statement does. A custom statement is given as literal SQL. -/
inductive Kind where
  | custom
  | insert
  | select
  | update
  | delete
deriving DecidableEq, Repr

/-- The name of a kind. -/
def Kind.name : Kind → String
  | custom => "CUSTOM"
  | insert => "INSERT"
  | select => "SELECT"
  | update => "UPDATE"
  | delete => "DELETE"

/-- The kinds whose statements are put together from clauses. -/
def Kind.structured : List Kind := [insert, select, update, delete]

/-- A part of a statement that is written as a whole. -/
inductive Clause where
  | insertInto
  | insertValues
  | select
  | fromTables
  | update
  | updateSet
  | delete
  | filter
deriving DecidableEq, Repr

namespace Clause

/-- Every clause, in the order in which present clauses are listed. -/
def all : List Clause :=
  [insertInto, insertValues, select, fromTables, update, updateSet, delete, filter]

/-- The name of a clause in a rule table. -/
def name : Clause → String
  | insertInto => "insert_into"
  | insertValues => "insert_into_values"
  | select => "select"
  | fromTables => "from"
  | update => "update"
  | updateSet => "update_set"
  | delete => "delete"
  | filter => "where"

/-- The clause with a name. -/
def ofName? (s : String) : Option Clause :=
  all.find? (·.name == s)

/-- The SQL wording of a clause in messages. -/
def keyword : Clause → String
  | insertInto => "INSERT INTO"
  | insertValues => "(...) VALUES (...)"
  | select => "SELECT"
  | fromTables => "FROM"
  | update => "UPDATE"
  | updateSet => "SET"
  | delete => "DELETE"
  | filter => "WHERE"

end Clause

/-- The rules for the statements of one kind. -/
structure KindRules where
  /-- The clause that starts a statement of this kind. -/
  establishing : Clause
  /-- The clauses that may be there, in the order in which they are written. -/
  order : List Clause
  /-- The clauses that a complete statement has. -/
  required : List Clause
  /-- What has to be there before a clause; the first entry of a clause counts. -/
  prerequisites : List (Clause × List Clause)
deriving DecidableEq, Repr

namespace KindRules

/-- Whether a clause may be in a statement of this kind. -/
def allows (rules : KindRules) (c : Clause) : Bool :=
  rules.order.contains c

/-- The clauses that have to be there before `c`. -/
def prerequisitesOf (rules : KindRules) (c : Clause) : List Clause :=
  match rules.prerequisites.find? (·.1 = c) with
  | none => []
  | some (_, before) => before

end KindRules

/-- The rules for each structured kind. -/
structure RuleTable where
  insert : KindRules
  select : KindRules
  update : KindRules
  delete : KindRules
deriving DecidableEq, Repr

namespace RuleTable

/-- The usual rules. An INSERT needs its values, a SELECT its tables; an UPDATE or a DELETE is not
complete without a WHERE clause. -/
def standard : RuleTable where
  insert :=
    { establishing := .insertInto
      order := [.insertInto, .insertValues]
      required := [.insertInto, .insertValues]
      prerequisites := [(.insertValues, [.insertInto])] }
  select :=
    { establishing := .select
      order := [.select, .fromTables, .filter]
      required := [.select, .fromTables]
      prerequisites := [(.fromTables, [.select]), (.filter, [.select, .fromTables])] }
  update :=
    { establishing := .update
      order := [.update, .updateSet, .filter]
      required := [.update, .updateSet, .filter]
      prerequisites := [(.updateSet, [.update]), (.filter, [.update, .updateSet])] }
  delete :=
    { establishing := .delete
      order := [.delete, .fromTables, .filter]
      required := [.delete, .fromTables, .filter]
      prerequisites := [(.fromTables, [.delete]), (.filter, [.delete, .fromTables])] }

/-- The rules for a kind; a custom statement has no clauses. -/
def rules? (table : RuleTable) : Kind → Option KindRules
  | .custom => none
  | .insert => some table.insert
  | .select => some table.select
  | .update => some table.update
  | .delete => some table.delete

/-- Whether `c` starts statements of kind `k`. -/
def starts (table : RuleTable) (c : Clause) (k : Kind) : Bool :=
  match table.rules? k with
  | none => false
  | some rules => rules.establishing = c

/-- The first kind that `c` starts. -/
def startedBy? (table : RuleTable) (c : Clause) : Option Kind :=
  Kind.structured.find? (table.starts c)

end RuleTable

end BoundSql
