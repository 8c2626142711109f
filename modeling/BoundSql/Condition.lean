import BoundSql.Error
import BoundSql.Params
import BoundSql.Text.Blank

/-!
# Conditions

A condition is a comparison of a column with a value, or a group of conditions joined by one
connective. Compiling a condition writes it as text in which every value is a placeholder, and
binds the values from left to right under names that are free.
-/

namespace BoundSql

/-- How the members of a group are joined. -/
inductive Connective where
  | and
  | or
deriving DecidableEq, Repr

/-- The SQL keyword. -/
def Connective.keyword : Connective → String
  | .and => "AND"
  | .or => "OR"

/-- The connective with a keyword, in capitals. -/
def Connective.ofKeyword? (s : String) : Option Connective :=
  if s = "AND" then some .and else if s = "OR" then some .or else none

/-- A tree of comparisons. -/
inductive Condition where
  /-- `column operator value` -/
  | compare (column operator : String) (value : Value)
  /-- The members joined by the connective, in parentheses. -/
  | group (connective : Connective) (members : List Condition)

/-- What keeps a condition from being compiled. -/
inductive ConditionDefect where
  | blankColumn
  | blankOperator (column : String)
  | emptyGroup (connective : Connective)
deriving DecidableEq, Repr

/-- The wording of a defect. -/
def ConditionDefect.message : ConditionDefect → String
  | blankColumn => "empty column name"
  | blankOperator column => "empty operator for column '" ++ column ++ "'"
  | emptyGroup connective => "empty " ++ connective.keyword ++ " group"

/-- The builder error for a defect. -/
def ConditionDefect.error (d : ConditionDefect) : QueryError :=
  .badConditionShape d.message

namespace Condition

/-! ## Comparisons -/

def eq (column : String) (value : Value) : Condition := compare column "=" value
def ne (column : String) (value : Value) : Condition := compare column "!=" value
def gt (column : String) (value : Value) : Condition := compare column ">" value
def gte (column : String) (value : Value) : Condition := compare column ">=" value
def lt (column : String) (value : Value) : Condition := compare column "<" value
def lte (column : String) (value : Value) : Condition := compare column "<=" value
def like (column : String) (pattern : Value) : Condition := compare column "LIKE" pattern

/-- All members hold. -/
def all (members : List Condition) : Condition := group .and members

/-- Some member holds. -/
def any (members : List Condition) : Condition := group .or members

/-! ## Compilation -/

/-- The bindings so far and the next number for a suffix. -/
structure Bindings where
  params : Params
  counter : Nat

/-- A result with the bindings made on the way to it, which an error keeps too. -/
structure Compiled (α : Type) where
  result : Except ConditionDefect α
  bindings : Bindings

/-- `column operator :name`, with the value bound under the name. -/
def compileCompare (column operator : String) (value : Value) (b : Bindings) : Compiled String :=
  if Text.isBlank column then ⟨.error .blankColumn, b⟩
  else if Text.isBlank operator then ⟨.error (.blankOperator column), b⟩
  else
    let fresh := b.params.bindFresh column value b.counter
    ⟨.ok (column ++ " " ++ operator ++ " " ++ placeholder fresh.name),
      ⟨fresh.params, fresh.counter⟩⟩

/-- The members' texts with the connective between them, in parentheses. -/
def groupText (connective : Connective) (parts : List String) : String :=
  "(" ++ Text.join (" " ++ connective.keyword ++ " ") parts ++ ")"

mutual

/-- Writes a condition and binds its values depth first, from left to right. -/
def compileFrom : Condition → Bindings → Compiled String
  | .compare column operator value, b => compileCompare column operator value b
  | .group connective members, b =>
    if members.isEmpty then ⟨.error (.emptyGroup connective), b⟩
    else
      let parts := compileEach members b
      ⟨parts.result.map (groupText connective), parts.bindings⟩

/-- Compiles conditions one after another, up to the first defect. -/
def compileEach : List Condition → Bindings → Compiled (List String)
  | [], b => ⟨.ok [], b⟩
  | c :: rest, b =>
    let first := compileFrom c b
    match first.result with
    | .error defect => ⟨.error defect, first.bindings⟩
    | .ok text =>
      let others := compileEach rest first.bindings
      ⟨others.result.map (text :: ·), others.bindings⟩

end

/-- The text of a condition and the bindings with its values; after a defect, the bindings hold
the values met before it. -/
def compile (c : Condition) (params : Params) : Except QueryError String × Params :=
  let out := c.compileFrom ⟨params, 0⟩
  (out.result.mapError ConditionDefect.error, out.bindings.params)

end Condition

end BoundSql
