import BoundSql.Engine.Expression.Reader

/-!
# Selections without a table

The statements that need no table: `SELECT` of expressions, and several of them under each other
with `UNION ALL`. The first one names the columns. Any other text is no statement that an empty
database can prepare.
-/

namespace BoundSql.Engine

/-! ## Columns -/

/-- An expression with the name of its column. -/
structure Item where
  expression : Expression
  name : String
deriving DecidableEq

namespace Item

/-- The name that tokens after an expression give to its column, which without them is `text`.
Between the expression and the name may stand `AS`. -/
def columnName? (text : String) : List Token → Option String
  | [] => some text
  | [t] => t.name? (Token.reserved ++ Token.joining ++ Token.matching)
  | [as, t] => if as.isKeyword "AS" then t.name? Token.reserved else none
  | _ => none

/-- The item that tokens write, and the parameters with its own. A column without a name is named
like the text of its expression. -/
def ofTokens? (names : Parameters) (ts : List Token) : Option (Item × Parameters) := do
  let r ← operation? 0 names ts
  let name ← columnName? (Token.span ts) r.rest
  if r.expression.height ≤ Expression.maxHeight then return (⟨r.expression, name⟩, r.names)
  else none

/-- The items of several pieces of text, with their parameters numbered from the first on. -/
def ofPieces? (names : Parameters) : List (List Token) → Option (List Item × Parameters)
  | [] => some ([], names)
  | piece :: rest => do
    let (item, names) ← ofTokens? names piece
    let (items, names) ← ofPieces? names rest
    return (item :: items, names)

end Item

/-! ## Reading -/

/-- Puts an item in front of the first of several lists. -/
def consFirst {α : Type} (a : α) : List (List α) → List (List α)
  | [] => [[a]]
  | first :: others => (a :: first) :: others

/-- Tokens cut at the commas that stand in none of the parentheses opened among them; `depth` counts
the parentheses that are open. -/
def splitCommas (depth : Nat) : List Token → List (List Token)
  | [] => [[]]
  | t :: rest =>
    if t.isMark "," && depth = 0 then [] :: splitCommas depth rest
    else
      let depth :=
        if t.isMark "(" then depth + 1 else if t.isMark ")" then depth - 1 else depth
      consFirst t (splitCommas depth rest)

/-- Tokens cut at `UNION ALL`. -/
def splitUnions : List Token → List (List Token)
  | [] => [[]]
  | [t] => [[t]]
  | t :: u :: rest =>
    if t.isKeyword "UNION" && u.isKeyword "ALL" then [] :: splitUnions rest
    else consFirst t (splitUnions (u :: rest))

/-- The tokens after `SELECT`, where `ALL` and `DISTINCT` make no difference to a single row. -/
def afterSelect? : List Token → Option (List Token)
  | [] => none
  | t :: rest =>
    if t.isKeyword "SELECT" then
      if rest.head?.any fun u => u.isKeyword "ALL" || u.isKeyword "DISTINCT" then some (rest.drop 1)
      else some rest
    else none

/-- The rows of items of the selections under each other, and their parameters. -/
def itemRows? (names : Parameters) :
    List (List Token) → Option (List (List Item) × Parameters)
  | [] => some ([], names)
  | tokens :: rest => do
    let (first, names) ← Item.ofPieces? names (splitCommas 0 (← afterSelect? tokens))
    let (others, names) ← itemRows? names rest
    return (first :: others, names)

/-! ## Preparation -/

/-- A prepared selection. -/
structure Selection where
  columns : List String
  parameters : Parameters
  rows : List (List Expression)
deriving DecidableEq

namespace Selection

/-- The most rows of a selection. -/
def maxRows : Nat := 500

/-- The most columns of a selection. -/
def maxColumns : Nat := 2000

/-- The selection that a text writes. Its rows all have as many columns as the first. -/
def ofText? (sql : String) : Option Selection := do
  let tokens ← Token.ofText? sql
  let (rows, names) ← itemRows? [] (splitUnions tokens)
  let columns := (rows.headD []).map (·.name)
  if rows.length ≤ maxRows && columns.length ≤ maxColumns &&
      rows.all (·.length == columns.length) then
    return ⟨columns, names, rows.map fun items => items.map (·.expression)⟩
  else none

/-! ## Execution -/

/-- The cells of the selection, row by row, given the values of its parameters. -/
def cells (s : Selection) (values : List Value) : List (List Cell) :=
  s.rows.map fun row => row.map (·.value values)

end Selection

end BoundSql.Engine
