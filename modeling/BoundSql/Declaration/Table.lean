import BoundSql.Declaration.Item
import BoundSql.Text.SnakeCase

/-!
# Derived tables

A unit struct stands for a table. Its attributes name the table and the type of the entities;
without them both come from the name of the struct, such as `BlogPostModel`.
-/

namespace BoundSql.Declaration

/-- The text without `ending`, if it ends so. -/
def dropEnding (ending s : String) : String :=
  let kept := s.toList.length - ending.toList.length
  if s.toList.drop kept = ending.toList then String.ofList (s.toList.take kept) else s

/-- Every occurrence of `old` replaced, from left to right; `skip` characters of the occurrence
found last are still to be passed over. -/
def replaceFrom (old new : List Char) (skip : Nat) : List Char → List Char
  | [] => []
  | c :: rest =>
    match skip with
    | skip + 1 => replaceFrom old new skip rest
    | 0 =>
      if old.isPrefixOf (c :: rest) then new ++ replaceFrom old new (old.length - 1) rest
      else c :: replaceFrom old new 0 rest

/-- Whether `part` occurs in a text. -/
def occursIn (part : List Char) : List Char → Bool
  | [] => part.isEmpty
  | c :: rest => part.isPrefixOf (c :: rest) || occursIn part rest

/-! ## Paths -/

/-- The path that a string literal holds, without spaces. The literal may have no suffix. -/
def pathOf (source : TextLiteral) : Except DeriveError String :=
  match (tokensOfText? source.text).bind path? with
  | some path => if source.suffixed then .error .malformed else .ok (textOf path)
  | none => .error .malformed

/-! ## Tables -/

/-- A table and the type of its entities. -/
structure TableSpec where
  table : String
  entity : String
deriving DecidableEq, Repr

/-- The name of the table. -/
def Item.tableName (item : Item) (attr : TableAttr) : Except DeriveError String :=
  let table := (attr.table.map (·.text)).getD (Text.snakeCase (dropEnding "Model" item.name))
  if Text.isBlank table then .error .noTable else .ok table

/-- The type of the entities. -/
def Item.entityType (item : Item) (attr : TableAttr) : Except DeriveError String :=
  match attr.entity with
  | some source => pathOf source
  | none =>
    if occursIn "Model".toList item.name.toList then
      .ok (String.ofList (replaceFrom "Model".toList "Entity".toList 0 item.name.toList))
    else .error .noEntityType

/-- The table that a unit struct stands for. -/
def Item.tableSpec (item : Item) : Except DeriveError TableSpec := do
  if item.shape != .unit then .error .unitStructsOnly
  else
    let attr ← TableAttr.ofAttributes item.attributes
    let table ← item.tableName attr
    let entity ← item.entityType attr
    return ⟨table, entity⟩

end BoundSql.Declaration
