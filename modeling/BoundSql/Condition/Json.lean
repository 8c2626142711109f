import BoundSql.Condition
import BoundSql.Json.Writer

/-!
# Conditions as JSON

A comparison is written `[column, operator, value]` and a group as an object with the one member
`AND` or `OR`, a list of conditions.
-/

namespace BoundSql

/-- A document that is no condition. -/
def shapeError {α : Type} (reason : String) : Except QueryError α :=
  .error (.badConditionShape reason)

namespace Condition

/-! ## Writing -/

mutual

/-- A condition as a document, with its values as `ofValue` writes them. -/
def toJson (ofValue : Value → Json) : Condition → Json
  | .compare column operator value => .array [.string column, .string operator, ofValue value]
  | .group connective members => .object [(connective.keyword, .array (toJsonEach ofValue members))]

/-- Conditions as documents. -/
def toJsonEach (ofValue : Value → Json) : List Condition → List Json
  | [] => []
  | c :: rest => c.toJson ofValue :: toJsonEach ofValue rest

end

/-! ## Reading -/

/-- The comparison written by the items of a list. -/
def ofItems (items : List Json) : Except QueryError Condition :=
  match items with
  | [column, operator, value] =>
    match column.text? with
    | none => shapeError ("column must be a string, found " ++ column.write)
    | some column =>
      match operator.text? with
      | none => shapeError ("operator must be a string, found " ++ operator.write)
      | some operator =>
        match Value.ofJson? value with
        | none =>
          shapeError ("value for '" ++ column ++ "' must be a scalar, found " ++ value.write)
        | some value => .ok (.compare column operator value)
  | _ =>
    shapeError
      ("expected [column, operator, value], found " ++ toString items.length ++ " elements")

mutual

/-- The condition that a document describes. -/
def ofJson : Json → Except QueryError Condition
  | .array items => ofItems items
  | .object [(key, children)] => ofGroup key children
  | .object members =>
    shapeError
      ("a group must have exactly one AND/OR key, found " ++ toString members.length ++ " keys")
  | other =>
    shapeError
      ("expected a [column, operator, value] list or an AND/OR group, found " ++ other.write)

/-- The group that the only member of an object describes. -/
def ofGroup (key : String) : Json → Except QueryError Condition
  | .array items =>
    match Connective.ofKeyword? key with
    | none => shapeError ("unknown combinator '" ++ key ++ "'")
    | some connective => (ofEach items).map (.group connective)
  | _ =>
    match Connective.ofKeyword? key with
    | none => shapeError ("unknown combinator '" ++ key ++ "'")
    | some _ => shapeError (key ++ " must map to a list of conditions")

/-- The conditions that documents describe, up to the first that describes none. -/
def ofEach : List Json → Except QueryError (List Condition)
  | [] => .ok []
  | j :: rest =>
    match ofJson j with
    | .error e => .error e
    | .ok c => (ofEach rest).map (c :: ·)

end

end Condition

end BoundSql
