import BoundSql.Json.Writer
import BoundSql.Text.Join
import BoundSql.Text.Quoted

/-!
# Documents in the notation of their kinds

Each part of a document is written with the name of its kind.
-/

namespace BoundSql.Json

mutual

/-- A document with the kinds of its parts. -/
def inspect : Json → String
  | .null => "Null"
  | .bool b => "Bool(" ++ (if b then "true" else "false") ++ ")"
  | .integer n => "Number(" ++ toString n ++ ")"
  | .real x => "Number(" ++ Number.FloatLayout.json.write x ++ ")"
  | .string s => "String(" ++ Text.quoted s ++ ")"
  | .array items => "Array [" ++ Text.join ", " (inspectItems items) ++ "]"
  | .object members => "Object \x7b" ++ Text.join ", " (inspectMembers members) ++ "\x7d"

/-- The items of an array. -/
def inspectItems : List Json → List String
  | [] => []
  | j :: rest => j.inspect :: inspectItems rest

/-- The members of an object. -/
def inspectMembers : List (String × Json) → List String
  | [] => []
  | (name, j) :: rest => (Text.quoted name ++ ": " ++ j.inspect) :: inspectMembers rest

end

end BoundSql.Json
