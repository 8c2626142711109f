import BoundSql.Pairs

/-!
# JSON documents

A document keeps the order of an object's members, and keeps a number apart as an integer or as
a floating-point number: `1` and `1.0` are different documents.
-/

namespace BoundSql

/-- A JSON document. -/
inductive Json where
  | null
  | bool (b : Bool)
  | integer (n : Int)
  | real (x : Float)
  | string (s : String)
  | array (items : List Json)
  | object (members : List (String × Json))

namespace Json

/-- The text of a string document. -/
def text? : Json → Option String
  | .string s => some s
  | _ => none

/-- The first member of an object called `name`. -/
def member? (name : String) : Json → Option Json
  | .object members => Pairs.find? name members
  | _ => none

end Json

end BoundSql
