import BoundSql.Text.Utf8
import BoundSql.Value

/-!
# Cells

What the engine stores. It has no truth values, keeps text as bytes that need not be valid, and
holds no NaN. Main statement: a value is read back as it was stored, except that a truth value
comes back as an integer and a NaN as null.
-/

namespace BoundSql.Engine

/-- What the engine holds in a column or a parameter. -/
inductive Cell where
  | null
  | integer (n : Int64)
  | real (x : Float)
  | text (bytes : List UInt8)
  | blob (bytes : List UInt8)
deriving DecidableEq

namespace Cell

/-- How a value is stored. -/
def ofValue : Value → Cell
  | .null => null
  | .bool b => integer (if b then 1 else 0)
  | .int n => integer n
  | .float x => if x.isNaN then null else real x
  | .text s => text (Text.utf8 s)
  | .blob bytes => blob bytes

/-- How a cell is read. Bytes that are stored as text and are none are read as a blob. -/
def value : Cell → Value
  | null => .null
  | integer n => .int n
  | real x => .float x
  | text bytes =>
    match Text.ofUtf8? bytes with
    | some s => .text s
    | none => .blob bytes
  | blob bytes => .blob bytes

/-- What is read back of a stored value. -/
theorem value_ofValue (v : Value) :
    (ofValue v).value =
      match v with
      | .bool b => .int (if b then 1 else 0)
      | .float x => if x.isNaN then .null else .float x
      | v => v := by
  cases v with
  | float x =>
    cases h : x.isNaN <;>
      simp only [ofValue, h, Bool.false_eq_true, if_true, if_false, value]
  | text s => simp [ofValue, value]
  | _ => rfl

end Cell

end BoundSql.Engine
