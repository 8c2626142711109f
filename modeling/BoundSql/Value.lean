import BoundSql.Json
import BoundSql.Number.Decimal
import BoundSql.Number.Layout
import BoundSql.Text.Join
import BoundSql.Text.Quoted

/-!
# Values

What a statement binds to a placeholder and what a row holds in a column.
-/

namespace BoundSql

/-- A scalar that a database stores. -/
inductive Value where
  | null
  | bool (b : Bool)
  | int (n : Int64)
  | float (x : Float)
  | text (s : String)
  | blob (bytes : List UInt8)
deriving DecidableEq

namespace Value

/-- The name of a value's kind in messages. -/
def kindName : Value → String
  | null => "null"
  | bool _ => "bool"
  | int _ => "integer"
  | float _ => "float"
  | text _ => "text"
  | blob _ => "blob"

/-- Whether the value is the database's NULL. -/
def isNull : Value → Bool
  | null => true
  | _ => false

/-- Whether two values are of one kind and equal. Floating-point numbers compare as numbers: a
NaN differs from itself and the two zeros are equal. -/
def same : Value → Value → Bool
  | null, null => true
  | bool a, bool b => a == b
  | int a, int b => a == b
  | float x, float y => x == y
  | text s, text t => s == t
  | blob a, blob b => a == b
  | _, _ => false

/-- The value for people to read; text is put in quotes without escapes. -/
def display : Value → String
  | null => "NULL"
  | bool b => if b then "true" else "false"
  | int n => toString n.toInt
  | float x => Number.FloatLayout.positional.write x
  | text s => "'" ++ s ++ "'"
  | blob bytes => "<" ++ toString bytes.length ++ " bytes>"

/-- The value with its kind, in the notation of its constructor. -/
def inspect : Value → String
  | null => "Null"
  | bool b => "Bool(" ++ (if b then "true" else "false") ++ ")"
  | int n => "Int(" ++ toString n.toInt ++ ")"
  | float x => "Float(" ++ Number.FloatLayout.exact.write x ++ ")"
  | text s => "Text(" ++ Text.quoted s ++ ")"
  | blob bytes => "Blob([" ++ Text.join ", " (bytes.map fun b => toString b.toNat) ++ "])"

/-- A signed 64-bit integer, if the number is one. -/
def int64? (n : Int) : Option Int64 :=
  if -0x8000000000000000 ≤ n ∧ n < 0x8000000000000000 then some (Int64.ofInt n) else none

theorem int64?_eq_some_iff {n : Int} {i : Int64} : int64? n = some i ↔ i.toInt = n := by
  unfold int64?
  constructor
  · intro h
    split at h
    · rename_i hrange
      cases h
      exact Int64.toInt_ofInt_of_le hrange.1 hrange.2
    · cases h
  · rintro rfl
    have lower : -0x8000000000000000 ≤ i.toInt := i.le_toInt
    have upper : i.toInt < 0x8000000000000000 := i.toInt_lt
    rw [if_pos ⟨lower, upper⟩, Int64.ofInt_toInt]

theorem int64?_eq_none_iff {n : Int} :
    int64? n = none ↔ ¬ (-0x8000000000000000 ≤ n ∧ n < 0x8000000000000000) := by
  unfold int64?
  split <;> simp_all

/-- The value of a scalar document. Integers beyond 64 bits with sign become floating-point
numbers; arrays and objects have no scalar value. -/
def ofJson? : Json → Option Value
  | .null => some null
  | .bool b => some (bool b)
  | .integer n =>
    match int64? n with
    | some i => some (int i)
    | none => some (float (Number.floatOfInt n))
  | .real x => some (float x)
  | .string s => some (text s)
  | .array _ => none
  | .object _ => none

@[simp]
theorem isNull_iff {v : Value} : v.isNull = true ↔ v = null := by
  cases v <;> simp [isNull]

theorem isNull_eq_false_iff {v : Value} : v.isNull = false ↔ v ≠ null := by
  rw [← Bool.not_eq_true, isNull_iff]

/-- A document has a scalar value exactly if it is neither an array nor an object. -/
theorem ofJson?_eq_none_iff {j : Json} :
    ofJson? j = none ↔ (∃ items, j = .array items) ∨ ∃ members, j = .object members := by
  cases j <;> simp [ofJson?]
  split <;> simp

end Value

end BoundSql
