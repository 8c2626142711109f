import BoundSql.FieldType
import BoundSql.Struct

/-!
# Schemas

A schema is a struct whose fields have types that convert to values and back.
-/

namespace BoundSql

namespace FieldType

/-- Every content of a storable type has a value. -/
theorem encode?_isSome {t : FieldType} (h : t.storable = true) (x : t.Carrier) :
    (encode? t x).isSome = true := by
  induction t with
  | int t =>
    have inRange := IntType.int64_of_fitsInt64 h x.lower x.upper
    rw [encode?, Value.int64?, if_pos inRange]
    rfl
  | option t ih =>
    cases x with
    | none => rfl
    | some x => exact ih h x
  | _ => rfl

/-- The value of a field's content. -/
def encode (t : FieldType) (h : t.storable = true) (x : t.Carrier) : Value :=
  (encode? t x).get (encode?_isSome h x)

end FieldType

/-- A resolved field with its type, every content of which has a value. -/
structure SchemaField where
  field : Declaration.ResolvedField
  type : FieldType
  storable : type.storable = true

/-- The field of a struct: it holds what its type does. -/
def SchemaField.structField (f : SchemaField) : StructField where
  field := f.field
  Content := f.type.Carrier
  default _ := f.type.default
  encode _ := f.type.encode f.storable
  decode _ v := (f.type.decode v).mapError (·.message)

/-- The fields of a struct. -/
abbrev Schema := List SchemaField

namespace Schema

/-- The struct of a schema. -/
def struct (schema : Schema) : Struct :=
  schema.map (·.structField)

/-- Reads an entity from a row. -/
def readEntity (schema : Schema) (row : Row) : Except Failure Entity :=
  schema.struct.readEntity row

/-- Resolved fields with types, as many as there are both. -/
def ofFields : List Declaration.ResolvedField → List FieldType → Option Schema
  | [], [] => some []
  | f :: fields, t :: types =>
    if h : t.storable = true then (ofFields fields types).map (⟨f, t, h⟩ :: ·) else none
  | _, _ => none

end Schema

end BoundSql
