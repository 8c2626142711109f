import BoundSql.Declaration.Record
import BoundSql.Entity
import BoundSql.Row

/-!
# Structs

A struct is a list of resolved fields with the types of what they hold. It reads a record from a row
and makes an entity of a record: both go through the fields in order, and a skipped field takes no
part in either. Of a stored field nothing is asked but that its content converts to a value and
back, of a skipped one that it has a default.
-/

namespace BoundSql

/-- A resolved field with the type of its content. -/
structure StructField where
  field : Declaration.ResolvedField
  Content : Type
  default : field.skip = true → Content
  encode : field.skip = false → Content → Value
  decode : field.skip = false → Value → Except String Content

/-- The fields of a struct, in order. -/
abbrev Struct := List StructField

namespace StructField

/-- The content of a field in a row: that of its column, or the default if it is skipped. -/
def read (f : StructField) (row : Row) : Except Failure f.Content :=
  match h : f.field.skip with
  | true => .ok (f.default h)
  | false => row.decode f.field.column (f.decode h)

theorem read_of_skipped {f : StructField} (h : f.field.skip = true) (row : Row) :
    f.read row = .ok (f.default h) := by
  unfold read
  split
  · rfl
  · rename_i stored
    rw [h] at stored
    cases stored

theorem read_of_stored {f : StructField} (h : f.field.skip = false) (row : Row) :
    f.read row = row.decode f.field.column (f.decode h) := by
  unfold read
  split
  · rename_i skipped
    rw [h] at skipped
    cases skipped
  · rfl

/-- The column of a field with the value of its content; none if it is skipped. -/
def column? (f : StructField) (x : f.Content) : Option (String × Value) :=
  match h : f.field.skip with
  | true => none
  | false => some (f.field.column, f.encode h x)

theorem column?_of_skipped {f : StructField} (h : f.field.skip = true) (x : f.Content) :
    f.column? x = none := by
  unfold column?
  split <;> simp_all

theorem column?_of_stored {f : StructField} (h : f.field.skip = false) (x : f.Content) :
    f.column? x = some (f.field.column, f.encode h x) := by
  unfold column?
  split <;> simp_all

end StructField

namespace Struct

/-- What a struct holds: the content of each field. -/
def Record : Struct → Type
  | [] => Unit
  | f :: rest => f.Content × Record rest

/-- Reads the fields from a row, up to the first that cannot be. -/
def read : (struct : Struct) → Row → Except Failure (Record struct)
  | [], _ => .ok ()
  | f :: rest, row =>
    match f.read row with
    | .error e => .error e
    | .ok x => (read rest row).map (x, ·)

/-- The columns of a record with their values. -/
def columns : (struct : Struct) → Record struct → Pairs Value
  | [], _ => []
  | f :: rest, (x, xs) =>
    match f.column? x with
    | none => columns rest xs
    | some column => column :: columns rest xs

/-- A record as an entity. -/
def entity (struct : Struct) (record : Record struct) : Entity :=
  ⟨struct.columns record, Declaration.primaryKeysOf (struct.map (·.field))⟩

/-- Reads an entity from a row. -/
def readEntity (struct : Struct) (row : Row) : Except Failure Entity :=
  (struct.read row).map struct.entity

end Struct

end BoundSql
