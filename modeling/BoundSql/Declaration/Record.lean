import BoundSql.Declaration.Item

/-!
# Derived records

A struct with named fields is stored field by field: a field that is not skipped has a column,
which is named by its last `column` attribute or else like the field. Writing an entity and
reading one from a row go by the same resolved fields.
-/

namespace BoundSql.Declaration

/-- A field with what its attributes resolve to. -/
structure ResolvedField where
  name : String
  column : String
  isKey : Bool
  skip : Bool
deriving DecidableEq, Repr

/-- A field resolved. -/
def Field.resolve (f : Field) : Except DeriveError ResolvedField :=
  (FieldAttr.ofAttributes f.attributes).map fun said =>
    ⟨f.name, said.column.getD f.name, said.isKey, said.skip⟩

/-- Fields resolved one after another, up to the first that cannot be. -/
def resolveFields : List Field → Except DeriveError (List ResolvedField)
  | [] => .ok []
  | f :: rest =>
    match f.resolve with
    | .error e => .error e
    | .ok first => (resolveFields rest).map (first :: ·)

/-- The resolved fields of a struct with named fields, for what is called `derive`. -/
def Item.namedFields (item : Item) (derive : String) :
    Except DeriveError (List ResolvedField) :=
  match item.shape with
  | .named => resolveFields item.fields
  | .tuple | .unit => .error (.namedFieldsOnly derive)
  | .enumeration | .union => .error (.structsOnly derive)

/-- The fields that are stored. -/
def storedFields (fields : List ResolvedField) : List ResolvedField :=
  fields.filter fun f => !f.skip

/-- The columns that an entity has, each with its field. -/
def columnsOf (fields : List ResolvedField) : List (String × String) :=
  (storedFields fields).map fun f => (f.name, f.column)

/-- The columns of the primary key. -/
def primaryKeysOf (fields : List ResolvedField) : List String :=
  ((storedFields fields).filter (·.isKey)).map (·.column)

/-- The column that each field is read from; none for a field that takes its default. -/
def readsOf (fields : List ResolvedField) : List (String × Option String) :=
  fields.map fun f => (f.name, if f.skip then none else some f.column)

end BoundSql.Declaration
