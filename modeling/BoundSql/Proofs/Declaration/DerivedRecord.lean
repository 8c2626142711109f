import BoundSql.Proofs.Declaration.FieldArguments
import BoundSql.Proofs.DistinctNames
import BoundSql.Schema

/-!
# Derived records

What is derived for a struct with named fields goes by its fields as their attributes describe them:
the entity has the column of every field that is not skipped, in the order of the fields, and
reading a row takes the same columns into the same fields and the defaults into the skipped ones.
So a record that is made an entity is read back from a row of the entity's columns, and a row is
refused for the first column that is missing or has the wrong content.

Main statement: `derived_entity_and_reader_agree`. The part about declarations rests on
`exists_described`; the part about records on `read_eq_ok_iff` and `read_refuses`, each an induction
over the fields of a struct.
-/

namespace BoundSql

/-! ## Declarations -/

namespace Declaration

/-- A field with the arguments that its attributes write. -/
structure Described where
  field : Field
  arguments : List FieldArgument
  written : FieldArgument.WrittenBy field.attributes arguments

namespace Described

/-- The column of a field: the last that an argument names, or else the name of the field. -/
def column (d : Described) : String :=
  (FieldArgument.lastColumn? d.arguments).getD d.field.name

/-- Whether a field is left out. -/
def isSkipped (d : Described) : Bool :=
  decide (.skip ∈ d.arguments)

/-- Whether a field belongs to the primary key. -/
def isKey (d : Described) : Bool :=
  decide (.id ∈ d.arguments)

/-- A described field resolved. -/
def resolved (d : Described) : ResolvedField :=
  ⟨d.field.name, d.column, d.isKey, d.isSkipped⟩

end Described

/-- A field that is resolved is described by the arguments of its attributes. -/
theorem Field.exists_described {f : Field} {r : ResolvedField} (h : f.resolve = .ok r) :
    ∃ d : Described, d.field = f ∧ d.resolved = r := by
  rw [resolve] at h
  cases hsaid : FieldAttr.ofAttributes f.attributes with
  | error e =>
    rw [hsaid] at h
    cases h
  | ok said =>
    rw [hsaid] at h
    cases h
    obtain ⟨arguments, hwritten, rfl⟩ := FieldAttr.ofAttributes_eq_ok_iff.1 hsaid
    exact ⟨⟨f, arguments, hwritten⟩, rfl, rfl⟩

/-- Fields are resolved as their attributes describe them. -/
theorem exists_described {fs : List Field} {rs : List ResolvedField}
    (h : resolveFields fs = .ok rs) :
    ∃ ds : List Described, ds.map (·.field) = fs ∧ ds.map (·.resolved) = rs := by
  induction fs generalizing rs with
  | nil =>
    cases h
    exact ⟨[], rfl, rfl⟩
  | cons f fs ih =>
    rw [resolveFields] at h
    cases hfirst : f.resolve with
    | error e =>
      rw [hfirst] at h
      cases h
    | ok r =>
      cases hrest : resolveFields fs with
      | error e =>
        rw [hfirst, hrest] at h
        cases h
      | ok others =>
        rw [hfirst, hrest] at h
        cases h
        -- The first field is described by itself, and the others by the induction.
        obtain ⟨d, rfl, rfl⟩ := f.exists_described hfirst
        obtain ⟨ds, rfl, rfl⟩ := ih hrest
        exact ⟨d :: ds, rfl, rfl⟩

/-- The stored fields are those that no argument skips. -/
theorem storedFields_resolved (ds : List Described) :
    storedFields (ds.map (·.resolved)) = (ds.filter fun d => !d.isSkipped).map (·.resolved) := by
  rw [storedFields, List.filter_map]
  rfl

/-- A skipped field has no column, and any other its own. -/
theorem columnsOf_cons (f : ResolvedField) (fields : List ResolvedField) :
    columnsOf (f :: fields) =
      if f.skip = true then columnsOf fields else (f.name, f.column) :: columnsOf fields := by
  cases hskip : f.skip <;> simp [columnsOf, storedFields, hskip]

/-- The derived parts of a struct whose fields are described. -/
structure DescribedBy (fields : List ResolvedField) (ds : List Described) : Prop where
  columns : columnsOf fields =
    (ds.filter fun d => !d.isSkipped).map fun d => (d.field.name, d.column)
  reads : readsOf fields =
    ds.map fun d => (d.field.name, if d.isSkipped then none else some d.column)
  keys : primaryKeysOf fields =
    (ds.filter fun d => d.isKey && !d.isSkipped).map (·.column)

/-- What is derived for resolved fields goes by their descriptions. -/
theorem describedBy_resolved (ds : List Described) : DescribedBy (ds.map (·.resolved)) ds where
  columns := by
    rw [columnsOf, storedFields_resolved, List.map_map]
    rfl
  reads := by
    rw [readsOf, List.map_map]
    rfl
  keys := by
    rw [primaryKeysOf, storedFields_resolved, List.filter_map, List.map_map, List.filter_filter]
    rfl

/-- The columns of the primary key are columns of the entity. -/
theorem mem_columnsOf_of_mem_primaryKeysOf {fields : List ResolvedField} {key : String}
    (h : key ∈ primaryKeysOf fields) : key ∈ (columnsOf fields).map (·.2) := by
  rw [primaryKeysOf, List.mem_map] at h
  obtain ⟨f, hf, rfl⟩ := h
  rw [columnsOf, List.map_map, List.mem_map]
  exact ⟨f, (List.mem_filter.1 hf).1, rfl⟩

end Declaration

/-! ## Fields of records -/

namespace StructField

/-- A field holds what a row has for it: a skipped field its default, a stored one what the value of
its column decodes to. -/
def Holds (f : StructField) (row : Row) (x : f.Content) : Prop :=
  (∃ skipped, x = f.default skipped) ∨
    ∃ stored value, row.get? f.field.column = some value ∧ f.decode stored value = .ok x

/-- A row is refused for a field: its column is missing, or the value there does not decode. -/
inductive Refuses (f : StructField) (row : Row) : String → Prop where
  | missing (stored : f.field.skip = false) (absent : row.get? f.field.column = none) :
    Refuses f row "no such column"
  | undecodable (stored : f.field.skip = false) {value : Value} {reason : String}
    (present : row.get? f.field.column = some value)
    (wrong : f.decode stored value = .error reason) : Refuses f row reason

/-- Whatever a stored field holds is decoded from its value. -/
def RoundTrips (f : StructField) : Prop :=
  ∀ stored x, f.decode stored (f.encode stored x) = .ok x

/-- The content of a field, or its default if it is skipped. -/
def defaulted (f : StructField) (x : f.Content) : f.Content :=
  match h : f.field.skip with
  | true => f.default h
  | false => x

variable {f : StructField}

/-- A skipped field has its default. -/
theorem defaulted_of_skipped (h : f.field.skip = true) (x : f.Content) :
    f.defaulted x = f.default h := by
  unfold defaulted
  split <;> simp_all

/-- A stored field keeps its content. -/
theorem defaulted_of_stored (h : f.field.skip = false) (x : f.Content) : f.defaulted x = x := by
  unfold defaulted
  split <;> simp_all

/-- A skipped field holds its default, whatever the row. -/
theorem holds_of_skipped (h : f.field.skip = true) {row : Row} {x : f.Content} :
    f.Holds row x ↔ x = f.default h := by
  constructor
  · rintro (⟨-, rfl⟩ | ⟨stored, -⟩)
    · rfl
    · rw [h] at stored
      cases stored
  · rintro rfl
    exact .inl ⟨h, rfl⟩

/-- A stored field holds what the value of its column decodes to. -/
theorem holds_of_stored (h : f.field.skip = false) {row : Row} {x : f.Content} :
    f.Holds row x ↔
      ∃ value, row.get? f.field.column = some value ∧ f.decode h value = .ok x := by
  constructor
  · rintro (⟨skipped, -⟩ | ⟨_, hvalue⟩)
    · rw [h] at skipped
      cases skipped
    · exact hvalue
  · exact fun hvalue => .inr ⟨h, hvalue⟩

/-- No row is refused for a skipped field. -/
theorem Refuses.stored {row : Row} {reason : String} (h : f.Refuses row reason) :
    f.field.skip = false := by
  cases h with
  | missing stored absent => exact stored
  | undecodable stored present wrong => exact stored

/-- Reading a field gives the one content that the row has for it, or the row is refused for the
field and the failure names its column. -/
theorem read_spec (f : StructField) (row : Row) :
    (∃ x, f.read row = .ok x ∧ (∀ y, f.Holds row y ↔ y = x) ∧
      ∀ reason, ¬ f.Refuses row reason) ∨
    ∃ reason, f.read row = .error (.decode f.field.column reason) ∧ f.Refuses row reason ∧
      ∀ y, ¬ f.Holds row y := by
  cases hskip : f.field.skip with
  | true =>
    refine .inl ⟨f.default hskip, read_of_skipped hskip row, fun y => holds_of_skipped hskip, ?_⟩
    intro reason hrefuses
    rw [hrefuses.stored] at hskip
    cases hskip
  | false =>
    rw [read_of_stored hskip, Row.decode]
    -- a stored field: its column may be missing, or its value not decode
    cases hvalue : row.get? f.field.column with
    | none =>
      refine .inr ⟨_, rfl, .missing hskip hvalue, ?_⟩
      simp [holds_of_stored hskip, hvalue]
    | some value =>
      cases hdecode : f.decode hskip value with
      | error reason =>
        refine .inr ⟨reason, by simp only [hdecode], .undecodable hskip hvalue hdecode, ?_⟩
        simp [holds_of_stored hskip, hvalue, hdecode]
      | ok x =>
        refine .inl ⟨x, by simp only [hdecode], ?_, ?_⟩
        · simp [holds_of_stored hskip, hvalue, hdecode, eq_comm]
        · rintro reason (⟨_, absent⟩ | ⟨_, present, wrong⟩)
          · simp [hvalue] at absent
          · obtain rfl := Option.some.inj (hvalue.symm.trans present)
            simp [hdecode] at wrong

end StructField

/-! ## Records -/

namespace Struct

/-- The fields of a record with their contents, in order. -/
def contents : (struct : Struct) → Record struct → List (Σ f : StructField, f.Content)
  | [], _ => []
  | f :: rest, (x, xs) => ⟨f, x⟩ :: contents rest xs

/-- The record with the defaults in its skipped fields. -/
def defaulted : (struct : Struct) → Record struct → Record struct
  | [], record => record
  | f :: rest, (x, xs) => (f.defaulted x, defaulted rest xs)

/-- The contents of a record belong to the fields of its struct. -/
theorem mem_of_mem_contents {struct : Struct} {record : Record struct}
    {c : Σ f : StructField, f.Content} (h : c ∈ struct.contents record) : c.1 ∈ struct := by
  induction struct with
  | nil => cases h
  | cons f rest ih =>
    obtain ⟨x, xs⟩ := record
    rcases List.mem_cons.1 h with rfl | h
    · exact .head _
    · exact .tail _ (ih h)

/-- Defaults are filled in field by field. -/
theorem contents_defaulted (struct : Struct) (record : Record struct) :
    struct.contents (struct.defaulted record) =
      (struct.contents record).map fun c => ⟨c.1, c.1.defaulted c.2⟩ := by
  induction struct with
  | nil => rfl
  | cons f rest ih =>
    obtain ⟨x, xs⟩ := record
    show _ :: contents rest (defaulted rest xs) = _
    rw [ih]
    rfl

/-- The entity has the columns of the contents, in the order of the fields. -/
theorem columns_eq_filterMap (struct : Struct) (record : Record struct) :
    struct.columns record = (struct.contents record).filterMap fun c => c.1.column? c.2 := by
  induction struct with
  | nil => rfl
  | cons f rest ih =>
    obtain ⟨x, xs⟩ := record
    rw [columns, contents, List.filterMap_cons, ih]
    cases f.column? x <;> rfl

/-- Which columns an entity has does not depend on what the record holds. -/
theorem names_columns (struct : Struct) (record : Record struct) :
    Pairs.names (struct.columns record) =
      (Declaration.columnsOf (struct.map (·.field))).map (·.2) := by
  induction struct with
  | nil => rfl
  | cons f rest ih =>
    obtain ⟨x, xs⟩ := record
    rw [columns, List.map_cons, Declaration.columnsOf_cons]
    -- a skipped field adds no column on either side
    cases hskip : f.field.skip with
    | true =>
      rw [StructField.column?_of_skipped hskip, if_pos rfl]
      exact ih xs
    | false =>
      rw [StructField.column?_of_stored hskip, if_neg (by decide)]
      exact congrArg (f.field.column :: ·) (ih xs)

/-! ## Reading records -/

/-- A record is read from a row if every field holds what the row has for it. -/
theorem read_eq_ok_iff (struct : Struct) (row : Row) (record : Record struct) :
    struct.read row = .ok record ↔ ∀ c ∈ struct.contents record, c.1.Holds row c.2 := by
  induction struct with
  | nil => exact ⟨fun _ c h => (nomatch h), fun _ => rfl⟩
  | cons f rest ih =>
    obtain ⟨x, xs⟩ := record
    rw [contents, List.forall_mem_cons, ← ih xs, read]
    -- Either the first field has one content, or nothing can stand in it.
    rcases f.read_spec row with ⟨y, hread, hholds, -⟩ | ⟨reason, hread, -, hnone⟩
    · rw [hread, hholds]
      cases hrest : read rest row with
      | error e => simp [Except.map]
      | ok ys =>
        constructor
        · intro h
          obtain ⟨rfl, rfl⟩ := Prod.mk.inj (Except.ok.inj h)
          exact ⟨rfl, rfl⟩
        · rintro ⟨rfl, h⟩
          obtain rfl := Except.ok.inj h
          rfl
    · rw [hread]
      constructor
      · intro h
        cases h
      · rintro ⟨h, -⟩
        exact absurd h (hnone x)

/-- A row is read unless it is refused for some field; the first such field decides the failure. -/
theorem read_refuses (struct : Struct) (row : Row) :
    ((∃ record, struct.read row = .ok record) ∧ ∀ f ∈ struct, ∀ reason, ¬ f.Refuses row reason) ∨
      ∃ before f after reason, struct = before ++ f :: after ∧
        (∀ g ∈ before, ∀ reason, ¬ g.Refuses row reason) ∧ f.Refuses row reason ∧
        struct.read row = .error (.decode f.field.column reason) := by
  induction struct with
  | nil => exact .inl ⟨⟨(), rfl⟩, fun f h => nomatch h⟩
  | cons f rest ih =>
    rw [read]
    rcases f.read_spec row with ⟨x, hread, -, haccepts⟩ | ⟨reason, hread, hrefuses, -⟩
    · -- The first field is read, so the rest decides.
      rw [hread]
      rcases ih with ⟨⟨xs, hrest⟩, hall⟩ | ⟨before, g, after, reason, hsplit, hbefore, hg, hrest⟩
      · refine .inl ⟨⟨(x, xs), by simp only [hrest, Except.map]⟩, ?_⟩
        exact List.forall_mem_cons.2 ⟨haccepts, hall⟩
      · refine .inr ⟨f :: before, g, after, reason, by rw [hsplit]; rfl, ?_, hg, ?_⟩
        · exact List.forall_mem_cons.2 ⟨haccepts, hbefore⟩
        · simp only [hrest, Except.map]
    · -- Reading stops at the first field.
      refine .inr ⟨[], f, rest, reason, rfl, ?_, hrefuses, by rw [hread]⟩
      intro g h
      cases h

/-- Where the columns are distinct, a record is read back from the columns of its entity, but for
the skipped fields. -/
theorem read_columns {struct : Struct} (record : Record struct)
    (distinct : (Pairs.names (struct.columns record)).Nodup)
    (roundTrips : ∀ f ∈ struct, f.RoundTrips) :
    struct.read ⟨struct.columns record⟩ = .ok (struct.defaulted record) := by
  rw [read_eq_ok_iff, contents_defaulted]
  intro c hc
  obtain ⟨⟨f, x⟩, hmem, rfl⟩ := List.mem_map.1 hc
  show f.Holds _ (f.defaulted x)
  cases hskip : f.field.skip with
  | true => exact .inl ⟨hskip, StructField.defaulted_of_skipped hskip x⟩
  | false =>
    -- The column of the field is there, and no other column comes before it.
    have hcolumn : (f.field.column, f.encode hskip x) ∈ struct.columns record := by
      rw [columns_eq_filterMap, List.mem_filterMap]
      exact ⟨⟨f, x⟩, hmem, StructField.column?_of_stored hskip x⟩
    rw [StructField.defaulted_of_stored hskip]
    exact .inr ⟨hskip, _, Pairs.find?_of_mem distinct hcolumn,
      roundTrips f (mem_of_mem_contents hmem) hskip x⟩

/-- What is derived for a struct with these resolved fields fits together. -/
structure Agrees (struct : Struct) (fields : List Declaration.ResolvedField) : Prop where
  /-- An entity has a column for every content of the record but the skipped ones. -/
  columns : ∀ record, (struct.entity record).columns =
    (struct.contents record).filterMap fun c => c.1.column? c.2
  /-- The columns of an entity are those of the fields, and so is its primary key. -/
  names : ∀ record, Pairs.names (struct.entity record).columns =
    (Declaration.columnsOf fields).map (·.2)
  keys : ∀ record, (struct.entity record).primaryKeys = Declaration.primaryKeysOf fields
  /-- Reading takes the columns of the fields from the row, and the defaults. -/
  reads : ∀ row record, struct.read row = .ok record ↔
    ∀ c ∈ struct.contents record, c.1.Holds row c.2
  /-- A record is read back from its entity with the defaults in its skipped fields. -/
  restores : ((Declaration.columnsOf fields).map (·.2)).Nodup → (∀ f ∈ struct, f.RoundTrips) →
    ∀ record, struct.read ⟨(struct.entity record).columns⟩ = .ok (struct.defaulted record)
  /-- A row is refused for the first field whose column is missing or does not decode. -/
  refuses : ∀ row,
    ((∃ record, struct.read row = .ok record) ∧ ∀ f ∈ struct, ∀ reason, ¬ f.Refuses row reason) ∨
      ∃ before f after reason, struct = before ++ f :: after ∧
        (∀ g ∈ before, ∀ reason, ¬ g.Refuses row reason) ∧ f.Refuses row reason ∧
        struct.read row = .error (.decode f.field.column reason)

/-- A struct agrees with its own fields. -/
theorem agrees_fields (struct : Struct) : struct.Agrees (struct.map (·.field)) where
  columns := struct.columns_eq_filterMap
  names := struct.names_columns
  keys _ := rfl
  reads := struct.read_eq_ok_iff
  restores distinct roundTrips record :=
    read_columns record (by rw [names_columns]; exact distinct) roundTrips
  refuses := struct.read_refuses

end Struct

/-! ## Derived parts -/

namespace Declaration

/-- If an entity can be derived for a declaration, so can the reader, for the same fields, and these
are as the attributes describe them. Every column of the primary key is a column. Whatever types the
fields have, the entity and the reader made of them agree. -/
theorem derived_entity_and_reader_agree (item : Item) (fields : List ResolvedField)
    (accepted : item.namedFields "Entity" = .ok fields) :
    item.namedFields "FromRow" = .ok fields ∧
    (∃ ds : List Described,
      ds.map (·.field) = item.fields ∧ ds.map (·.resolved) = fields ∧ DescribedBy fields ds) ∧
    (∀ key ∈ primaryKeysOf fields, key ∈ (columnsOf fields).map (·.2)) ∧
    ∀ struct : Struct, struct.map (·.field) = fields → struct.Agrees fields := by
  cases hshape : item.shape with
  | named =>
    have hresolved : resolveFields item.fields = .ok fields := by
      rw [Item.namedFields, hshape] at accepted
      exact accepted
    refine ⟨by rw [Item.namedFields, hshape]; exact hresolved, ?_, ?_, ?_⟩
    · obtain ⟨ds, hfields, rfl⟩ := exists_described hresolved
      exact ⟨ds, hfields, rfl, describedBy_resolved ds⟩
    · exact fun key h => mem_columnsOf_of_mem_primaryKeysOf h
    · rintro struct rfl
      exact struct.agrees_fields
  -- an entity is derived for structs with named fields only
  | tuple | unit | enumeration | union =>
    rw [Item.namedFields, hshape] at accepted
    cases accepted

/-- An article is found by its slug. What it says is in the column that the last of two attributes
names, and the lines shown of it are not stored. -/
def article : Item where
  shape := .named
  name := "Article"
  parameters := []
  attributes := []
  fields :=
    [⟨"slug", [⟨"orm", .list [.ident "id"]⟩]⟩,
      ⟨"content",
        [⟨"orm", .list [.ident "column", .mark '=' false, .string "\"text\"" "text" false]⟩,
          ⟨"doc", .value [.string "\"What it says.\"" "What it says." false]⟩,
          ⟨"orm", .list [.ident "column", .mark '=' false, .string "\"body\"" "body" false]⟩]⟩,
      ⟨"shown", [⟨"orm", .list [.ident "id", .mark ',' false, .ident "skip"]⟩]⟩]

/-- The struct of articles. There are no values for the lines that are shown. -/
def articleStruct : Struct :=
  [SchemaField.structField ⟨⟨"slug", "slug", true, false⟩, .text, rfl⟩,
    SchemaField.structField ⟨⟨"content", "body", false, false⟩, .option .text, rfl⟩,
    ⟨⟨"shown", "shown", true, true⟩, List Nat, fun _ => [], nofun, nofun⟩]

theorem article_is_read_back :
    article.namedFields "Entity" = .ok (articleStruct.map (·.field)) ∧
      article.namedFields "FromRow" = .ok (articleStruct.map (·.field)) ∧
      articleStruct.read ⟨(articleStruct.entity ("lean", some "proofs", [3, 5], ())).columns⟩ =
        .ok ("lean", some "proofs", [], ()) := by
  have accepted : article.namedFields "Entity" = .ok (articleStruct.map (·.field)) := by
    decide +kernel
  obtain ⟨hreader, -, -, hagrees⟩ := derived_entity_and_reader_agree article _ accepted
  have roundTrips : ∀ f ∈ articleStruct, f.RoundTrips := by
    simp only [articleStruct, List.forall_mem_cons]
    refine ⟨?slug, ?content, ?shown, nofun⟩
    case slug => exact fun _ _ => rfl
    case content => exact fun _ x => by cases x <;> rfl
    case shown => exact fun stored => nomatch stored
  exact ⟨accepted, hreader, (hagrees articleStruct rfl).restores (by decide) roundTrips _⟩

end Declaration

end BoundSql
