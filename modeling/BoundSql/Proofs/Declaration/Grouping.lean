import BoundSql.Proofs.Declaration.FieldArguments
import BoundSql.Declaration.Record

/-!
# Grouped arguments of fields

Whoever declares a field lists what its attributes say, and cuts this list into attributes at will:
all of it in one, one attribute for each argument, empty attributes and other ones in between, a
comma behind the last argument or none. What is derived depends on the list alone. A word that is no
argument is refused wherever it stands, and of several such words the first one is refused.

Arguments are put together twice, between the commas of an attribute and from attribute to
attribute. Both steps are the same `merge`, so `FieldAttr.verdict_append` carries the induction over
the arguments of an attribute (`FieldAttr.ofTokens_tokensOf`) and the one over the attributes of a
field (`FieldAttr.ofAttributes_groups`).

Main statement: `derived_parts_ignore_grouping`.
-/

namespace BoundSql.Declaration

/-! ## Lists of arguments -/

/-- A word that is no argument of a field. -/
structure UnknownWord where
  word : String
  unknown : word ∉ ["id", "skip", "column"]

/-- A keyword of the language is refused as such, any other word by its name. -/
def UnknownWord.refusal (w : UnknownWord) : DeriveError :=
  if isName w.word then .unknownFieldAttribute w.word else .malformed

/-- What is listed for a field. -/
inductive Entry where
  | argument (a : FieldArgument)
  | unknown (w : UnknownWord)

namespace Entry

/-- The argument that an entry is. -/
def argument? : Entry → Option FieldArgument
  | argument a => some a
  | unknown _ => none

/-- The unknown word that an entry is. -/
def unknown? : Entry → Option UnknownWord
  | argument _ => none
  | unknown w => some w

/-- Tokens write an entry. Anything may follow an unknown word. -/
inductive Writes : List Token → Entry → Prop where
  | argument {tokens : List Token} {a : FieldArgument} (h : FieldArgument.Writes tokens a) :
    Writes tokens (.argument a)
  | unknown (w : UnknownWord) (behind : List Token) : Writes (.ident w.word :: behind) (.unknown w)

end Entry

/-- A field with what is listed for it. -/
structure Listed where
  name : String
  entries : List Entry

namespace Listed

/-- The arguments that are listed. -/
def arguments (l : Listed) : List FieldArgument :=
  l.entries.filterMap Entry.argument?

/-- The column of the field: the last one listed, or else the name of the field. -/
def column (l : Listed) : String :=
  (FieldArgument.lastColumn? l.arguments).getD l.name

/-- Whether the field belongs to the primary key. -/
def isKey (l : Listed) : Bool :=
  decide (.id ∈ l.arguments)

/-- Whether the field is left out. -/
def isSkipped (l : Listed) : Bool :=
  decide (.skip ∈ l.arguments)

/-- The field resolved as its list has it. -/
def resolved (l : Listed) : ResolvedField :=
  ⟨l.name, l.column, l.isKey, l.isSkipped⟩

/-- The first unknown word of several fields, in the order of the fields and of their lists. -/
def unknown? (ls : List Listed) : Option UnknownWord :=
  (ls.flatMap (·.entries)).findSome? Entry.unknown?

theorem unknown?_cons (l : Listed) (ls : List Listed) :
    unknown? (l :: ls) = (l.entries.findSome? Entry.unknown?).or (unknown? ls) := by
  rw [unknown?, List.flatMap_cons, List.findSome?_append]
  rfl

end Listed

/-! ## Groups -/

/-- An entry with the tokens that write it. -/
structure WrittenEntry where
  entry : Entry
  tokens : List Token
  writes : Entry.Writes tokens entry

/-- The tokens of entries with commas between them. There may be one more comma behind the last. -/
def tokensOf (comma : Bool) : List WrittenEntry → List Token
  | [] => []
  | [last] => if comma then last.tokens ++ [.mark ',' false] else last.tokens
  | first :: rest => first.tokens ++ .mark ',' false :: tokensOf comma rest

/-- One attribute of a field: it holds some of the listed entries, or it is of another kind. -/
inductive Group where
  | orm (written : List WrittenEntry) (comma : Bool)
  | other (a : Attribute) (foreign : a.path ≠ "orm")

namespace Group

/-- The attribute of a group. -/
def toAttribute : Group → Attribute
  | orm written comma => ⟨"orm", .list (tokensOf comma written)⟩
  | other a _ => a

/-- The entries in the attribute. -/
def entries : Group → List Entry
  | orm written _ => written.map (·.entry)
  | other _ _ => []

end Group

/-- A field whose list of entries is cut into groups. -/
structure GroupedField where
  name : String
  groups : List Group

namespace GroupedField

/-- The field as it is declared. -/
def field (f : GroupedField) : Field :=
  ⟨f.name, f.groups.map (·.toAttribute)⟩

/-- What is listed for the field, however it is cut. -/
def listed (f : GroupedField) : Listed :=
  ⟨f.name, f.groups.flatMap (·.entries)⟩

end GroupedField

/-! ## What a list says -/

namespace FieldAttr

/-- What entries say: the first unknown word is refused, and if there is none they say what their
arguments say together. -/
def verdict (entries : List Entry) : Except DeriveError FieldAttr :=
  match entries.findSome? Entry.unknown? with
  | some w => .error w.refusal
  | Option.none => .ok (ofArguments (entries.filterMap Entry.argument?))

/-- What two lists say one behind the other is what they say each, the second one last. -/
theorem verdict_append (as bs : List Entry) :
    verdict (as ++ bs) = (verdict as).bind fun said => (verdict bs).map said.merge := by
  unfold verdict
  rw [List.findSome?_append, List.filterMap_append]
  cases as.findSome? Entry.unknown? with
  | some w => rfl
  | none =>
    cases bs.findSome? Entry.unknown? with
    | some w => rfl
    | none => simp only [Option.none_or, Except.bind, Except.map, merge_ofArguments]

/-! ## Within an attribute -/

theorem ofTokens_of_error {t : Token} {rest : List Token} {e : DeriveError}
    (h : argument (t :: rest) = .error e) : ofTokens (t :: rest) = .error e := by
  rw [ofTokens]
  split <;> simp_all

/-- An unknown word at the front is refused, whatever follows it. -/
theorem ofTokens_of_unknown (w : UnknownWord) (behind : List Token) :
    ofTokens (.ident w.word :: behind) = .error w.refusal := by
  apply ofTokens_of_error
  have hunknown := w.unknown
  simp only [List.mem_cons, List.not_mem_nil, or_false, not_or] at hunknown
  obtain ⟨hid, hskip, hcolumn⟩ := hunknown
  -- A keyword is no name at all; another word is a name, but none of the three.
  unfold argument UnknownWord.refusal
  cases hname : isName w.word <;> simp [hname, hid, hskip, hcolumn]

/-- An entry with a comma behind it comes before what follows the comma. -/
theorem ofTokens_entry_comma (first : WrittenEntry) (rest : List Token) :
    ofTokens (first.tokens ++ .mark ',' false :: rest) =
      (verdict [first.entry]).bind fun said => (ofTokens rest).map said.merge := by
  obtain ⟨entry, tokens, hwrites⟩ := first
  cases hwrites with
  | argument hwrites => exact ofTokens_of_comma (argument_of_writes hwrites _)
  | unknown w behind => exact ofTokens_of_unknown w _

/-- An entry alone. -/
theorem ofTokens_entry (last : WrittenEntry) : ofTokens last.tokens = verdict [last.entry] := by
  obtain ⟨entry, tokens, hwrites⟩ := last
  cases hwrites with
  | argument hwrites =>
    have hargument := argument_of_writes hwrites []
    rw [List.append_nil] at hargument
    exact ofTokens_of_last hargument
  | unknown w behind => exact ofTokens_of_unknown w behind

/-- An attribute says what its entries say, with or without a comma behind the last one. -/
theorem ofTokens_tokensOf (comma : Bool) (written : List WrittenEntry) :
    ofTokens (tokensOf comma written) = verdict (written.map (·.entry)) := by
  have hnothing : ofTokens [] = verdict [] := by
    rw [ofTokens]
    rfl
  fun_induction tokensOf comma written with
  | case1 => exact hnothing
  | case2 last hcomma =>
    -- Nothing follows the last comma, and an empty list says nothing.
    rw [ofTokens_entry_comma, hnothing, ← verdict_append]
    rfl
  | case3 last hcomma => exact ofTokens_entry last
  -- The first entry says something, and the rest after the comma says what comes last.
  | case4 first rest hrest ih =>
    rw [ofTokens_entry_comma, ih, ← verdict_append]
    rfl

/-! ## From attribute to attribute -/

/-- The attributes of a field say what is listed, however the list is cut. -/
theorem ofAttributes_groups (groups : List Group) :
    ofAttributes (groups.map (·.toAttribute)) = verdict (groups.flatMap (·.entries)) := by
  induction groups with
  | nil => rfl
  | cons g rest ih =>
    rw [List.map_cons, List.flatMap_cons, ofAttributes]
    cases g with
    -- An attribute of another kind says nothing.
    | other a foreign =>
      rw [Group.toAttribute, ormArguments_of_ne foreign, ih]
      rfl
    | orm written comma =>
      rw [Group.toAttribute, ormArguments_of_list rfl rfl, Group.entries, verdict_append, ih]
      simp only [Except.bind, ofTokens_tokensOf]
      cases verdict (written.map (·.entry)) <;> rfl

end FieldAttr

/-! ## Fields and declarations -/

namespace GroupedField

theorem ofAttributes_field (f : GroupedField) :
    FieldAttr.ofAttributes f.field.attributes = FieldAttr.verdict f.listed.entries :=
  FieldAttr.ofAttributes_groups f.groups

/-- A field with an unknown word is refused for the first one. -/
theorem resolve_of_unknown {f : GroupedField} {w : UnknownWord}
    (h : f.listed.entries.findSome? Entry.unknown? = some w) :
    f.field.resolve = .error w.refusal := by
  rw [Field.resolve, ofAttributes_field, FieldAttr.verdict, h]
  rfl

/-- A field without unknown words is resolved as listed. -/
theorem resolve_of_known {f : GroupedField}
    (h : f.listed.entries.findSome? Entry.unknown? = none) :
    f.field.resolve = .ok f.listed.resolved := by
  rw [Field.resolve, ofAttributes_field, FieldAttr.verdict, h]
  rfl

/-- Fields are resolved as listed, or the first unknown word is refused. -/
theorem resolveFields_grouped (fs : List GroupedField) :
    resolveFields (fs.map (·.field)) =
      match Listed.unknown? (fs.map (·.listed)) with
      | some w => .error w.refusal
      | none => .ok ((fs.map (·.listed)).map (·.resolved)) := by
  induction fs with
  | nil => rfl
  | cons f fs ih =>
    rw [List.map_cons, List.map_cons, resolveFields, Listed.unknown?_cons]
    cases hfirst : f.listed.entries.findSome? Entry.unknown? with
    -- The first field is refused before the others are looked at.
    | some w => rw [resolve_of_unknown hfirst, Option.some_or]
    | none =>
      rw [resolve_of_known hfirst, ih, Option.none_or]
      cases Listed.unknown? (fs.map (·.listed)) <;> rfl

end GroupedField

/-- What is derived goes by the lists of the fields: the columns, the primary key and what a row is
read by. -/
structure DerivedAsListed (resolved : List ResolvedField) (ls : List Listed) : Prop where
  fields : resolved = ls.map (·.resolved)
  columns : columnsOf resolved = (ls.filter fun l => !l.isSkipped).map fun l => (l.name, l.column)
  keys : primaryKeysOf resolved =
    (ls.filter fun l => l.isKey && !l.isSkipped).map (·.column)
  reads : readsOf resolved =
    ls.map fun l => (l.name, if l.isSkipped then none else some l.column)

/-- Fields resolved as listed have the columns, the keys and the reads of their lists. -/
theorem derivedAsListed_resolved (ls : List Listed) :
    DerivedAsListed (ls.map (·.resolved)) ls where
  fields := rfl
  columns := by
    rw [columnsOf, storedFields, List.filter_map, List.map_map]
    rfl
  keys := by
    rw [primaryKeysOf, storedFields, List.filter_map, List.filter_map, List.map_map,
      List.filter_filter]
    rfl
  reads := by
    rw [readsOf, List.map_map]
    rfl

theorem Item.namedFields_of_named {item : Item} (named : item.shape = .named) (derive : String) :
    item.namedFields derive = resolveFields item.fields := by
  rw [namedFields, named]

/-- What is derived for a struct whose fields list arguments does not depend on how the lists are
cut into attributes. The attributes of each field say what its list says: whether it belongs to the
primary key or is left out, if the word is there, and the last column. The first unknown word of the
struct is refused; without one the columns, the primary key and what a row is read by go by the
lists. So it all stays the same when the lists are cut in another way. -/
theorem derived_parts_ignore_grouping (item : Item) (fields : List GroupedField)
    (named : item.shape = .named) (grouped : item.fields = fields.map (·.field))
    (derive : String) :
    (∀ f ∈ fields, FieldAttr.ofAttributes f.field.attributes = FieldAttr.verdict f.listed.entries) ∧
    (∀ w, Listed.unknown? (fields.map (·.listed)) = some w →
      item.namedFields derive = .error w.refusal) ∧
    (Listed.unknown? (fields.map (·.listed)) = none →
      ∃ resolved, item.namedFields derive = .ok resolved ∧
        DerivedAsListed resolved (fields.map (·.listed))) ∧
    ∀ (other : Item) (regrouped : List GroupedField), other.shape = .named →
      other.fields = regrouped.map (·.field) →
      regrouped.map (·.listed) = fields.map (·.listed) →
      other.namedFields derive = item.namedFields derive := by
  rw [Item.namedFields_of_named named, grouped, GroupedField.resolveFields_grouped]
  refine ⟨?attributes, ?refused, ?derived, ?regrouped⟩
  case attributes => exact fun f _ => f.ofAttributes_field
  case refused =>
    intro w hunknown
    rw [hunknown]
  case derived =>
    intro hknown
    rw [hknown]
    exact ⟨_, rfl, derivedAsListed_resolved _⟩
  case regrouped =>
    intro other regrouped hother hfields hsame
    rw [Item.namedFields_of_named hother, hfields, GroupedField.resolveFields_grouped, hsame]

/-! A visit is found by its page, whose column is named twice. How long it took is not stored. -/

def WrittenEntry.id : WrittenEntry :=
  ⟨.argument .id, [.ident "id"], .argument .id⟩

def WrittenEntry.skip : WrittenEntry :=
  ⟨.argument .skip, [.ident "skip"], .argument .skip⟩

def WrittenEntry.column (source name : String) : WrittenEntry :=
  ⟨.argument (.column name), [.ident "column", .mark '=' false, .string source name false],
    .argument .column⟩

def WrittenEntry.unknown (w : UnknownWord) (behind : List Token) : WrittenEntry :=
  ⟨.unknown w, .ident w.word :: behind, .unknown w behind⟩

/-- The list for the page in three attributes, one of them empty, and with a comment. -/
def pageInPieces : GroupedField where
  name := "page"
  groups := [.orm [.column "\"p\"" "p", .id] true,
    .other ⟨"doc", .value [.string "\"The page.\"" "The page." false]⟩ (by decide),
    .orm [] false, .orm [.column "r\"path\"" "path"] false]

/-- The same list in one attribute. -/
def pageAtOnce : GroupedField where
  name := "page"
  groups := [.orm [.column "\"p\"" "p", .id, .column "\"path\"" "path"] false]

def took : GroupedField where
  name := "took"
  groups := [.orm [.skip] true]

/-- The duration, but `index` and `key` are no arguments. -/
def tookIndexed : GroupedField where
  name := "took"
  groups := [.orm [.skip] true,
    .orm [.unknown ⟨"index", by decide⟩ [.mark '=' false, .literal "1"],
      .unknown ⟨"key", by decide⟩ []] false]

def visit (fields : List GroupedField) : Item where
  shape := .named
  name := "Visit"
  parameters := []
  attributes := []
  fields := fields.map (·.field)

theorem visit_is_derived_from_pieces_and_refused_by_its_index :
    (visit [pageInPieces, took]).namedFields "Entity" =
      .ok [⟨"page", "path", true, false⟩, ⟨"took", "took", false, true⟩] ∧
    (visit [pageAtOnce, took]).namedFields "Entity" =
      (visit [pageInPieces, took]).namedFields "Entity" ∧
    (visit [pageInPieces, tookIndexed]).namedFields "Entity" =
      .error (.unknownFieldAttribute "index") := by
  obtain ⟨-, -, hderived, hregrouped⟩ := derived_parts_ignore_grouping
    (visit [pageInPieces, took]) [pageInPieces, took] rfl rfl "Entity"
  obtain ⟨-, hrefused, -, -⟩ := derived_parts_ignore_grouping
    (visit [pageInPieces, tookIndexed]) [pageInPieces, tookIndexed] rfl rfl "Entity"
  have hatOnce := hregrouped (visit [pageAtOnce, took]) [pageAtOnce, took] rfl rfl rfl
  refine ⟨?pieces, hatOnce, hrefused ⟨"index", by decide⟩ rfl⟩
  obtain ⟨resolved, hresolved, hlisted⟩ := hderived rfl
  rw [hresolved, hlisted.fields]
  rfl

end BoundSql.Declaration
