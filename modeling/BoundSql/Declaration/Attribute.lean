import BoundSql.Declaration.Language

/-!
# Attributes of declarations

The attributes `#[orm(…)]` of a field say whether it belongs to the primary key, whether it is
left out, and which column it is stored in; those of a whole declaration name its table and the
type of its entities. Several attributes count like one with all their arguments.
-/

namespace BoundSql.Declaration

/-- Why nothing can be derived from a declaration. -/
inductive DeriveError where
  /-- The source text is malformed. -/
  | malformed
  | unknownFieldAttribute (word : String)
  | namedFieldsOnly (derive : String)
  | structsOnly (derive : String)
  | unitStructsOnly
  | stringExpected
  | unknownAttribute
  | noTable
  | noEntityType
deriving DecidableEq, Repr

/-- The wording of an error; malformed text has none. -/
def DeriveError.message? : DeriveError → Option String
  | malformed => none
  | unknownFieldAttribute word => some ("unknown orm field attribute `" ++ word ++ "`")
  | namedFieldsOnly derive =>
    some (derive ++ " can only be derived for structs with named fields")
  | structsOnly derive => some (derive ++ " can only be derived for structs")
  | unitStructsOnly => some "Model can only be derived for unit structs"
  | stringExpected => some "expected a string literal"
  | unknownAttribute => some "unknown orm attribute"
  | noTable => some "Model needs a table name: add #[orm(table = \"table_name\")]"
  | noEntityType => some "Model needs an entity type: add #[orm(entity = \"EntityType\")]"

/-! ## Attributes -/

/-- What stands after the path of an attribute. -/
inductive Arguments where
  | none
  | list (tokens : List Token)
  | value (tokens : List Token)

/-- An attribute: a path with arguments. -/
structure Attribute where
  path : String
  arguments : Arguments

/-- The attribute inside the brackets after a number sign. -/
def Attribute.ofTokens? (tokens : List Token) : Option Attribute :=
  if isAttribution tokens then
    (attributePath? tokens).map fun (path, rest) =>
      match rest with
      | [] => ⟨path, .none⟩
      | .group _ content :: _ => ⟨path, .list content⟩
      | _ :: value => ⟨path, .value value⟩
  else none

/-- Attributes one after another. -/
def attributesOfTokens? : List Token → Option (List Attribute)
  | [] => some []
  | .mark '#' _ :: .group .bracket tokens :: rest => do
    let first ← Attribute.ofTokens? tokens
    let others ← attributesOfTokens? rest
    some (first :: others)
  | _ => none

/-- The attributes that tokens write, if there are tokens. -/
def attributesOf (tokens : Option (List Token)) : Except DeriveError (List Attribute) :=
  match tokens.bind attributesOfTokens? with
  | some attributes => .ok attributes
  | none => .error .malformed

/-- The arguments of an attribute called `orm`; none for any other attribute. -/
def Attribute.ormArguments (a : Attribute) : Option (Except DeriveError (List Token)) :=
  if a.path = "orm" then
    match a.arguments with
    | .list tokens => some (.ok tokens)
    | _ => some (.error .malformed)
  else none

/-! ## Fields -/

/-- What the attributes of a field say. -/
structure FieldAttr where
  isKey : Bool
  skip : Bool
  column : Option String
deriving DecidableEq, Repr

namespace FieldAttr

/-- Nothing said. -/
def none : FieldAttr := ⟨false, false, Option.none⟩

/-- Both said, the second one last. -/
def merge (a b : FieldAttr) : FieldAttr :=
  ⟨a.isKey || b.isKey, a.skip || b.skip, b.column.or a.column⟩

/-- One argument at the front of tokens, and the tokens after it. -/
def argument : List Token → Except DeriveError (FieldAttr × List Token)
  | .ident word :: rest =>
    if !isName word then .error .malformed
    else if word = "id" then .ok (⟨true, false, Option.none⟩, rest)
    else if word = "skip" then .ok (⟨false, true, Option.none⟩, rest)
    else if word = "column" then
      match rest with
      | .mark '=' _ :: .string _ value _ :: rest => .ok (⟨false, false, some value⟩, rest)
      | _ => .error .malformed
    else .error (.unknownFieldAttribute word)
  | _ => .error .malformed

/-- What follows an argument is not longer than what it was taken from. -/
theorem length_lt_of_argument {tokens rest : List Token} {a : FieldAttr}
    (h : argument tokens = .ok (a, rest)) : rest.length < tokens.length := by
  unfold argument at h
  grind

/-- Arguments with commas between them; one more comma may follow the last. -/
def ofTokens (tokens : List Token) : Except DeriveError FieldAttr :=
  match tokens with
  | [] => .ok none
  | t :: ts =>
    match h : argument (t :: ts) with
    | .error e => .error e
    | .ok (a, []) => .ok a
    | .ok (a, .mark ',' _ :: rest) =>
      have := length_lt_of_argument h
      (ofTokens rest).map a.merge
    | .ok _ => .error .malformed
termination_by tokens.length
decreasing_by simp_all; omega

/-- What all attributes of a field say together. -/
def ofAttributes : List Attribute → Except DeriveError FieldAttr
  | [] => .ok none
  | a :: rest =>
    match a.ormArguments with
    | Option.none => ofAttributes rest
    | some arguments =>
      match arguments.bind ofTokens with
      | .error e => .error e
      | .ok said => (ofAttributes rest).map said.merge

end FieldAttr

/-! ## Values -/

/-- The text of a string literal, and whether a suffix follows its quotes. -/
structure TextLiteral where
  text : String
  suffixed : Bool
deriving DecidableEq, Repr

/-- What the value of an argument is, as far as it matters. -/
inductive ValueForm where
  | string (s : TextLiteral)
  | other
deriving DecidableEq, Repr

/-- What an expression is. -/
def ValueForm.ofTokens : List Token → ValueForm
  | [.string _ text suffixed] => .string ⟨text, suffixed⟩
  | _ => .other

/-! ## Whole declarations -/

/-- What the attributes of a declaration say. -/
structure TableAttr where
  table : Option TextLiteral
  entity : Option TextLiteral
deriving DecidableEq, Repr

namespace TableAttr

/-- The pair of a key and a value at the front of tokens, and the tokens after it. -/
def pair? (tokens : List Token) : Option ((String × ValueForm) × List Token) :=
  match attributePath? tokens with
  | some (key, .mark '=' _ :: rest) =>
    (attributeValue? rest).map fun (value, left) => ((key, ValueForm.ofTokens value), left)
  | _ => none

/-- Pairs with commas between them; one more comma may follow the last. Each pair takes at least
one token. -/
def pairs? (tokens : List Token) : Option (List (String × ValueForm)) :=
  if tokens.isEmpty then some []
  else match pair? tokens with
    | some (last, []) => some [last]
    | some (first, .mark ',' _ :: rest) =>
      if rest.length < tokens.length then (pairs? rest).map (first :: ·) else none
    | _ => none
termination_by tokens.length

/-- What one pair adds. -/
def add (attr : TableAttr) : String × ValueForm → Except DeriveError TableAttr
  | (_, .other) => .error .stringExpected
  | (key, .string s) =>
    if key = "table" then .ok { attr with table := some s }
    else if key = "entity" then .ok { attr with entity := some s }
    else .error .unknownAttribute

/-- What one more attribute adds. -/
def addAttribute (attr : TableAttr) (a : Attribute) : Except DeriveError TableAttr :=
  match a.ormArguments with
  | none => .ok attr
  | some (.error e) => .error e
  | some (.ok tokens) =>
    match pairs? tokens with
    | none => .error .malformed
    | some pairs => pairs.foldlM add attr

/-- What all attributes of a declaration say together. -/
def ofAttributes (attributes : List Attribute) : Except DeriveError TableAttr :=
  attributes.foldlM addAttribute ⟨none, none⟩

end TableAttr

end BoundSql.Declaration
