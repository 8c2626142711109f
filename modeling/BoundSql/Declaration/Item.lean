import BoundSql.Declaration.Attribute
import BoundSql.Declaration.Lexer

/-!
# Declarations

A declaration has a shape, a name, generic parameters, attributes, and fields with attributes of
their own. All of its source text is read before anything is derived from it.
-/

namespace BoundSql.Declaration

/-- The forms of declarations. -/
inductive Shape where
  /-- A struct with named fields. -/
  | named
  | tuple
  | unit
  | enumeration
  | union
deriving DecidableEq, Repr

/-- A field with its parts as source text. -/
structure FieldSource where
  name : String
  type : String
  attributes : List String

/-- A declaration with its parts as source text. -/
structure ItemSource where
  shape : Shape
  name : String
  generics : String
  attributes : List String
  fields : List FieldSource

/-- A field. -/
structure Field where
  name : String
  attributes : List Attribute

/-- A declaration. -/
structure Item where
  shape : Shape
  name : String
  /-- The generic parameters, each as the argument by which it is meant. -/
  parameters : List Argument
  attributes : List Attribute
  fields : List Field

/-! ## Generic parameters -/

/-- The name of a parameter: a lifetime, a constant or a type. -/
def parameterName : List Token → List Token
  | .ident "const" :: t :: _ => [t]
  | t :: _ => [t]
  | [] => []

/-- What may follow the closing angle bracket of the parameters: conditions on them, but those of a
tuple follow its fields. -/
def areConditions (shape : Shape) (tokens : List Token) : Bool :=
  tokens.isEmpty || (shape != .tuple && areRequirements tokens)

/-- The parameters in a list of generics. -/
def parametersOf (shape : Shape) (source : String) : Except DeriveError (List Argument) :=
  match tokens? source with
  | some (.mark '<' _ :: tokens) =>
    match parameters? tokens with
    | some (parameters, .mark '>' _ :: rest) =>
      if areConditions shape rest then
        .ok (parameters.map fun p => ⟨parameterName (withoutAttributes p.tokens), p.comma⟩)
      else .error .malformed
    | _ => .error .malformed
  | some tokens => if areConditions shape tokens then .ok [] else .error .malformed
  | none => .error .malformed

/-! ## Reading -/

/-- The attributes that several source texts write. -/
def attributesOfAll : List String → Except DeriveError (List Attribute)
  | [] => .ok []
  | source :: rest => do return (← attributesOf (tokens? source)) ++ (← attributesOfAll rest)

/-- The attributes in front of a declaration. A byte order mark may come before them all. -/
def leadingAttributes : List String → Except DeriveError (List Attribute)
  | [] => .ok []
  | source :: rest => do return (← attributesOf (tokensOfText? source)) ++ (← attributesOfAll rest)

/-- Whether a text is a name. -/
def isNameText (source : String) : Bool :=
  match tokens? source with
  | some [.ident word] => isName word
  | _ => false

/-- Whether the parts of a field of a struct with named fields fit together. An underscore may stand
in place of its name. -/
def FieldSource.isNamed (f : FieldSource) : Bool :=
  match tokens? f.name, tokens? f.type with
  | some [.ident word], some type =>
    (isName word || word = "_") && isNamedField (.ident word :: .mark ':' false :: type)
  | _, _ => false

/-- The declaration that its source text writes. -/
def Item.ofSource (source : ItemSource) : Except DeriveError Item := do
  let attributes ← leadingAttributes source.attributes
  let parameters ← parametersOf source.shape source.generics
  let fields ← source.fields.mapM fun f => do
    return (⟨f.name, ← attributesOfAll f.attributes⟩ : Field)
  if !isNameText source.name || (source.shape = .named && !source.fields.all (·.isNamed)) then
    .error .malformed
  else return ⟨source.shape, source.name, parameters, attributes, fields⟩

/-- The declared type with its parameters. -/
def Item.selfType (item : Item) : String :=
  if item.parameters.isEmpty then item.name
  else item.name ++ "<" ++ textOf (argumentTokens item.parameters) ++ ">"

end BoundSql.Declaration
