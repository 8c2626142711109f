import BoundSql.Declaration.Expression

/-!
# Definitions

The rules for the definitions that may stand in a block: functions, constants, types, traits,
implementations, imports and modules, and those inside traits, implementations and foreign blocks.
-/

namespace BoundSql.Declaration.Form

open Rule

/-! ## Parts of definitions -/

/-- Who may use what is defined. -/
def visibility : Form :=
  let nearby := parentheses (oneOfWords ["crate", "self", "super"])
  both (word "pub") (select [(nearby, nearby),
    (parenthesesFrom (word "in"), parentheses (both (word "in") plainPath))] nothing)

/-- A visibility, which may be left out. -/
def anyVisibility : Form :=
  ifAhead (word "pub") visibility

/-- Generic parameters of a definition. Brackets without parameters are left out. -/
def parameters : Form :=
  let empty := both (marks "<") (marks ">")
  select [(empty, silent empty),
    (marks "<", all [marks "<", arguments definitionParameter, marks ">"])] nothing

/-- Conditions on parameters, which may be left out. -/
def conditions : Form :=
  ifAhead (word "where") requirements

/-- A type after a colon. -/
def typed : Form :=
  both (marks ":") type

/-- A value after an equals sign. -/
def valued : Form :=
  both (marks "=") expression

/-- Bounds of what is defined, up to some end. -/
def definedBounds (stop : Form) : Form :=
  writtenBounds stop (bound true)

/-- Definitions in braces, each with its attributes. -/
def body (definition : Form) : Form :=
  braces (both innerAttributes (toFinish (both attributes definition)))

/-- A macro invocation in place of definitions; without braces it needs a semicolon. `named` says
whether a name may stand before the group. -/
def invokedDefinition (named : Bool) : Form :=
  let word := either name (word "try")
  let start := oneOf [name, marks "::", oneOfWords ["self", "super", "crate"]]
  all [ahead start, plainPath, marks "!", if named then optional word else nothing,
    choice anyBraces anyBraces (both anyGroup (marks ";"))]

/-! ## Functions -/

/-- What comes before the name of a function; `safe` says whether it may be marked as safe. -/
def functionHead (safe : Bool) : Form :=
  let safety := if safe then either (word "safe") (word "unsafe") else word "unsafe"
  all [optional (word "const"), optional (word "async"), optional safety,
    ifAhead (word "extern") callingConvention, word "fn"]

/-- The receiver of a method without its type. -/
def receiver : Form :=
  choice (marks "&") (all [marks "&", optional lifetime, optional (word "mut"), word "self"])
    (both (optional (word "mut")) (word "self"))

/-- The start of a receiver, as opposed to that of a pattern. -/
def receiverStart : Form :=
  choice (marks "&") receiver
    (both receiver (lacking (either (marks "::") (both (marks ":") (marks "...")))))

/-- A receiver with its type, which a reference does not have. -/
def typedReceiver : Form :=
  choice (marks "&") receiver (both receiver (ifAhead (marks ":") typed))

/-- An argument of a function; only the first one may be a receiver. Any number of arguments may
stand at the end. A generic type without a pattern gets an underscore. -/
def functionInput (first : Bool) : Form :=
  let last := all [marks "...", optional (marks ","), finish]
  both attributes (select [
    (marks "...", last),
    (receiverStart, if first then both typedReceiver (separator ",") else failure),
    (both name (marks "<"),
      all [written [.ident "_", .mark ':' false], type, separator ","])]
    (all [singlePattern, marks ":", choice (marks "...") last (both type (separator ","))]))

/-- A function up to its body. -/
def signature (safe : Bool) : Form :=
  let inputs := both (ifAhead (lacking finish) (functionInput true))
    (toFinish (functionInput false))
  all [functionHead safe, name, parameters, parentheses inputs,
    ifAhead (marks "->") (both (marks "->") type), conditions]

/-- A function; a semicolon may stand in place of its body. -/
def function (safe : Bool) : Form :=
  both (signature safe) (either (marks ";") attributedBlock)

/-! ## Constants and variables -/

/-- A constant. -/
def constantDefinition : Form :=
  all [word "const", nameOrBlank, parameters, typed, ifAhead (marks "=") valued, conditions,
    marks ";"]

/-- A variable with a type or a value. -/
def staticDefinition : Form :=
  all [word "static", optional (word "mut"), name,
    choice (marks "=") valued (both typed (ifAhead (lacking (marks ";")) valued)), marks ";"]

/-! ## Types -/

/-- A name for a type, with the places where conditions may stand. -/
def typeDefinition (before after : Bool) : Form :=
  let stop := oneOf [word "where", marks "=", marks ";"]
  let value := ifAhead (marks "=") (both (marks "=") type)
  let rest :=
    if before && after then choice (word "where") (both conditions value) (both value conditions)
    else if before then both conditions value
    else both value conditions
  all [word "type", name, parameters, definedBounds stop, rest, marks ";"]

/-- A named field. A field without a name may have fields of its own. -/
def namedField : Form :=
  let inner := either (word "struct") (both (word "union") (ahead anyBraces))
  all [attributes, anyVisibility,
    choice (word "_")
      (all [word "_", marks ":", choice inner (both (token .anyWord) (phrase .fields)) type])
      (both name typed)]

/-- Named fields in braces. -/
def fieldsRule : Form :=
  braces (list namedField)

/-- Fields without names in parentheses. -/
def tupleFields : Form :=
  parentheses (list (all [attributes, anyVisibility, type]))

/-- A struct. -/
def structDefinition : Form :=
  all [word "struct", name, parameters,
    choice anyParentheses (all [tupleFields, conditions, marks ";"])
      (both conditions (choice anyBraces (phrase .fields) (marks ";")))]

/-- A variant of an enumeration. Its visibility means nothing. -/
def variant : Form :=
  all [attributes, silent anyVisibility, name,
    select [(anyBraces, phrase .fields), (anyParentheses, tupleFields)] nothing,
    ifAhead (marks "=") valued]

/-- An enumeration. -/
def enumDefinition : Form :=
  all [word "enum", name, parameters, conditions, braces (list variant)]

/-- A union. -/
def unionDefinition : Form :=
  all [word "union", name, parameters, conditions, phrase .fields]

/-! ## Traits and implementations -/

/-- A function, a constant or a type inside another definition. -/
def member (constant typeForm other : Form) : Form :=
  select [(functionHead false, function false), (word "const", constant), (word "type", typeForm)]
    other

/-- A definition inside a trait. -/
def traitMember : Form :=
  let ordinary := member constantDefinition (typeDefinition false true)
  choice (either (word "pub") (word "default"))
    (all [anyVisibility, optional (word "default"), ordinary failure])
    (ordinary (invokedDefinition false))

/-- A trait. -/
def traitDefinition : Form :=
  all [optional (word "unsafe"), optional (word "auto"), word "trait", name, parameters,
    definedBounds (either (word "where") anyBraces), conditions, body traitMember]

/-- Another name for some bounds. -/
def traitAlias : Form :=
  let stop := either (word "where") (marks ";")
  all [word "trait", name, parameters, marks "=", boundsTo stop (bound false), conditions,
    marks ";"]

/-- The start of a default definition, as opposed to that of an invocation. -/
def defaultStart : Form :=
  both (word "default") (lacking (marks "!"))

/-- A definition inside an implementation. -/
def implMember : Form :=
  let ordinary := member constantDefinition (typeDefinition false true)
  let withDefault (other : Form) : Form :=
    choice defaultStart (both (word "default") (ordinary failure)) other
  choice (word "pub") (both visibility (withDefault (ordinary failure)))
    (withDefault (ordinary (invokedDefinition false)))

/-- An implementation. A negative one is that of a trait. -/
def implDefinition : Form :=
  let generics := all [marks "<", arguments definitionParameter, marks ">"]
  let empty := both (marks "<") (marks ">")
  let traitMark := either (word "const") (both (marks "?") (word "const"))
  all [optional (word "default"), optional (word "unsafe"), word "impl",
    select [(empty, silent empty), (parametersStart, generics)] nothing, optional traitMark,
    choice (both (marks "!") (lacking anyBraces)) (all [marks "!", type, word "for", type])
      (both type (ifAhead (word "for") (both (word "for") type))),
    conditions, body implMember]

/-! ## Imports and modules -/

/-- The paths that a `use` brings in. -/
def importsRule (rooted : Bool) : Form :=
  let renamed := both (word "as") nameOrBlank
  let inner := phrase (.imports false)
  let each := if rooted then choice (marks "::") (both (marks "::") inner) (phrase (.imports true))
    else inner
  select [(marks "*", marks "*"), (anyBraces, braces (list each))]
    (both (oneOf [name, oneOfWords ["self", "super", "crate", "try"]])
      (select [(marks "::", both (marks "::") inner), (word "as", renamed)] nothing))

/-- An import. -/
def useDefinition : Form :=
  all [word "use",
    choice (marks "::") (both (marks "::") (phrase (.imports false))) (phrase (.imports true)),
    marks ";"]

/-- An import of a whole library. -/
def externCrate : Form :=
  all [word "extern", word "crate", either (word "self") name,
    ifAhead (word "as") (both (word "as") nameOrBlank), marks ";"]

/-- A definition inside a foreign block. -/
def foreignMember : Form :=
  let safety := either (word "unsafe") (word "safe")
  let static := all [optional safety, word "static", optional (word "mut"), name, typed,
    ifAhead (marks "=") valued, marks ";"]
  let ordinary (other : Form) : Form := select [
    (functionHead true, function true),
    (both (optional safety) (word "static"), static),
    (word "type", typeDefinition true true)] other
  choice (word "pub") (both visibility (ordinary failure)) (ordinary (invokedDefinition false))

/-- A foreign block. -/
def foreignBlock : Form :=
  all [optional (word "unsafe"), callingConvention, body foreignMember]

/-- A module. -/
def moduleDefinition : Form :=
  all [optional (word "unsafe"), word "mod", either name (word "try"),
    choice (marks ";") (marks ";") (body (phrase .definition))]

/-- A macro with its arguments and its expansion. -/
def macroDefinition : Form :=
  all [word "macro", name, optional anyParentheses, anyBraces]

/-! ## Definitions -/

/-- A definition after its visibility; `shown` says whether there is one. -/
def definitionAfter (shown : Bool) : Form :=
  let hidden (r : Form) : Form := if shown then failure else r
  let autoTrait := both (word "auto") (word "trait")
  let isUnsafe (start : Form) : Form := both (word "unsafe") start
  select [
    (functionHead false, function false),
    (both (word "extern") (word "crate"), externCrate),
    (word "extern", hidden foreignBlock),
    (word "use", useDefinition),
    (word "static", staticDefinition),
    (word "const", constantDefinition),
    (isUnsafe (either (word "trait") autoTrait), traitDefinition),
    (isUnsafe (word "impl"), implDefinition),
    (isUnsafe (word "extern"), hidden foreignBlock),
    (either (isUnsafe (word "mod")) (word "mod"), moduleDefinition),
    (word "type", typeDefinition true false),
    (word "struct", structDefinition),
    (word "enum", enumDefinition),
    (both (word "union") name, unionDefinition),
    (both (word "trait") (all [name, parameters, marks "="]), traitAlias),
    (either (word "trait") autoTrait, traitDefinition),
    (either (word "impl") defaultStart, implDefinition),
    (word "macro", macroDefinition)]
    (hidden (invokedDefinition true))

/-- A definition without its attributes. -/
def definitionRule : Form :=
  choice (word "pub") (both visibility (definitionAfter true)) (definitionAfter false)

end BoundSql.Declaration.Form
