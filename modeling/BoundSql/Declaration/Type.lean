import BoundSql.Declaration.Phrase

/-!
# Types

The rules for types, the bounds of types, generic arguments and generic parameters.
-/

namespace BoundSql.Declaration.Form

open Rule

/-! ## Bounds -/

/-- Bounds with plus signs between them up to some end, of which there may be none. -/
def boundsTo (stop bound : Form) : Form :=
  choice stop nothing
    (all [bound, many (both (marks "+") (lacking stop)) (both (marks "+") bound),
      optional (marks "+")])

/-- Generic parameters that a bound or a function type holds for. -/
def binder : Form :=
  let parameter := both (phrase .parameter) (either (marks ",") (ahead (marks ">")))
  all [word "for", marks "<", many (lacking (marks ">")) parameter, marks ">"]

/-- What a function type or a trait for functions returns. -/
def returns : Form :=
  ifAhead (marks "->") (both (marks "->") typeBut)

/-- The mark of a trait with constant methods. -/
def constantMark : Form :=
  oneOf [word "const", brackets (word "const")]

/-- Whether a path ends with generic arguments, of which there is at least one. -/
def endsWithArguments (path : List Token) : Bool :=
  match path.reverse with
  | last :: before :: _ => last.isMark '>' && !before.isMark '<'
  | _ => false

/-- A path without the empty angle brackets at its end. -/
def withoutEmptyAngles (path : List Token) : List Token :=
  match path.reverse with
  | .mark '>' _ :: .mark '<' _ :: .mark ':' _ :: .mark ':' _ :: rest => rest.reverse
  | .mark '>' _ :: .mark '<' _ :: rest => rest.reverse
  | _ => path

/-- The path of a trait. A path without generic arguments may have those of a function. -/
def traitPath : Form :=
  let start := both (optional (marks "::")) anyParentheses
  let functionArguments :=
    all [silent (optional (marks "::")), parentheses (list type), returns]
  given (path anglesStart) fun found =>
    if endsWithArguments found then written found
    else choice start (both (written (withoutEmptyAngles found)) functionArguments) (written found)

/-- A trait without brackets around it, which may be marked as constant if `constant` says so. A
question mark stands only where no parameters are bound. -/
def plainTrait (constant : Bool) : Form :=
  let mark := if constant then ifAhead (either (word "const") anyBrackets) constantMark else nothing
  choice (word "for") (all [binder, mark, traitPath]) (all [mark, optional (marks "?"), traitPath])

/-- A trait. -/
def traitBound (constant : Bool) : Form :=
  choice anyParentheses (parentheses (plainTrait constant)) (plainTrait constant)

/-- A lifetime or a trait. -/
def bound (constant : Bool) : Form :=
  choice lifetime lifetime (traitBound constant)

/-- What bounds may start with. -/
def boundStart : Form :=
  oneOf [token .anyWord, marks "::", marks "?", lifetime, anyParentheses]

/-- More bounds after the first. -/
def moreBounds (start bound : Form) : Form :=
  both (many (both (marks "+") start) (both (marks "+") bound)) (optional (marks "+"))

/-- The parameters that an opaque type captures. -/
def capture : Form :=
  all [word "use", marks "<", arguments (oneOf [lifetime, name, word "Self"]), marks ">"]

/-- The bounds of a trait object, of which at least one is a trait. Without sums there is only
one. -/
def objectBounds (sums : Bool) : Form :=
  if sums then
    all [many lifetime (both lifetime (marks "+")), traitBound false,
      moreBounds boundStart (bound false)]
  else traitBound false

/-- The bounds of an opaque type, of which at least one is a trait. Without sums there is only
one. -/
def opaqueBounds (sums : Bool) : Form :=
  let other := choice lifetime lifetime capture
  let otherStart := either lifetime (word "use")
  if sums then
    all [many otherStart (both other (marks "+")), traitBound true,
      moreBounds (either boundStart anyBrackets) (choice otherStart other (traitBound true))]
  else traitBound true

/-! ## Arguments -/

/-- The start of a constant argument that is no path. -/
def constantStart : Form :=
  either signedLiteral anyBraces

/-- A constant argument. -/
def constant : Form :=
  select [(signedLiteral, signedLiteral), (name, name)] attributedBlock

/-- The value of an associated type or constant. -/
def associated : Form :=
  both (marks "=") (choice constantStart constant type)

/-- A generic argument that starts with a name: an associated item with its value or its bounds, or
a type. -/
def namedArgument : Form :=
  let stop := either (marks ",") (marks ">")
  both (segment anglesStart)
    (select [(marks "=", associated), (colon, both colon (boundsTo stop (bound true)))]
      (both (segments anglesStart) (moreBounds boundStart (bound false))))

/-- A generic argument. -/
def argument : Form :=
  select [(both lifetime (lacking (marks "+")), lifetime), (constantStart, constant),
    (both (lacking invocationStart) pathWord, namedArgument)] type

/-- Generic arguments in angle brackets. -/
def angles : Form :=
  all [optional (marks "::"), marks "<", arguments argument, marks ">"]

/-! ## Types -/

/-- The start of a path as a type. -/
def typePathStart : Form :=
  oneOf [pathWord, marks "::", marks "<"]

/-- The type in parentheses that may be the first of several bounds: a path, or one trait. -/
def bracketedBound : Form :=
  let oneTrait := both (ahead (marks "?")) (plainTrait false)
  select [
    (parenthesesFrom (word "for"), parentheses (both binder (path anglesStart))),
    (parenthesesFrom anyParentheses, parentheses (parentheses oneTrait))]
    (parentheses (all [lacking (either (marks "<") invocationStart), path anglesStart]))

/-- A type in parentheses, a tuple, or bounds of which the first stands in parentheses. -/
def bracketedType (sums : Bool) : Form :=
  let more := many (marks "+") (both (marks "+") (bound false))
  let summed := both (ahead (both anyParentheses (marks "+"))) bracketedBound
  select [
    (parenthesesFrom lifetime, parentheses (objectBounds true)),
    (parenthesesFrom (marks "?"), both (parentheses (plainTrait false)) more),
    (if sums then summed else failure, both bracketedBound more)]
    (parentheses (list type))

/-- The start of a function type. -/
def functionStart : Form :=
  oneOfWords ["unsafe", "extern", "fn"]

/-- The convention by which a function is called. -/
def callingConvention : Form :=
  both (word "extern") (optional (token .text))

/-- The name of an argument of a function type. -/
def argumentName : Form :=
  both nameOrBlank colon

/-- An argument of a function type; only the first one may be a receiver. -/
def functionTypeArgument (first : Bool) : Form :=
  let mutableSelf := both (word "mut") (word "self")
  let receiverName := both (word "self") colon
  let usual := both (ifAhead argumentName argumentName) type
  if first then
    select [
      (both (word "mut") receiverName, all [word "mut", receiverName, type]),
      (mutableSelf, mutableSelf), (receiverName, both receiverName type),
      (both argumentName mutableSelf, both argumentName mutableSelf)] usual
  else usual

/-- An argument of a function type with its attributes, or any number of them at the end. -/
def functionTypeInput (first : Bool) : Form :=
  let anyMore := both (ifAhead argumentName argumentName) (marks "...")
  both attributes (choice anyMore (all [anyMore, optional (marks ","), finish])
    (both (functionTypeArgument first) (separator ",")))

/-- A function type. -/
def functionType : Form :=
  let inputs := both (ifAhead (lacking finish) (functionTypeInput true))
    (toFinish (functionTypeInput false))
  all [optional (word "unsafe"), ifAhead (word "extern") callingConvention, word "fn",
    parentheses inputs, returns]

/-- A path as a type, which may be the first of several bounds. -/
def pathType (sums : Bool) : Form :=
  let more := if sums then moreBounds boundStart (bound false) else nothing
  select [(marks "<", qualifiedPath anglesStart), (invocationStart, invocation)]
    (both (path anglesStart) more)

/-- A slice or an array. -/
def sequenceType : Form :=
  brackets (both type (ifAhead (marks ";") (both (marks ";") expression)))

/-- A type. -/
def typeRule (sums : Bool) : Form :=
  select [
    (all [binder, ahead pathWord, invocationStart], both (silent binder) invocation),
    (word "for", both binder
      (select [(functionStart, functionType), (pathWord, pathType sums)] failure)),
    (anyParentheses, bracketedType sums),
    (functionStart, functionType),
    (typePathStart, pathType sums),
    (word "dyn", all [word "dyn", optional (marks "*"), objectBounds sums]),
    (anyBrackets, sequenceType),
    (marks "*", all [marks "*", either (word "const") (word "mut"), typeBut]),
    (marks "&", all [marks "&", optional lifetime, optional (word "mut"), typeBut]),
    (marks "!", marks "!"),
    (word "impl", both (word "impl") (opaqueBounds sums)),
    (word "_", word "_")]
    (both (ahead lifetime) (objectBounds true))

/-! ## Parameters -/

/-- Bounds after a colon. A colon without bounds is left out. -/
def writtenBounds (stop bound : Form) : Form :=
  ifAhead (marks ":")
    (choice (both (marks ":") stop) (silent (marks ":")) (both (marks ":") (boundsTo stop bound)))

/-- A lifetime as a parameter, which may be bounded by others. -/
def lifetimeParameter : Form :=
  both lifetime (writtenBounds (either (marks ",") (marks ">")) lifetime)

/-- A type as a parameter, with its bounds and its default. -/
def typeParameter : Form :=
  let stop := oneOf [marks ",", marks ">", marks "="]
  all [name, writtenBounds stop (bound true), ifAhead (marks "=") (both (marks "=") type)]

/-- A constant as a parameter, with its default. -/
def constantParameter : Form :=
  all [word "const", name, marks ":", type, ifAhead (marks "=") (both (marks "=") constant)]

/-- A generic parameter with its attributes. -/
def parameterRule : Form :=
  both attributes (select [(lifetime, lifetimeParameter), (name, typeParameter)] constantParameter)

/-- A generic parameter of a definition, of which an underscore may take the place. -/
def definitionParameter : Form :=
  let blank := both attributes (word "_")
  choice blank blank parameterRule

/-- The start of generic parameters, as opposed to that of a path. -/
def parametersStart : Form :=
  let after := oneOf [marks ">", marks ",", colon, marks "="]
  both (marks "<")
    (oneOf [marks ">", marks "#", word "const", both (either lifetime name) after])

/-- The end of conditions on parameters. -/
def requirementsEnd : Form :=
  oneOf [finish, anyBraces, marks ",", marks ";", colon, marks "="]

/-- A condition on a lifetime or a type. -/
def requirement : Form :=
  let stop := oneOf [finish, anyBraces, marks ",", marks ";", marks ":", marks "="]
  choice (both lifetime (marks ":"))
    (all [lifetime, marks ":", boundsTo stop lifetime])
    (all [ifAhead (word "for") binder, type, marks ":", boundsTo requirementsEnd (bound true)])

/-- Conditions with commas between them. A `where` without conditions is left out. -/
def requirements : Form :=
  choice (both (word "where") requirementsEnd) (silent (word "where"))
    (all [word "where", lacking parametersStart, requirement,
      many (both (marks ",") (lacking requirementsEnd)) (both (marks ",") requirement),
      optional (marks ",")])

end BoundSql.Declaration.Form
