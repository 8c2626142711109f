import BoundSql.Declaration.Statement

/-!
# The language of declarations

What each phrase consists of, and the readings of whole texts that declarations need: an attribute,
an expression, a named field, a path and generic parameters.
-/

namespace BoundSql.Declaration

/-- The rule for each phrase. -/
def grammar : Phrase → Form
  | .type sums => Form.typeRule sums
  | .angles => Form.angles
  | .parameter => Form.parameterRule
  | .pattern choice => Form.patternRule choice
  | .operation level structs => Form.operationRule level structs
  | .operand structs => Form.operandRule (Form.atom structs) structs
  | .operators left level structs => Form.operatorsRule left level structs
  | .blockLike => Form.blockLikeRule
  | .block inner => Form.blockRule inner
  | .attribution => Form.attribution
  | .fields => Form.fieldsRule
  | .definition => Form.definitionRule
  | .imports rooted => Form.importsRule rooted

/-! ## Readings -/

/-- The path at the front of the tokens of an attribute, and the tokens after it. -/
def attributePath? (tokens : List Token) : Option (String × List Token) :=
  (Form.attributePath.leading? grammar tokens).map fun (path, rest) => (textOf path, rest)

/-- Whether tokens are an attribute without its number sign and brackets. -/
def isAttribution (tokens : List Token) : Bool :=
  (Form.attribution.whole? grammar tokens).isSome

/-- The value at the front of tokens, after its equals sign, and the tokens after it. -/
def attributeValue? (tokens : List Token) : Option (List Token × List Token) :=
  Form.attributeValue.leading? grammar tokens

/-- Whether tokens are a named field without its attributes. -/
def isNamedField (tokens : List Token) : Bool :=
  (Form.namedField.whole? grammar tokens).isSome

/-- A path as it is written. -/
def path? (tokens : List Token) : Option (List Token) :=
  (Form.path Form.anglesStart).whole? grammar tokens

/-- Whether tokens are conditions on generic parameters. -/
def areRequirements (tokens : List Token) : Bool :=
  (Form.requirements.whole? grammar tokens).isSome

/-- Tokens without the attributes at their front. -/
def withoutAttributes (tokens : List Token) : List Token :=
  match Form.attributes.leading? grammar tokens with
  | some (_, rest) => rest
  | none => tokens

/-- Generic parameters up to a closing angle bracket, and the tokens after them. -/
def parameters? (tokens : List Token) : Option (List Argument × List Token) :=
  takeArguments? (Form.definitionParameter.leading? grammar) (tokens.length + 1) tokens

end BoundSql.Declaration
