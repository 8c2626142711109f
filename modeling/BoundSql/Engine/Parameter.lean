import BoundSql.Error
import BoundSql.Engine.Cell
import BoundSql.Number.Digits
import BoundSql.Params

/-!
# Parameters of a prepared statement

A prepared statement has parameters numbered from one, and some of them have names. In the text,
`?` is the parameter with the next number, `?12` the one with number twelve, and a name such as
`:id` the one with the number it had at its first place. Before a statement runs, the bindings are
given to the parameters with their names; then every parameter needs a value.
-/

namespace BoundSql.Engine

/-- The name of each parameter, from number one on. -/
abbrev Parameters := List (Option String)

namespace Parameters

/-- The greatest number of a parameter. -/
def maxNumber : Nat := 32766

/-- The position of the parameter with a name. -/
def index? (names : Parameters) (name : String) : Option Nat :=
  names.findIdx? (· == some name)

/-! ## Numbering -/

/-- Parameters up to number `n`, the last one named after its number unless it has a name. -/
def declareNumber (names : Parameters) (n : Nat) (text : String) : Parameters :=
  if names.length < n then names ++ List.replicate (n - names.length - 1) none ++ [some text]
  else if names[n - 1]? = some none then names.set (n - 1) (some text)
  else names

/-- The parameters with one more at the end, and its position. -/
def extend (names : Parameters) (name : Option String) : Option (Nat × Parameters) :=
  if names.length < maxNumber then some (names.length, names ++ [name]) else none

/-- The position of a parameter as it is written, and the parameters with it. -/
def declare (names : Parameters) (text : String) : Option (Nat × Parameters) :=
  match text.toList with
  | ['?'] => names.extend none
  | '?' :: digits =>
    let n := Number.ofDigits digits
    if 1 ≤ n ∧ n ≤ maxNumber then some (n - 1, names.declareNumber n text) else none
  | _ =>
    match names.index? text with
    | some i => some (i, names)
    | none => names.extend (some text)

/-! ## Binding -/

/-- Gives the bindings one after another to the parameters with their names. A binding whose name
no parameter has is passed over. -/
def give (names : Parameters) (slots : List (Option Value)) :
    List (String × Value) → List (Option Value)
  | [] => slots
  | (name, value) :: rest =>
    match names.index? name with
    | none => give names slots rest
    | some i => give names (slots.set i (some value)) rest

/-- What the parameter with number `n` is called in messages. -/
def label (names : Parameters) (n : Nat) : String :=
  (names[n - 1]?.join).getD ("?" ++ toString n)

/-- The values of the parameters from number `n` on, or the number of the first without one. -/
def complete (n : Nat) : List (Option Value) → Except Nat (List Value)
  | [] => .ok []
  | none :: _ => .error n
  | some value :: rest => (complete (n + 1) rest).map (value :: ·)

/-- The value of every parameter, or a fault that names the first parameter without one. -/
def assign (names : Parameters) (params : Params) : Except DatabaseFault (List Value) :=
  let slots := names.give (names.map fun _ => none) params.toList
  (complete 1 slots).mapError fun n => .invalidParameterName (names.label n)

end Parameters

end BoundSql.Engine
