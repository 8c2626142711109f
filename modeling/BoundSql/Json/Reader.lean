import BoundSql.Json
import BoundSql.Number.Scaling

/-!
# Reading JSON

Text is cut into tokens, and the tokens drive a machine whose stack holds the containers that
are open, however many these are. A repeated member name keeps its first place and takes its last
value.
-/

namespace BoundSql.Json

/-- The smallest unit of JSON text: a punctuation character or a scalar document. -/
inductive Token where
  | mark (c : Char)
  | scalar (j : Json)

/-! ## Numbers -/

/-- A number without its sign. An integer of 64 bits stays one, except for negative zero; every
other number is scaled. -/
def unsigned? (negative : Bool) (cs : List Char) : Option Json := do
  let literal := Number.Literal.ofChars cs
  let whole ← Number.ofDigits? literal.whole
  let n : Int := if negative then -(whole : Int) else whole
  if literal.hasLeadingZero then none
  else if literal.isInteger && !(negative && whole == 0) && -0x8000000000000000 ≤ n &&
      n < 0x10000000000000000 then
    some (.integer n)
  else (literal.scaled? negative).map .real

/-- A complete number literal. -/
def number? : List Char → Option Json
  | '-' :: cs => unsigned? true cs
  | cs => unsigned? false cs

/-- A character that may stand in a number. -/
def isNumberChar (c : Char) : Bool :=
  c.isDigit || c == '-' || c == '+' || c == '.' || c == 'e' || c == 'E'

/-! ## Strings -/

/-- The character that a short escape stands for. -/
def shortEscape? : Char → Option Char
  | '"' => some '"'
  | '\\' => some '\\'
  | '/' => some '/'
  | 'b' => some '\x08'
  | 'f' => some '\x0c'
  | 'n' => some '\n'
  | 'r' => some '\r'
  | 't' => some '\t'
  | _ => none

/-- The characters of a string up to its closing quote, and the text after that. `high` is the
first half of a surrogate pair whose second half has to follow at once. -/
def stringBody? (high : Option Nat) (done : List Char) :
    List Char → Option (String × List Char)
  | [] => none
  | '"' :: rest => if high.isSome then none else some (String.ofList done.reverse, rest)
  | '\\' :: 'u' :: a :: b :: c :: d :: rest =>
    match Number.ofHexDigits? [a, b, c, d], high with
    | none, _ => none
    | some n, none =>
      if 0xD800 ≤ n && n < 0xDC00 then stringBody? (some n) done rest
      else if 0xDC00 ≤ n && n < 0xE000 then none
      else stringBody? none (Char.ofNat n :: done) rest
    | some n, some h =>
      if 0xDC00 ≤ n && n < 0xE000 then
        stringBody? none (Char.ofNat (0x10000 + (h - 0xD800) * 1024 + (n - 0xDC00)) :: done) rest
      else none
  | '\\' :: c :: rest =>
    if high.isSome then none
    else match shortEscape? c with
      | none => none
      | some e => stringBody? none (e :: done) rest
  | c :: rest =>
    if high.isSome || c.toNat < 0x20 then none
    else stringBody? none (c :: done) rest

/-- What follows a string is shorter than what it was read from. -/
theorem length_lt_of_stringBody? {high : Option Nat} {done cs : List Char} {s : String}
    {rest : List Char} (h : stringBody? high done cs = some (s, rest)) :
    rest.length < cs.length := by
  fun_induction stringBody? high done cs <;> simp_all <;> omega

/-! ## Tokens -/

/-- White space between tokens. -/
def isSpace (c : Char) : Bool :=
  c == ' ' || c == '\t' || c == '\n' || c == '\r'

/-- Punctuation between values. -/
def isMark (c : Char) : Bool :=
  c == '[' || c == ']' || c == '\x7b' || c == '\x7d' || c == ':' || c == ','

/-- The tokens of a text, if every character belongs to one. -/
def tokens? (cs : List Char) : Option (List Token) :=
  match cs with
  | [] => some []
  | 't' :: 'r' :: 'u' :: 'e' :: rest => (tokens? rest).map (.scalar (.bool true) :: ·)
  | 'f' :: 'a' :: 'l' :: 's' :: 'e' :: rest => (tokens? rest).map (.scalar (.bool false) :: ·)
  | 'n' :: 'u' :: 'l' :: 'l' :: rest => (tokens? rest).map (.scalar .null :: ·)
  | '"' :: rest =>
    match h : stringBody? none [] rest with
    | none => none
    | some (s, after) =>
      have := length_lt_of_stringBody? h
      (tokens? after).map (.scalar (.string s) :: ·)
  | c :: rest =>
    if isSpace c then tokens? rest
    else if isMark c then (tokens? rest).map (.mark c :: ·)
    else if isNumberChar c then
      have := (List.dropWhile_suffix isNumberChar (l := rest)).length_le
      match number? (c :: rest.takeWhile isNumberChar) with
      | none => none
      | some j => (tokens? (rest.dropWhile isNumberChar)).map (.scalar j :: ·)
    else none
termination_by cs.length
decreasing_by all_goals (simp_all <;> omega)

/-! ## Documents -/

/-- A container that is still open: the items so far, the latest first, or the members so far
and the name of the member being read. -/
inductive Frame where
  | array (items : List Json)
  | object (members : Pairs Json) (name : String)

/-- What may come next. -/
inductive Expect where
  | value
  | valueOrClose
  | name
  | nameOrClose
  | colon
  | commaOrClose
  | nothing
deriving DecidableEq

/-- The machine between two tokens. -/
structure Machine where
  opened : List Frame
  expect : Expect
  result : Option Json

/-- The machine before the first token. -/
def Machine.start : Machine := ⟨[], .value, none⟩

/-- Opens a container. -/
def Machine.enter (m : Machine) (frame : Frame) (expect : Expect) : Machine :=
  ⟨frame :: m.opened, expect, none⟩

/-- Hands a complete value to the innermost open container. -/
def Machine.deliver (m : Machine) (j : Json) : Machine :=
  match m.opened with
  | [] => ⟨[], .nothing, some j⟩
  | .array items :: rest => ⟨.array (j :: items) :: rest, .commaOrClose, none⟩
  | .object members name :: rest =>
    ⟨.object (Pairs.put name j members) name :: rest, .commaOrClose, none⟩

/-- Closes the innermost container, which becomes a value of the one around it. -/
def Machine.leave (m : Machine) : Option Machine :=
  match m.opened with
  | [] => none
  | .array items :: rest => some (Machine.deliver ⟨rest, .value, none⟩ (.array items.reverse))
  | .object members _ :: rest => some (Machine.deliver ⟨rest, .value, none⟩ (.object members))

/-- Whether the innermost open container is an array. -/
def Machine.inArray (m : Machine) : Bool :=
  match m.opened with
  | .array _ :: _ => true
  | _ => false

/-- One token, if it may come next. -/
def Machine.step (m : Machine) : Token → Option Machine
  | .mark '[' =>
    match m.expect with
    | .value | .valueOrClose => some (m.enter (.array []) .valueOrClose)
    | _ => none
  | .mark '\x7b' =>
    match m.expect with
    | .value | .valueOrClose => some (m.enter (.object [] "") .nameOrClose)
    | _ => none
  | .mark ']' =>
    match m.expect with
    | .valueOrClose => m.leave
    | .commaOrClose => if m.inArray then m.leave else none
    | _ => none
  | .mark '\x7d' =>
    match m.expect with
    | .nameOrClose => m.leave
    | .commaOrClose => if m.inArray then none else m.leave
    | _ => none
  | .mark ',' =>
    match m.expect with
    | .commaOrClose => some { m with expect := if m.inArray then .value else .name }
    | _ => none
  | .mark ':' =>
    match m.expect with
    | .colon => some { m with expect := .value }
    | _ => none
  | .mark _ => none
  | .scalar j =>
    match m.expect, m.opened, j with
    | .value, _, _ | .valueOrClose, _, _ => some (m.deliver j)
    | .name, .object members _ :: rest, .string s
    | .nameOrClose, .object members _ :: rest, .string s =>
      some ⟨.object members s :: rest, .colon, none⟩
    | _, _, _ => none

/-- The document that a text writes. -/
def parse? (s : String) : Option Json := do
  let tokens ← tokens? s.toList
  let final ← tokens.foldlM Machine.step Machine.start
  final.result

end BoundSql.Json
