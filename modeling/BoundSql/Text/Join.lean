/-!
# Joined text

Parts of a statement stand after one another with a separator between them.
-/

namespace BoundSql.Text

/-- The parts in order, with `separator` between each two of them. -/
def join (separator : String) : List String → String
  | [] => ""
  | [part] => part
  | part :: next :: rest => part ++ separator ++ join separator (next :: rest)

@[simp]
theorem join_nil (separator : String) : join separator [] = "" := rfl

@[simp]
theorem join_singleton (separator part : String) : join separator [part] = part := rfl

theorem join_cons_cons (separator part next : String) (rest : List String) :
    join separator (part :: next :: rest) = part ++ separator ++ join separator (next :: rest) :=
  rfl

end BoundSql.Text
