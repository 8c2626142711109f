/-!
# Runs of code points

Classes of characters are tables of runs: an entry is a row of code points that are `step` apart.
-/

namespace BoundSql.Text

/-- The code points `first, first + step, …, last`. -/
structure Run where
  first : Nat
  last : Nat
  step : Nat
deriving Repr

/-- Whether a code point belongs to a run. -/
def Run.contains (r : Run) (n : Nat) : Bool :=
  r.first ≤ n && n ≤ r.last && (n - r.first) % r.step == 0

/-- Whether a character belongs to one of several runs. -/
def inRuns (runs : Array Run) (c : Char) : Bool :=
  runs.any (·.contains c.toNat)

end BoundSql.Text
