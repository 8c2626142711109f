/-!
# Named pairs in order

Rows, bindings and JSON objects are lists of named values whose order is visible. Putting a
name that is present replaces its value where it stands; a new name goes last. The lemmas say
what `put` does to the names (`names_put`) and to a look-up (`find?_put_self`,
`find?_put_of_ne`).
-/

namespace BoundSql

/-- Named values in order; the first pair of a name decides what the name stands for. -/
abbrev Pairs (α : Type) := List (String × α)

namespace Pairs

variable {α : Type}

/-- The names, in order and with repetitions. -/
def names (ps : Pairs α) : List String :=
  ps.map (·.1)

/-- The value of the first pair called `name`. -/
def find? (name : String) : Pairs α → Option α
  | [] => none
  | (n, v) :: rest => if n = name then some v else find? name rest

/-- Replaces the value of the first pair called `name` where it stands, or appends a pair. -/
def put (name : String) (value : α) : Pairs α → Pairs α
  | [] => [(name, value)]
  | (n, v) :: rest => if n = name then (n, value) :: rest else (n, v) :: put name value rest

@[simp]
theorem names_nil : names ([] : Pairs α) = [] := rfl

@[simp]
theorem names_cons (p : String × α) (ps : Pairs α) : names (p :: ps) = p.1 :: names ps := rfl

@[simp]
theorem names_append (ps qs : Pairs α) : names (ps ++ qs) = names ps ++ names qs :=
  List.map_append

/-- A present name keeps its place and a new one goes last. -/
theorem names_put (name : String) (value : α) (ps : Pairs α) :
    names (put name value ps) = if name ∈ names ps then names ps else names ps ++ [name] := by
  induction ps with
  | nil => simp [put]
  | cons p ps ih =>
    by_cases h : p.1 = name
    · simp [put, h]
    · have h' : name ≠ p.1 := fun e => h e.symm
      simp only [put, if_neg h, names_cons, ih, List.mem_cons, h', false_or]
      split <;> simp

/-- Putting keeps the names distinct. -/
theorem nodup_names_put (name : String) (value : α) {ps : Pairs α} (h : (names ps).Nodup) :
    (names (put name value ps)).Nodup := by
  rw [names_put]
  split
  · exact h
  · rename_i absent
    rw [List.nodup_append]
    refine ⟨h, by simp, ?_⟩
    intro a ha b hb
    rw [List.mem_singleton] at hb
    subst hb
    exact fun e => absent (e ▸ ha)

/-- What was put is found. -/
@[simp]
theorem find?_put_self (name : String) (value : α) (ps : Pairs α) :
    find? name (put name value ps) = some value := by
  induction ps with
  | nil => simp [put, find?]
  | cons p ps ih => by_cases h : p.1 = name <;> simp [put, find?, h, ih]

/-- What was put is found under no other name. -/
theorem find?_put_of_ne {name other : String} (h : other ≠ name) (value : α) (ps : Pairs α) :
    find? other (put name value ps) = find? other ps := by
  induction ps with
  | nil => simp [put, find?, Ne.symm h]
  | cons p ps ih =>
    by_cases hp : p.1 = name
    · have : name ≠ other := Ne.symm h
      simp [put, find?, hp, this]
    · simp [put, find?, hp, ih]

/-- A name has a value exactly if some pair carries it. -/
theorem find?_isSome_iff {name : String} {ps : Pairs α} :
    (find? name ps).isSome = true ↔ name ∈ names ps := by
  induction ps with
  | nil => simp [find?]
  | cons p ps ih =>
    by_cases h : p.1 = name
    · simp [find?, h]
    · have h' : name ≠ p.1 := fun e => h e.symm
      simp [find?, h, h', ih]

end Pairs

end BoundSql
