import BoundSql.Value

/-!
# Bindings

The values bound to the placeholders of a statement. A placeholder `:id` and the name `id` mean
the same binding, so a binding is kept under its bare name and shown with the marker. Names are
distinct: binding a name again replaces the value and keeps the place. `bindFresh` never
replaces: it looks for a name that is free.
-/

namespace BoundSql

/-- The placeholder of a bare name. -/
def placeholder (name : String) : String :=
  ":" ++ name

/-- The name without one leading marker, if there is one. -/
def bareName (name : String) : String :=
  match name.toList with
  | ':' :: rest => String.ofList rest
  | _ => name

/-- The marker that is put in front is the one that is taken off. -/
@[simp]
theorem bareName_placeholder (name : String) : bareName (placeholder name) = name := by
  simp [bareName, placeholder]

theorem placeholder_inj {a b : String} : placeholder a = placeholder b ↔ a = b := by
  simp [placeholder]

/-- Values under the placeholders of their names. -/
def marked (pairs : Pairs Value) : List (String × Value) :=
  pairs.map fun (name, value) => (placeholder name, value)

/-- Values by distinct bare names, in the order of their first binding. -/
structure Params where
  entries : Pairs Value
  distinct : (Pairs.names entries).Nodup
deriving DecidableEq

namespace Params

@[ext]
theorem ext {p q : Params} (h : p.entries = q.entries) : p = q := by
  cases p; cases q; cases h; rfl

/-- No bindings. -/
def empty : Params := ⟨[], List.nodup_nil⟩

instance : Inhabited Params := ⟨empty⟩

/-- The number of bindings. -/
def size (p : Params) : Nat := p.entries.length

/-- Whether nothing is bound. -/
def isEmpty (p : Params) : Bool := p.entries.isEmpty

/-- The placeholders with their values, in order. -/
def toList (p : Params) : List (String × Value) :=
  marked p.entries

/-- The placeholders, in order. -/
def placeholders (p : Params) : List String :=
  p.entries.map fun (name, _) => placeholder name

/-- The value bound under a name, given with or without the marker. -/
def get? (p : Params) (name : String) : Option Value :=
  Pairs.find? (bareName name) p.entries

/-- Whether a name is bound, given with or without the marker. -/
def contains (p : Params) (name : String) : Bool :=
  (p.get? name).isSome

/-- Binds a value under a name, given with or without the marker. -/
def bind (p : Params) (name : String) (value : Value) : Params :=
  ⟨Pairs.put (bareName name) value p.entries, Pairs.nodup_names_put _ _ p.distinct⟩

/-- Binds the pairs one after another. -/
def bindAll (p : Params) (pairs : List (String × Value)) : Params :=
  pairs.foldl (fun acc (name, value) => acc.bind name value) p

/-- The bindings made by the pairs alone. -/
def ofList (pairs : List (String × Value)) : Params :=
  empty.bindAll pairs

/-- Takes over the bindings of `other`, whose values win. -/
def merge (p other : Params) : Params :=
  p.bindAll other.toList

/-- Whether both bind equal values to the same names in the same order. -/
def same (p other : Params) : Bool :=
  p.toList.length == other.toList.length &&
    (p.toList.zip other.toList).all fun (a, b) => a.1 == b.1 && a.2.same b.2

/-! ## Fresh names -/

/-- A column with a number after it. -/
def suffixed (column : String) (n : Nat) : String :=
  column ++ toString n

/-- Different numbers make different names. -/
theorem suffixed_inj {column : String} {m n : Nat} :
    suffixed column m = suffixed column n ↔ m = n := by
  constructor
  · intro h
    have h := congrArg String.toList h
    simp only [suffixed, String.toList_append, List.append_cancel_left_eq,
      Nat.toString_eq_repr, Nat.toList_repr] at h
    -- the digits behind the column are read back as the numbers
    rw [← Nat.ofDigitChars_ten_toDigits (n := m), h, Nat.ofDigitChars_ten_toDigits]
  · rintro rfl; rfl

/-- A column with a number is not the column. -/
theorem suffixed_ne_self (column : String) (n : Nat) : suffixed column n ≠ column := by
  intro h
  have h := congrArg String.toList h
  simp [suffixed, Nat.toList_repr, Nat.toDigits_ne_nil] at h

/-- The first name of `candidate`, `column` with `counter`, `column` with `counter + 1` and so on
that is not taken, with the counter after the suffixes tried. A taken candidate is never tried
again, so it is struck from the list of taken names, which bounds the search. -/
def freshName (taken : List String) (column candidate : String) (counter : Nat) : String × Nat :=
  if candidate ∈ taken then
    freshName (taken.erase candidate) column (suffixed column counter) (counter + 1)
  else (candidate, counter)
termination_by taken.length
decreasing_by
  rename_i h
  have := List.length_erase_of_mem h
  have := List.length_pos_of_mem h
  omega

/-- The name found is the candidate or a later suffixed one. -/
theorem freshName_fst (taken : List String) (column candidate : String) (counter : Nat) :
    (freshName taken column candidate counter).1 = candidate ∨
      ∃ n, counter ≤ n ∧ (freshName taken column candidate counter).1 = suffixed column n := by
  fun_induction freshName taken column candidate counter with
  | case1 taken candidate counter h ih =>
    rcases ih with ih | ⟨n, hn, ih⟩
    · exact .inr ⟨counter, Nat.le_refl _, ih⟩
    · exact .inr ⟨n, by omega, ih⟩
  | case2 taken candidate counter h => exact .inl rfl

/-- The name found is free, provided that the candidate is none of the suffixed names. -/
theorem freshName_fst_not_mem (taken : List String) (column candidate : String) (counter : Nat)
    (h : ∀ n, counter ≤ n → candidate ≠ suffixed column n) :
    (freshName taken column candidate counter).1 ∉ taken := by
  fun_induction freshName taken column candidate counter with
  | case1 taken candidate counter hmem ih =>
    have later : ∀ n, counter + 1 ≤ n → suffixed column counter ≠ suffixed column n := by
      intro n hn e
      have := suffixed_inj.1 e
      omega
    have found := ih later
    -- The candidate is struck, not free: it must not be what the search for another ends with.
    have differs : (freshName (taken.erase candidate) column (suffixed column counter)
        (counter + 1)).1 ≠ candidate := by
      rcases freshName_fst (taken.erase candidate) column (suffixed column counter) (counter + 1)
        with e | ⟨n, hn, e⟩
      · rw [e]; exact fun e' => h counter (Nat.le_refl _) e'.symm
      · rw [e]; exact fun e' => h n (by omega) e'.symm
    exact fun hin => found ((List.mem_erase_of_ne differs).2 hin)
  | case2 taken candidate counter hmem => exact hmem

/-- A fresh binding: the bare name that was free, the counter after it and the bindings with it. -/
structure Fresh where
  name : String
  counter : Nat
  params : Params

/-- Binds a value under the column's own name if that is free, else under the column with the
first number from `counter` on that makes it free. The binding goes last. -/
def bindFresh (p : Params) (column : String) (value : Value) (counter : Nat) : Fresh :=
  let found := freshName (Pairs.names p.entries) column column counter
  { name := found.1
    counter := found.2
    params :=
      { entries := p.entries ++ [(found.1, value)]
        distinct := by
          have free : found.1 ∉ Pairs.names p.entries :=
            freshName_fst_not_mem _ column column counter
              fun n _ => (suffixed_ne_self column n).symm
          rw [Pairs.names_append, List.nodup_append]
          refine ⟨p.distinct, by simp, ?_⟩
          intro a ha b hb
          simp only [Pairs.names_cons, Pairs.names_nil, List.mem_singleton] at hb
          subst hb
          exact fun e => free (e ▸ ha) } }

end Params

end BoundSql
